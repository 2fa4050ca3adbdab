import Enclavia.Volume.Completion
import Enclavia.Volume.Walks

open interaction enclavia.protocol

namespace enclavia.crypto

/-- What holds of a history whatever KMS and the storage host answer: the running image's passphrase opens the volume,
and a key in the slot of the stash is the one that was added since the stash was written. -/
structure Accounted (s : State) : Prop where
  drawn : ∀ n key, s.world.slots n = some key → key ∈ s.world.drawn
  opened : ∀ key, s.opened = some key → luks.Opens s.world.slots key
  closed : s.opened = none → s.world.stash = none
  stash : ∀ stash, s.world.stash = some (.whole stash) → ∀ key, s.world.slots stash.new_keyslot = some key →
    s.added = some (stash.new_keyslot, key) ∧ s.opened ≠ some key

/-- Slot `n` is that of the stash. -/
def KillsAdded (s : State) (n : Nat) : Prop :=
  ∃ stash, s.world.stash = some (.whole stash) ∧ stash.new_keyslot = n ∧
    ∀ key, s.world.slots n = some key → s.added = some (n, key) ∧ s.opened ≠ some key

def Asked (command : Command) (s : State) (e : Effect) : Prop :=
  Accounted s ∧ (command = .revoke_upgrade → ∀ n file, e = .luksKillSlot n file → KillsAdded s n)

variable {file : Option StashFile}

section Histories

variable {codecs : Codecs} {env : Env} {s t : State} {w' : World} {n : Nat} {command : Command} {α : Type}

namespace Accounted

theorem same (h : Accounted s) (hsame : World.Same s.world w') : Accounted { s with world := w' } where
  drawn n key hlive := hsame.drawn (h.drawn n key ((congrFun hsame.slots n).symm.trans hlive))
  opened key hopened := by
    obtain ⟨n, hn⟩ := h.opened key hopened
    exact ⟨n, (congrFun hsame.slots n).trans hn⟩
  closed hclosed := hsame.stash.trans (h.closed hclosed)
  stash stash hstash key hlive :=
    h.stash stash (hsame.stash.symm.trans hstash) key ((congrFun hsame.slots _).symm.trans hlive)

theorem put (h : Accounted s) {data : List UInt8} :
    Accounted { s with world := { s.world with blob := data } } :=
  ⟨h.drawn, h.opened, h.closed, h.stash⟩

theorem removed (h : Accounted s) (hopen : s.opened ≠ none) (hfile : ∀ stash, file ≠ some (.whole stash)) :
    Accounted { s with world := { s.world with stash := file } } :=
  ⟨h.drawn, h.opened, fun hclosed => absurd hclosed hopen, fun stash hstash => absurd hstash (hfile stash)⟩

theorem kill (h : Accounted s) (hother : ∀ key, s.opened = some key → s.world.slots n ≠ some key) :
    Accounted { s with world := { s.world with slots := luks.kill_slot s.world.slots n } } where
  drawn m key hlive := by
    by_cases hm : m = n
    · subst hm
      cases luks.kill_slot_self.symm.trans hlive
    · exact h.drawn m key ((luks.kill_slot_of_ne hm).symm.trans hlive)
  opened key hopened := by
    obtain ⟨m, hm⟩ := h.opened key hopened
    have hne : m ≠ n := by
      rintro rfl
      exact hother key hopened hm
    exact ⟨m, (luks.kill_slot_of_ne hne).trans hm⟩
  closed := h.closed
  stash stash hstash key hlive := by
    by_cases hn : stash.new_keyslot = n
    · subst hn
      cases luks.kill_slot_self.symm.trans hlive
    · exact h.stash stash hstash key ((luks.kill_slot_of_ne hn).symm.trans hlive)

end Accounted

def Mild (e : Effect) : Prop := World.Quiet e ∨ ∃ data, e = .meta_put data

theorem guards_of_mild {p : Proc α} (hmild : Program.Obeys (fun _ _ => True) Mild p) (h : Accounted s) :
    Program.Guards (State.Step env) (Asked command) (fun _ => Accounted) p s := by
  induction p generalizing s with
  | ret value => exact h
  | act e next ih =>
    refine ⟨⟨h, ?_⟩, ?_⟩
    · rintro - n file rfl
      rcases hmild.1 with hquiet | ⟨data, hdata⟩
      · exact hquiet.elim
      · cases hdata
    rintro answer s' ⟨w', hstep, rfl⟩
    refine ih answer (hmild.2 answer trivial) ?_
    rcases hmild.1 with hquiet | ⟨data, rfl⟩
    · have hobserve : s.observe e w' = { s with world := w' } := by
        cases e with
        | write_rollback_stash stash | luksAddKey n file new_file => exact hquiet.elim
        | _ => rfl
      rw [hobserve]
      exact h.same (hstep.same hquiet)
    · rcases hstep.meta_put with rfl | ⟨rfl, -⟩
      · exact h.put
      · exact h

theorem init_mild : Program.Obeys (fun _ _ => True) Mild (init codecs) := by
  have hquiet : ∀ {β : Type} {p : Proc β}, AsksQuiet p → Program.Obeys (fun _ _ => True) Mild p := by
    intro β p h
    induction p with
    | ret value => trivial
    | act e next ih => exact ⟨.inl h.1, fun answer _ => ih answer (h.2 answer trivial)⟩
  have hput : ∀ {data : List UInt8}, Mild (.meta_put data) := fun {data} => .inr ⟨data, rfl⟩
  have hdelete : ∀ blob, Program.Obeys (fun _ _ => True) Mild (delete_previous codecs blob) := by
    intro blob
    unfold delete_previous
    split
    · trivial
    refine ⟨.inl trivial, ?_⟩
    rintro (message | _) -
    · trivial
    refine ⟨hput, ?_⟩
    rintro (message | _) - <;> trivial
  have hunwrap : ∀ key_id ct what, AsksQuiet (unwrap codecs key_id ct what) := by
    intro key_id ct what
    unfold unwrap
    split
    · trivial
    refine ⟨trivial, ?_⟩
    rintro (message | plaintext) -
    · trivial
    dsimp only
    split <;> trivial
  have hboot : ∀ blob, Program.Obeys (fun _ _ => True) Mild (boot_passphrase codecs blob) := by
    intro blob
    unfold boot_passphrase
    split
    · refine ⟨.inl trivial, fun passphrase _ => ⟨.inl trivial, ?_⟩⟩
      rintro (message | pubkey_der) -
      · trivial
      refine ⟨.inl trivial, ?_⟩
      rintro (message | ciphertext) -
      · trivial
      refine ⟨hput, ?_⟩
      rintro (message | _) - <;> trivial
    · refine (hquiet (hunwrap _ _ _)).bind ?_
      rintro (message | plaintext) <;> trivial
  refine ⟨.inl trivial, ?_⟩
  rintro (message | raw) -
  · trivial
  dsimp only
  split
  · trivial
  refine (hquiet verify_key_policy_quiet).bind ?_
  rintro (message | _)
  · trivial
  refine (hboot _).bind ?_
  rintro (message | ⟨passphrase, blob⟩)
  · trivial
  refine ⟨.inl trivial, ?_⟩
  rintro (message | _) -
  · trivial
  · exact hdelete blob

theorem keeps_accounted : Keeps (Asked command) Accounted :=
  ⟨fun _ _ h hno => ⟨h, fun _ n file heq => absurd heq (hno n file)⟩, fun _ _ h => h.same⟩

theorem Accounted.add_key (h : Accounted s) {key : List UInt8} (hopen : s.opened ≠ none)
    (hfresh : ∀ opened, s.opened = some opened → opened ≠ key) (hdrawn : key ∈ s.world.drawn)
    (hfree : s.world.slots n = none) (hadded : s.added = none)
    (hstash : ∀ stash, s.world.stash = some (.whole stash) → stash.new_keyslot = n) {file new_file : KeyFile} :
    Accounted (s.observe (.luksAddKey n file new_file)
      { s.world with slots := luks.add_key s.world.slots n key }) where
  drawn m key' hlive := by
    by_cases hm : m = n
    · subst hm
      cases luks.add_key_self.symm.trans hlive
      exact hdrawn
    · exact h.drawn m key' ((luks.add_key_of_ne hm).symm.trans hlive)
  opened key' hopened := by
    obtain ⟨m, hm⟩ := h.opened key' hopened
    exact ⟨m, luks.add_key_live hfree hm⟩
  closed hclosed := absurd hclosed hopen
  stash stash hwhole key' hlive := by
    rw [hstash stash hwhole] at hlive ⊢
    cases luks.add_key_self.symm.trans hlive
    refine ⟨?_, fun hopened => hfresh _ hopened rfl⟩
    have hkey : added_key s.world.slots (luks.add_key s.world.slots n key) n = some (n, key) := by
      rw [added_key, luks.add_key_self, if_neg (by rw [hfree]; nofun), Option.map_some]
    change (added_key s.world.slots (luks.add_key s.world.slots n key) n).or s.added = _
    rw [hkey, hadded]
    rfl

theorem Accounted.stashed (h : Accounted s) (hopen : s.opened ≠ none)
    (hfile : ∀ stash, file = some (.whole stash) → s.world.slots stash.new_keyslot = none) :
    Accounted (s.stashed file) where
  drawn := h.drawn
  opened := h.opened
  closed hclosed := absurd hclosed hopen
  stash stash hstash key hlive := by
    cases (hfile stash hstash).symm.trans hlive

theorem prepare_upgrade_accounted {args : PrepareUpgrade} (h : Accounted s) (hopen : s.opened ≠ none) :
    Program.Guards (State.Step env) (Asked (.prepare_upgrade args)) (fun _ => Accounted) (prepare_upgrade codecs args)
      s := by
  refine keeps_accounted.prepare_upgrade h ?_
  intro t prepared n ht hst hready hfree
  have hopened : t.opened = s.opened := by rw [hst]
  have hfresh : ∀ key, s.opened = some key → key ≠ prepared.new_passphrase := by
    rintro key hkey rfl
    obtain ⟨m, hm⟩ := h.opened _ hkey
    exact hready.fresh (h.drawn m _ hm)
  -- the slot of the stash is free, so there is nothing to account for yet
  have hstashed : Accounted (t.stashed (some (.whole ⟨codecs.from_utf8_lossy prepared.raw, n⟩))) := by
    apply ht.stashed (hopened ▸ hopen)
    intro stash hstash
    cases hstash
    exact hfree
  refine Keeps.add_new_key
    (A := fun u => Accounted u ∧ u.opened = s.opened ∧ ∀ key, s.opened = some key → u.world.slots n ≠ some key)
    (fun _ _ hu => ⟨hu, nofun⟩) (fun _ => And.left) ?_ ?_ (fun _ hu _ => hu.1.put) ht hready ?_ ?_ ?_
  · rintro u ⟨hu, hsame, -⟩
    exact hu.removed (hsame ▸ hopen) nofun
  · rintro u ⟨hu, hsame, hother⟩ -
    refine ⟨hu.kill fun key hkey => hother key (hsame ▸ hkey), hsame, ?_⟩
    intro key _ hlive
    cases luks.kill_slot_self.symm.trans hlive
  · intro file hfile
    exact ht.stashed (hopened ▸ hopen) fun stash hstash => absurd hstash (hfile stash)
  · refine ⟨hstashed, hopened, ?_⟩
    intro key _ hlive
    cases hfree.symm.trans hlive
  · refine ⟨hstashed.add_key (hopened ▸ hopen) ?_ hready.drawn hfree rfl ?_, hopened, ?_⟩
    · intro key hkey
      exact hfresh key (hopened ▸ hkey)
    · intro stash hstash
      cases hstash
      rfl
    · intro key hkey hlive
      exact hfresh key hkey (Option.some.inj (luks.add_key_self.symm.trans hlive)).symm

theorem revoke_upgrade_accounted (h : Accounted s) (hopen : s.opened ≠ none) :
    Program.Guards (State.Step env) (Asked .revoke_upgrade) (fun _ => Accounted) (revoke_upgrade codecs) s := by
  refine keeps_accounted.revoke_upgrade h ?_
  intro t stash passphrase ht hst hsame hwhole _ _
  have hstash : t.world.stash = some (.whole stash) := hsame.stash.trans hwhole
  have hadded := ht.stash stash hstash
  refine keeps_accounted.roll_back ht ⟨ht, ?_⟩ (fun _ => ht.kill fun key hkey hlive => (hadded key hlive).2 hkey) ?_
  · rintro - n file heq
    cases heq
    exact ⟨stash, hstash, rfl, hadded⟩
  · intro slots key _ _ hslots
    have hopened : t.opened ≠ none := by
      rw [hst]
      exact hopen
    exact ⟨hslots.put, hslots.put.removed hopened nofun⟩

end Histories

/-- In every history, whatever fails and whatever KMS and the storage host answer, `revoke-upgrade` kills no slot but
one whose key the command that wrote the stash has added in the same boot, and that the running image's passphrase
doesn't open; and the running image's passphrase always opens the volume. -/
theorem revoke_kills_only_added {codecs : Codecs} {env : Env} {rules : Rules} {m₀ m : Machine}
    (hidle : m₀.running = none) (hinit : Accounted m₀.state) (hreaches : Machine.Reaches codecs env rules m₀ m) :
    (∀ n file next, m.running = some (.revoke_upgrade, .act (.luksKillSlot n file) next) → KillsAdded m.state n) ∧
      ∀ key, m.state.opened = some key → luks.Opens m.state.world.slots key := by
  have hinv := Machine.invariant (I := Asked) ?_ (fun _ _ _ h => h.1) ?_ ?_ hidle hinit hreaches
  · refine ⟨?_, hinv.1.opened⟩
    intro n file next hrunning
    exact (hinv.2 _ _ hrunning).1.2 rfl n file rfl
  · intro s command hs hrule hopened
    have hs' : Accounted { s with began := s.world } := ⟨hs.drawn, hs.opened, hs.closed, hs.stash⟩
    cases command with
    | init => exact guards_of_mild init_mild hs'
    | prepare_upgrade args => exact prepare_upgrade_accounted hs' fun hclosed => nomatch hopened.mpr hclosed
    | revoke_upgrade => exact revoke_upgrade_accounted hs' fun hclosed => nomatch hopened.mpr hclosed
  · intro s key hs hclosed hopens
    refine ⟨hs.drawn, ?_, nofun, ?_⟩
    · intro key' hkey'
      cases hkey'
      exact hopens
    · intro stash hstash
      cases (hs.closed hclosed).symm.trans hstash
  · intro s image hs himage
    exact ⟨hs.drawn, nofun, fun _ => rfl, nofun⟩

theorem sample.accounted : Accounted sample.machine.state where
  drawn n key hlive := by
    by_cases hn : n = 0
    · subst hn
      cases hlive
      exact List.mem_singleton_self _
    · exact absurd hlive (by simp [sample.machine, sample.world, hn])
  opened key hkey := by
    cases hkey
    exact ⟨0, rfl⟩
  closed := nofun
  stash := nofun

theorem sample.reaches_kill : ∃ s next, Machine.Reaches sample.codecs sample.env sample.any sample.machine
    { state := s, running := some (.revoke_upgrade, .act (.luksKillSlot 1 .current) next) } := by
  obtain ⟨s, hreaches, hworld, hopened⟩ := sample.reaches_upgraded sample.any trivial
  obtain ⟨next, hexec⟩ := sample.upgraded_exec_kill
  obtain ⟨s', hreaches', -⟩ := @Machine.reaches_of_exec sample.codecs sample.env sample.any
    { state := { s with began := s.world }, running := some (.revoke_upgrade, revoke_upgrade sample.codecs) }
    .revoke_upgrade _ _ _ rfl (hworld ▸ hexec)
  refine ⟨s', next, (hreaches.tail (.start .revoke_upgrade rfl trivial ?_)).trans hreaches'⟩
  rw [hopened]
  exact ⟨nofun, nofun⟩

/-- The upgrade has been prepared and is revoked, and the slot that was added for it is about to be killed. -/
theorem revoke_kills_only_added_prepared :
    ∃ s next, Machine.Reaches sample.codecs sample.env sample.any sample.machine
        { state := s, running := some (.revoke_upgrade, .act (.luksKillSlot 1 .current) next) } ∧
      KillsAdded s 1 ∧ ∀ key, s.opened = some key → luks.Opens s.world.slots key := by
  obtain ⟨s, next, hreaches⟩ := sample.reaches_kill
  obtain ⟨hkills, hopens⟩ := revoke_kills_only_added rfl sample.accounted hreaches
  exact ⟨s, next, hreaches, hkills 1 .current next rfl, hopens⟩

end enclavia.crypto
