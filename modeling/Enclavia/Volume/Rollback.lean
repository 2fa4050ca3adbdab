import Enclavia.Volume.Reboot

open interaction enclavia.protocol

namespace enclavia.crypto

def StoresOld (provision : Provision) (codecs : Codecs) (raw : List UInt8) : Prop :=
  ∃ blob, raw = codecs.to_vec blob ∧ provision.Old blob

/-- What holds within a boot of the image: without a stash its blob is stored. -/
structure Staged (provision : Provision) (codecs : Codecs) (s : State) : Prop where
  image : s.world.image = provision.own
  serving : s.opened ≠ none
  drawn : provision.passphrase ∈ s.world.drawn
  slot : s.world.slots provision.slot = some provision.passphrase
  blob : (∀ stash, s.world.stash ≠ some (.whole stash)) → StoresOld provision codecs s.world.blob
  stash : ∀ stash, s.world.stash = some (.whole stash) →
    stash.pre_prepare_blob = s.base.blob ∧ StoresOld provision codecs s.base.blob ∧
      s.base.slots stash.new_keyslot = none ∧ s.base.slots provision.slot = some provision.passphrase ∧
      (s.world.slots = s.base.slots ∨ ∃ key, key ≠ provision.passphrase ∧
        s.world.slots = luks.add_key s.base.slots stash.new_keyslot key)

/-- What is stored and what is live is as it was when the command that wrote the stash began. -/
def RolledBack (base : World) (result : Except String Unit) (w : World) : Prop :=
  result = .ok () ∧ w.blob = base.blob ∧ w.slots = base.slots

section Histories

variable {provision : Provision} {codecs : Codecs} {env : Env} {s t : State} {w w' : World} {n : Nat} {α : Type}

namespace Staged

theorem same (h : Staged provision codecs s) (hsame : World.Same s.world w') :
    Staged provision codecs { s with world := w' } where
  image := hsame.image.trans h.image
  serving := h.serving
  drawn := hsame.drawn h.drawn
  slot := (congrFun hsame.slots _).trans h.slot
  blob hnone := by
    have hblob := h.blob fun stash hstash => hnone stash (hsame.stash.trans hstash)
    rw [← hsame.blob] at hblob
    exact hblob
  stash stash hstash := by
    have hstaged := h.stash stash (hsame.stash.symm.trans hstash)
    rw [← hsame.slots] at hstaged
    exact hstaged

theorem removed (h : Staged provision codecs s) {file : Option StashFile} (hfile : ∀ stash, file ≠ some (.whole stash))
    (hblob : StoresOld provision codecs s.world.blob) :
    Staged provision codecs { s with world := { s.world with stash := file } } :=
  ⟨h.image, h.serving, h.drawn, h.slot, fun _ => hblob, fun stash hstash => absurd hstash (hfile stash)⟩

theorem put (h : Staged provision codecs s) {data : List UInt8}
    (hdata : (∀ stash, s.world.stash ≠ some (.whole stash)) → StoresOld provision codecs data) :
    Staged provision codecs { s with world := { s.world with blob := data } } :=
  ⟨h.image, h.serving, h.drawn, h.slot, hdata, h.stash⟩

theorem kill (h : Staged provision codecs s) {stash : UpgradeRollbackStash}
    (hstash : s.world.stash = some (.whole stash)) (hlive : s.world.slots stash.new_keyslot ≠ none) :
    Staged provision codecs
      { s with world := { s.world with slots := luks.kill_slot s.world.slots stash.new_keyslot } } := by
  obtain ⟨hpre, hold, hfree, hslot, hslots⟩ := h.stash stash hstash
  have hkilled : luks.kill_slot s.world.slots stash.new_keyslot = s.base.slots := by
    rcases hslots with hslots | ⟨key, -, hslots⟩
    · rw [hslots] at hlive
      exact absurd hfree hlive
    · rw [hslots, luks.kill_slot_add_key hfree]
  refine ⟨h.image, h.serving, h.drawn, ?_, h.blob, ?_⟩
  · exact (congrFun hkilled _).trans hslot
  · intro stash' hstash'
    cases hstash.symm.trans hstash'
    exact ⟨hpre, hold, hfree, hslot, .inl hkilled⟩

end Staged

abbrev KeepsStaged (provision : Provision) (codecs : Codecs) (env : Env) (p : Proc α) (s : State) : Prop :=
  Program.Guards (State.Step env) (fun s _ => Staged provision codecs s) (fun _ s => Staged provision codecs s) p s

theorem keeps_staged : Keeps (fun s _ => Staged provision codecs s) (Staged provision codecs) :=
  ⟨fun _ _ h _ => h, fun _ _ h => h.same⟩

theorem prepare_upgrade_staged {args : PrepareUpgrade} (hhonest : env.honest) (h : Staged provision codecs s)
    (hbegan : s.began = s.world) : KeepsStaged provision codecs env (prepare_upgrade codecs args) s := by
  refine keeps_staged.prepare_upgrade h ?_
  intro t prepared n ht hst hready hfree
  have hsame : World.Same t.began t.world := by
    rw [hst, hbegan]
    exact hready.same
  have hblob : StoresOld provision codecs t.world.blob := by
    apply ht.blob
    intro stash hstash
    cases (hready.same.stash.trans hready.stash).symm.trans hstash
  have hpre : codecs.from_utf8_lossy prepared.raw = t.began.blob := by
    obtain ⟨blob, hvec, -⟩ := id hblob
    rw [(hready.blob hhonest).1, ← hready.same.blob, ← hsame.blob, hvec, codecs.from_utf8_lossy_to_vec]
  have hfresh : prepared.new_passphrase ≠ provision.passphrase := fun heq => hready.fresh (heq ▸ h.drawn)
  have hstashed : Staged provision codecs (t.stashed (some (.whole ⟨codecs.from_utf8_lossy prepared.raw, n⟩))) := by
    refine ⟨ht.image, ht.serving, ht.drawn, ht.slot, fun hno => absurd rfl (hno _), ?_⟩
    intro stash hstash
    cases hstash
    exact ⟨hpre, hsame.blob ▸ hblob, (congrFun hsame.slots n).symm.trans hfree,
      (congrFun hsame.slots _).symm.trans ht.slot, .inl hsame.slots⟩
  refine Keeps.add_new_key (A := fun u => Staged provision codecs u ∧ StoresOld provision codecs u.world.blob ∧
      u.world.stash = some (.whole ⟨codecs.from_utf8_lossy prepared.raw, n⟩)) (fun _ _ => id) (fun _ => And.left)
    (fun _ hu => hu.1.removed nofun hu.2.1) (fun _ hu hlive => ⟨hu.1.kill hu.2.2 hlive, hu.2⟩)
    (fun _ hu _ => hu.1.put fun hnone => absurd hu.2.2 (hnone _)) ht hready ?_ ⟨hstashed, hblob, rfl⟩ ⟨?_, hblob, rfl⟩
  · intro file hfile
    exact ⟨ht.image, ht.serving, ht.drawn, ht.slot, fun _ => hblob, fun stash hstash => absurd hstash (hfile stash)⟩
  · refine ⟨ht.image, ht.serving, ht.drawn, luks.add_key_live hfree ht.slot, fun hno => absurd rfl (hno _), ?_⟩
    intro stash hstash
    obtain ⟨hpre, hold, hbase, hslot, -⟩ := hstashed.stash stash hstash
    cases hstash
    refine ⟨hpre, hold, hbase, hslot, .inr ⟨_, hfresh, ?_⟩⟩
    exact congrArg (luks.add_key · n prepared.new_passphrase) hsame.slots

theorem revoke_upgrade_staged (h : Staged provision codecs s) :
    KeepsStaged provision codecs env (revoke_upgrade codecs) s := by
  refine keeps_staged.revoke_upgrade h ?_
  intro t stash passphrase ht _ hsame hwhole _ _
  have hstash : t.world.stash = some (.whole stash) := hsame.stash.trans hwhole
  obtain ⟨hpre, hold, -⟩ := ht.stash stash hstash
  have hblob : StoresOld provision codecs stash.pre_prepare_blob := hpre ▸ hold
  refine keeps_staged.roll_back ht ht (ht.kill hstash) ?_
  intro slots key _ _ hslots
  have hput := hslots.put fun _ => hblob
  exact ⟨hput, hput.removed nofun hblob⟩

section FaultFree

variable {stash : UpgradeRollbackStash} {post : Except String Unit → World → Prop}

theorem remove_keyfiles_ends {files : List KeyFile} {result : α} {post : α → World → Prop}
    (hpost : ∀ w', w'.blob = w.blob → w'.slots = w.slots → w'.stash = w.stash → post result w') :
    Program.Ends (World.Works env) post (remove_keyfiles files result) w := by
  induction files generalizing w with
  | nil => exact hpost w rfl rfl rfl
  | cons file rest ih =>
    refine (Program.ends_act World.works_remove_keyfile).mpr (ih ?_)
    exact hpost

theorem revoke_upgrade_ends_iff (hvalid : provision.Valid codecs env) (himage : w.image = provision.own)
    (hstash : w.stash = some (.whole stash)) (hold : StoresOld provision codecs stash.pre_prepare_blob) :
    Program.Ends (World.Works env) post (revoke_upgrade codecs) w ↔
      Program.Ends (World.Works env) post ((roll_back stash).bind (remove_keyfiles [.current]))
        (w.with_file .current (some provision.passphrase)) := by
  obtain ⟨blob, hvec, hblob⟩ := id hold
  obtain ⟨ct, hct, hdecrypt⟩ := hvalid.wraps
  rw [revoke_upgrade, Program.ends_act (World.works_read_whole hstash)]
  dsimp only
  rw [stashed_passphrase, hvec, codecs.from_slice_to_vec]
  simp only [hblob.ciphertext, hct, Program.bind]
  rw [Program.ends_act (World.works_decrypt (by rw [hblob.key_id, hvalid.names, himage])
    (by rw [hblob.key_id, hdecrypt])),
    Program.ends_act World.works_write_keyfile]

theorem revoke_upgrade_ends (hvalid : provision.Valid codecs env) (himage : w.image = provision.own)
    (hslot : w.slots provision.slot = some provision.passphrase) (hstash : w.stash = some (.whole stash))
    (hold : StoresOld provision codecs stash.pre_prepare_blob) {key : List UInt8}
    (hlive : w.slots stash.new_keyslot = some key) (hkey : key ≠ provision.passphrase) :
    Program.Ends (World.Works env)
      (fun result w' => result = .ok () ∧ w'.blob = stash.pre_prepare_blob ∧
        w'.slots = luks.kill_slot w.slots stash.new_keyslot ∧ w'.stash = none)
      (revoke_upgrade codecs) w := by
  have hne : provision.slot ≠ stash.new_keyslot := by
    intro heq
    rw [← heq, hslot] at hlive
    exact hkey (Option.some.inj hlive).symm
  rw [revoke_upgrade_ends_iff hvalid himage hstash hold]
  refine Program.Ends.bind (fun result w' => result = .ok () ∧ w'.blob = stash.pre_prepare_blob ∧
    w'.slots = luks.kill_slot w.slots stash.new_keyslot ∧ w'.stash = none) ?_ ?_
  · refine (Program.ends_act (World.works_test_false ?_)).mpr ?_
    · rintro ⟨key', hfile, hlive'⟩
      cases hfile
      exact hkey (Option.some.inj (hlive.symm.trans hlive'))
    refine (Program.ends_act (World.works_kill (w := w.with_file .current (some provision.passphrase)) rfl
      ⟨?_, provision.slot, hne, hslot⟩)).mpr ?_
    · intro hnone
      cases hlive.symm.trans hnone
    refine (Program.ends_act (World.works_test_true ?_)).mpr ?_
    · exact ⟨provision.passphrase, rfl, provision.slot, (luks.kill_slot_of_ne hne).trans hslot⟩
    exact (Program.ends_act World.works_meta_put).mpr
      ((Program.ends_act World.works_remove_stash).mpr ⟨rfl, rfl, rfl, rfl⟩)
  · rintro result w₁ ⟨rfl, hblob, hslots, hnone⟩
    exact remove_keyfiles_ends fun w' h₁ h₂ h₃ => ⟨rfl, h₁.trans hblob, h₂.trans hslots, h₃.trans hnone⟩

def Fails (result : Except String Unit) (_ : World) : Prop := ∃ message, result = .error message

theorem revoke_upgrade_fails_of_dead (hvalid : provision.Valid codecs env) (himage : w.image = provision.own)
    (hstash : w.stash = some (.whole stash)) (hold : StoresOld provision codecs stash.pre_prepare_blob)
    (hdead : w.slots stash.new_keyslot = none) :
    Program.Ends (World.Works env) Fails (revoke_upgrade codecs) w := by
  rw [revoke_upgrade_ends_iff hvalid himage hstash hold]
  have hlocked : ¬(w.with_file .current (some provision.passphrase)).Unlocks (some stash.new_keyslot) .current := by
    rintro ⟨key, -, hlive⟩
    cases hdead.symm.trans hlive
  have hkill : ¬∃ key, (w.with_file .current (some provision.passphrase)).files .current = some key ∧
      luks.CanKill (w.with_file .current (some provision.passphrase)).slots stash.new_keyslot key := by
    rintro ⟨key, -, hlive, -⟩
    exact hlive hdead
  refine (Program.ends_act (World.works_test_false hlocked)).mpr ?_
  refine (Program.ends_act (World.works_kill_not hkill)).mpr ?_
  exact (Program.ends_act World.works_remove_keyfile).mpr ⟨_, rfl⟩

theorem revoke_upgrade_fails_of_none (hstash : w.stash = none) :
    Program.Ends (World.Works env) Fails (revoke_upgrade codecs) w :=
  (Program.ends_act (World.works_read_none hstash)).mpr ⟨_, rfl⟩

theorem revoke_upgrade_fails_of_torn (hstash : w.stash = some .torn) :
    Program.Ends (World.Works env) Fails (revoke_upgrade codecs) w := by
  have hperforms : ∀ answer w', World.Works env w .read_rollback_stash answer w' ↔
      w' = w ∧ ∃ message, answer = .error message := by
    intro answer w'
    have h : w.Performs .read_rollback_stash answer w' ↔ w' = w ∧ ∃ message, answer = .error message := by
      simp only [World.Performs, hstash]
    exact ⟨fun hworks => h.mp hworks.1, fun hworks => ⟨h.mpr hworks, trivial⟩⟩
  refine ⟨⟨_, w, (hperforms (.error "EOF while parsing a value") w).mpr ⟨rfl, _, rfl⟩⟩, ?_⟩
  intro answer w' hworks
  obtain ⟨-, message, rfl⟩ := (hperforms answer w').mp hworks
  exact ⟨_, rfl⟩

theorem not_ends_of_fails {p : Proc (Except String Unit)} (hfails : Program.Ends (World.Works env) Fails p w)
    (hpost : ∀ result w', post result w' → result = .ok ()) : ¬Program.Ends (World.Works env) post p w := by
  intro hends
  obtain ⟨result, w', hresult, message, rfl⟩ := hends.compatible hfails
  cases hpost _ _ hresult

end FaultFree

variable {rules : Rules} {m₀ m : Machine}

theorem Staged.of_reaches (hhonest : env.honest) (hboot : ∀ image, ¬rules.images image) (hidle : m₀.running = none)
    (hinit : Staged provision codecs m₀.state) (hreaches : Machine.Reaches codecs env rules m₀ m) :
    Staged provision codecs m.state := by
  refine (Machine.invariant (I := fun _ s _ => Staged provision codecs s) ?_ (fun _ _ _ => id) ?_ ?_ hidle hinit
    hreaches).1
  · intro s command hs hrule hopened
    have hs' : Staged provision codecs { s with began := s.world } :=
      ⟨hs.image, hs.serving, hs.drawn, hs.slot, hs.blob, hs.stash⟩
    cases command with
    | init => exact absurd (hopened.mp rfl) hs.serving
    | prepare_upgrade args => exact prepare_upgrade_staged hhonest hs' rfl
    | revoke_upgrade => exact revoke_upgrade_staged hs'
  · intro s key hs hclosed
    exact absurd hclosed hs.serving
  · intro s image _ himage
    exact absurd himage (hboot image)

theorem Staged.revoke_upgrade_fails (h : Staged provision codecs s) (hvalid : provision.Valid codecs env)
    (hno : ¬∃ stash, s.world.stash = some (.whole stash) ∧ s.world.slots stash.new_keyslot ≠ none) :
    Program.Ends (World.Works env) Fails (revoke_upgrade codecs) s.world := by
  rcases hfile : s.world.stash with _ | (stash | _)
  · exact revoke_upgrade_fails_of_none hfile
  · obtain ⟨hpre, hold, -⟩ := h.stash stash hfile
    refine revoke_upgrade_fails_of_dead hvalid h.image hfile (hpre ▸ hold) ?_
    by_contra hlive
    exact hno ⟨stash, hfile, hlive⟩
  · exact revoke_upgrade_fails_of_torn hfile

theorem Staged.revoke_upgrade_ends_iff (h : Staged provision codecs s) (hvalid : provision.Valid codecs env) :
    Program.Ends (World.Works env) (RolledBack s.base) (revoke_upgrade codecs) s.world ↔
      ∃ stash, s.world.stash = some (.whole stash) ∧ s.world.slots stash.new_keyslot ≠ none := by
  constructor
  · intro hends
    by_contra hno
    exact not_ends_of_fails (h.revoke_upgrade_fails hvalid hno) (fun _ _ => And.left) hends
  · rintro ⟨stash, hfile, hlive⟩
    obtain ⟨hpre, hold, hfree, -, hslots⟩ := h.stash stash hfile
    rcases hslots with hslots | ⟨key, hkey, hslots⟩
    · rw [hslots] at hlive
      exact absurd hfree hlive
    · have hnew : s.world.slots stash.new_keyslot = some key := by rw [hslots, luks.add_key_self]
      refine (revoke_upgrade_ends hvalid h.image h.slot hfile (hpre ▸ hold) hnew hkey).mono ?_
      rintro result w' ⟨rfl, hblob, hkilled, -⟩
      refine ⟨rfl, hblob.trans hpre, hkilled.trans ?_⟩
      rw [hslots, luks.kill_slot_add_key hfree]

/-- Within a boot, whatever has failed, a fault-free `revoke-upgrade` finishes a rollback exactly if the stash is whole
and the slot it records is live. -/
theorem rollback_finishes_iff {rules : Rules} (hhonest : env.honest) (hvalid : provision.Valid codecs env)
    (hboot : ∀ image, ¬rules.images image) {m₀ m : Machine} (hidle : m₀.running = none)
    (hinit : Staged provision codecs m₀.state) (hreaches : Machine.Reaches codecs env rules m₀ m) {file : StashFile}
    (hfile : m.state.world.stash = some file) :
    Program.Ends (World.Works env) (RolledBack m.state.base) (revoke_upgrade codecs) m.state.world ↔
      ∃ stash, file = .whole stash ∧ m.state.world.slots stash.new_keyslot ≠ none := by
  rw [(Staged.of_reaches hhonest hboot hidle hinit hreaches).revoke_upgrade_ends_iff hvalid, hfile]
  simp only [Option.some.injEq]

/-- However a command of a boot is cut off, the stash undoes the upgrade: killing its slot and putting back its blob
gives what was there before. -/
theorem stash_undoes_upgrade (hhonest : env.honest) (hboot : ∀ image, ¬rules.images image) (hidle : m₀.running = none)
    (hinit : Staged provision codecs m₀.state) (hreaches : Machine.Reaches codecs env rules m₀ m)
    {stash : UpgradeRollbackStash} (hstash : m.state.world.stash = some (.whole stash)) :
    luks.kill_slot m.state.world.slots stash.new_keyslot = m.state.base.slots ∧
      stash.pre_prepare_blob = m.state.base.blob := by
  obtain ⟨hblob, -, hfree, -, hslots⟩ := (Staged.of_reaches hhonest hboot hidle hinit hreaches).stash stash hstash
  refine ⟨?_, hblob⟩
  rcases hslots with hslots | ⟨key, -, hslots⟩
  · rw [hslots, luks.kill_slot, ← hfree, Function.update_eq_self]
  · rw [hslots, luks.kill_slot_add_key hfree]

end Histories

theorem sample.staged : Staged sample.provision sample.codecs sample.machine.state where
  image := rfl
  serving := nofun
  drawn := List.mem_singleton_self _
  slot := rfl
  blob _ := ⟨sample.blob, rfl, rfl, rfl, rfl⟩
  stash := nofun

def sample.booted : Rules := ⟨fun _ _ => True, fun _ => False⟩

/-- An upgrade has been prepared, and can be rolled back. -/
theorem rollback_finishes_iff_prepared :
    ∃ s, Machine.Reaches sample.codecs sample.env sample.booted sample.machine { state := s, running := none } ∧
      (Program.Ends (World.Works sample.env) (RolledBack s.base) (revoke_upgrade sample.codecs) s.world ↔
        ∃ stash, StashFile.whole ⟨sample.to_vec sample.blob, 1⟩ = .whole stash ∧
          s.world.slots stash.new_keyslot ≠ none) := by
  obtain ⟨s, hreaches, hworld, -⟩ := sample.reaches_upgraded sample.booted trivial
  exact ⟨s, hreaches, rollback_finishes_iff trivial sample.valid (fun _ => id) rfl sample.staged hreaches
    (by rw [hworld]; rfl)⟩

theorem stash_undoes_upgrade_prepared :
    ∃ s, Machine.Reaches sample.codecs sample.env sample.booted sample.machine { state := s, running := none } ∧
      luks.kill_slot s.world.slots 1 = s.base.slots := by
  obtain ⟨s, hreaches, hworld, -⟩ := sample.reaches_upgraded sample.booted trivial
  have hstash : s.world.stash = some (.whole ⟨sample.to_vec sample.blob, 1⟩) := by rw [hworld]; rfl
  exact ⟨s, hreaches, (stash_undoes_upgrade trivial (fun _ => id) rfl sample.staged hreaches hstash).1⟩

/-- After a rollback that stopped behind its kill, no further one succeeds. -/
theorem rollback_stuck_after_kill :
    ∃ s stash, Machine.Reaches sample.codecs sample.env sample.booted sample.machine { state := s, running := none } ∧
      s.world.stash = some (.whole stash) ∧
        ¬Program.Ends (World.Works sample.env) (RolledBack s.base) (revoke_upgrade sample.codecs) s.world := by
  obtain ⟨s, hreaches, hworld, hopened⟩ := sample.reaches_upgraded sample.booted trivial
  obtain ⟨message, w', hexec, hslots, hblob, hstash, himage, -⟩ := sample.upgraded_half_revoked
  have hserving : Command.revoke_upgrade = .init ↔ s.opened = none := by
    rw [hopened]
    exact ⟨nofun, nofun⟩
  rw [← hworld] at hexec
  obtain ⟨s', hreaches', rfl, -⟩ := Machine.reaches_of_command (m := { state := s, running := none }) sample.booted
    .revoke_upgrade rfl trivial hserving hexec
  refine ⟨s', ⟨sample.to_vec sample.blob, 1⟩, hreaches.trans hreaches', hstash, ?_⟩
  refine not_ends_of_fails
    (revoke_upgrade_fails_of_dead sample.valid himage hstash ⟨sample.blob, rfl, rfl, rfl, rfl⟩ ?_)
    fun _ _ => And.left
  rw [hslots]
  rfl

end enclavia.crypto
