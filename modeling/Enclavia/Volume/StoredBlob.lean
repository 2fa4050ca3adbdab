import Enclavia.Volume.Completion
import Enclavia.Volume.Walks

open interaction enclavia.protocol

namespace enclavia.crypto

def BlobWraps (codecs : Codecs) (env : Env) (raw passphrase : List UInt8) : Prop :=
  ∃ blob ct, codecs.from_slice raw = .ok blob ∧ blob.ciphertext = some ct ∧
    Wraps codecs env blob.kms_key_id ct passphrase

def OpensSlot (codecs : Codecs) (env : Env) (w : World) (m : Nat) : Prop :=
  ∃ passphrase, BlobWraps codecs env w.blob passphrase ∧ w.slots m = some passphrase

def BlobOpens (codecs : Codecs) (env : Env) (w : World) : Prop := ∃ m, OpensSlot codecs env w m

def OpensWithoutStash (codecs : Codecs) (env : Env) (w : World) : Prop :=
  ∀ stash, w.stash = some (.whole stash) → ∃ m, m ≠ stash.new_keyslot ∧ OpensSlot codecs env w m

section Histories

variable {codecs : Codecs} {env : Env} {w w' : World} {n m : Nat}

theorem OpensSlot.congr (hslots : w'.slots m = w.slots m) (hblob : w'.blob = w.blob) (h : OpensSlot codecs env w m) :
    OpensSlot codecs env w' m := by
  obtain ⟨p, hwraps, hlive⟩ := h
  exact ⟨p, hblob ▸ hwraps, hslots.trans hlive⟩

theorem OpensSlot.same (h : OpensSlot codecs env w m) (hsame : World.Same w w') : OpensSlot codecs env w' m :=
  h.congr (congrFun hsame.slots m) hsame.blob

theorem OpensSlot.ne_free (h : OpensSlot codecs env w m) (hfree : w.slots n = none) : m ≠ n := by
  obtain ⟨p, -, hlive⟩ := h
  exact luks.ne_of_free hfree hlive

theorem OpensSlot.kill_slot (h : OpensSlot codecs env w m) (hne : m ≠ n) :
    OpensSlot codecs env { w with slots := luks.kill_slot w.slots n } m :=
  h.congr (luks.kill_slot_of_ne hne) rfl

theorem blobWraps_to_vec {blob : KeyBlob} {ct : String} {p : List UInt8} (hct : blob.ciphertext = some ct)
    (h : Wraps codecs env blob.kms_key_id ct p) : BlobWraps codecs env (codecs.to_vec blob) p :=
  ⟨blob, ct, codecs.from_slice_to_vec blob, hct, h⟩

abbrev KeepsBlob {α : Type} (codecs : Codecs) (env : Env) (p : Proc α) (w : World) : Prop :=
  Program.Guards (World.Step env) (fun w _ => BlobOpens codecs env w) (fun _ w => BlobOpens codecs env w) p w

theorem KeepsBlob.of_untouched {α : Type} {p : Proc α} {post : α → World → Prop} (hopens : OpensSlot codecs env w m)
    (h : Program.Guards (World.Step env) (Untouched w) post p w) :
    Program.Guards (World.Step env) (fun w _ => BlobOpens codecs env w) post p w :=
  h.mono (fun _ _ huntouched => ⟨m, hopens.same huntouched.1⟩) fun _ _ => id

theorem keeps_blobOpens :
    Keeps (fun s _ => BlobOpens codecs env s.world) fun s => BlobOpens codecs env s.world where
  asks _ _ h _ := h
  same := by
    rintro s w' ⟨m, hm⟩ hsame
    exact ⟨m, hm.same hsame⟩

theorem prepare_upgrade_keeps {args : PrepareUpgrade} {s : State} (hhonest : env.honest)
    (h : BlobOpens codecs env s.world) :
    Program.Guards (State.Step env) (fun s _ => BlobOpens codecs env s.world) (fun _ s => BlobOpens codecs env s.world)
      (prepare_upgrade codecs args) s := by
  refine keeps_blobOpens.prepare_upgrade h ?_
  rintro t prepared n ⟨m, hm⟩ - hready hfree
  -- slot `m` stays as it is, since `n` is the only one that is added or killed
  have hne := hm.ne_free hfree
  refine Keeps.add_new_key (A := fun t => OpensSlot codecs env t.world m) (fun _ _ => id) (fun _ ht => ⟨m, ht⟩)
    (fun _ ht => ⟨m, ht.congr rfl rfl⟩) (fun _ ht _ => ht.kill_slot hne) ?_ ⟨m, hm⟩ hready
    (fun _ _ => ⟨m, hm.congr rfl rfl⟩) (hm.congr rfl rfl) (hm.congr (luks.add_key_of_ne hne) rfl)
  intro t _ hlive
  refine ⟨n, prepared.new_passphrase, blobWraps_to_vec rfl ?_, hlive⟩
  exact ⟨prepared.new_ct, codecs.b64_decode_encode _, hready.sealed hhonest⟩

theorem revoke_upgrade_keeps {s : State} (hhonest : env.honest) (h : BlobOpens codecs env s.world)
    (hstash : OpensWithoutStash codecs env s.world) :
    Program.Guards (State.Step env) (fun s _ => BlobOpens codecs env s.world) (fun _ s => BlobOpens codecs env s.world)
      (revoke_upgrade codecs) s := by
  refine keeps_blobOpens.revoke_upgrade h ?_
  intro t stash passphrase ht _ hsame hwhole hfile hwraps
  obtain ⟨m, hne, hm⟩ := hstash stash hwhole
  refine keeps_blobOpens.roll_back ht ht (fun _ => ⟨m, (hm.same hsame).kill_slot hne⟩) ?_
  rintro slots key hkey ⟨k, hk⟩ -
  cases hfile.symm.trans hkey
  exact ⟨⟨k, passphrase, hwraps hhonest, hk⟩, k, passphrase, hwraps hhonest, hk⟩

theorem delete_previous_keeps {blob : KeyBlob} (hblob : codecs.from_slice w.blob = .ok blob)
    (hopens : OpensSlot codecs env w m) : KeepsBlob codecs env (delete_previous codecs blob) w := by
  unfold delete_previous
  split
  · exact ⟨m, hopens⟩
  refine ⟨⟨m, hopens⟩, ?_⟩
  rintro answer w₁ hschedule
  have hsame := hschedule.same trivial
  rcases answer with message | _
  · exact ⟨m, hopens.same hsame⟩
  refine ⟨⟨m, hopens.same hsame⟩, ?_⟩
  have hput : ∀ w₂, w₂ = { w₁ with blob := codecs.to_vec { blob with prev_key_id := none } } ∨ w₂ = w₁ →
      BlobOpens codecs env w₂ := by
    rintro w₂ (rfl | rfl)
    · obtain ⟨p, ⟨blob', ct, hblob', hct, hwraps⟩, hlive⟩ := hopens
      rw [hblob] at hblob'
      cases hblob'
      exact ⟨m, p, ⟨_, ct, codecs.from_slice_to_vec _, hct, hwraps⟩, (congrFun hsame.slots m).trans hlive⟩
    · exact ⟨m, hopens.same hsame⟩
  rintro (message | _) w₂ hmeta
  · exact hput w₂ (hmeta.meta_put.imp id And.left)
  · exact hput w₂ (hmeta.meta_put.imp id And.left)

theorem init_keeps (hhonest : env.honest) (h : BlobOpens codecs env w) : KeepsBlob codecs env (init codecs) w := by
  obtain ⟨m, hm⟩ := h
  refine ⟨⟨m, hm⟩, ?_⟩
  rintro (message | raw) w₁ hget
  · exact ⟨m, hm.same (hget.same trivial)⟩
  have hsame := hget.same trivial
  obtain rfl : raw = w.blob := by
    rcases hget with ⟨-, htrusted⟩ | ⟨⟨message, hmessage⟩, -⟩
    · exact Except.ok.inj (htrusted hhonest)
    · cases hmessage
  have hm₁ := hm.same hsame
  dsimp only
  split
  · exact ⟨m, hm₁⟩
  · next blob hparse =>
    obtain ⟨hblob, -⟩ := parse_blob_ok hparse
    refine (KeepsBlob.of_untouched hm₁ (guards_of_quiet verify_key_policy_quiet (World.Same.refl w₁))).bind ?_
    rintro (message | _) w₂ hsame₂
    · exact ⟨m, hm₁.same hsame₂⟩
    have hm₂ := hm₁.same hsame₂
    have hblob₂ : codecs.from_slice w₂.blob = .ok blob := by rw [hsame₂.blob, hsame.blob, hblob]
    -- the blob of a volume that opens has a ciphertext, so this is not the first boot
    obtain ⟨p, ⟨blob', ct, hblob', hct, hwraps⟩, hlive⟩ := id hm₂
    rw [hblob₂] at hblob'
    cases hblob'
    refine (KeepsBlob.of_untouched hm₂ (boot_passphrase_guards hct (World.Same.refl w₂))).bind ?_
    rintro (message | ⟨passphrase, found⟩) w₃ ⟨hsame₃, hfound⟩
    · exact ⟨m, hm₂.same hsame₃⟩
    obtain rfl : found = blob := (hfound _ rfl).1
    refine ⟨⟨m, hm₂.same hsame₃⟩, ?_⟩
    rintro (message | _) w₄ hfile
    · exact ⟨m, (hm₂.same hsame₃).same (hfile.same trivial)⟩
    refine delete_previous_keeps ?_ ((hm₂.same hsame₃).same (hfile.same trivial))
    rw [(hfile.same trivial).blob, hsame₃.blob, hblob₂]

/-- In every history in which each `revoke-upgrade` starts while the stored blob opens another slot than the one of the
stash, the stored blob opens the volume at every moment. -/
theorem stored_blob_opens_volume {rules : Rules} (hhonest : env.honest)
    (hrevoke : ∀ s, rules.commands s .revoke_upgrade → OpensWithoutStash codecs env s.world) {m₀ m : Machine}
    (hidle : m₀.running = none) (hinit : BlobOpens codecs env m₀.state.world)
    (hreaches : Machine.Reaches codecs env rules m₀ m) : BlobOpens codecs env m.state.world := by
  refine (Machine.invariant (I := fun _ s _ => BlobOpens codecs env s.world) ?_ (fun _ _ _ => id) ?_ ?_ hidle hinit
    hreaches).1
  · intro s command hs hrule _
    cases command with
    | init => exact guards_state (s := { s with began := s.world }) (init_keeps hhonest hs)
    | prepare_upgrade args => exact prepare_upgrade_keeps hhonest hs
    | revoke_upgrade => exact revoke_upgrade_keeps hhonest hs (hrevoke s hrule)
  · rintro s key ⟨n, hn⟩ - -
    exact ⟨n, hn.same World.same_with_file⟩
  · rintro s image ⟨n, hn⟩ -
    exact ⟨n, hn.congr rfl rfl⟩

end Histories

theorem sample.world_opens : BlobOpens sample.codecs sample.env sample.world :=
  ⟨0, sample.passphrase, blobWraps_to_vec rfl sample.wraps_blob, rfl⟩

theorem sample.upgraded_wraps {p : List UInt8} (h : BlobWraps sample.codecs sample.env sample.upgraded.blob p) :
    p = sample.new_passphrase := by
  obtain ⟨blob, ct, hblob, hct, hwraps⟩ := h
  have heq : blob = upgraded_blob sample.codecs "next" sample.prepared :=
    Except.ok.inj (hblob.symm.trans (sample.from_slice_to_vec (upgraded_blob sample.codecs "next" sample.prepared)))
  subst heq
  cases hct
  exact hwraps.unique ⟨_, sample.codecs.b64_decode_encode _, rfl⟩

/-- One upgrade has been prepared. -/
theorem stored_blob_opens_volume_prepared :
    ∃ s, Machine.Reaches sample.codecs sample.env
      ⟨fun _ command => command = .prepare_upgrade sample.args, fun _ => True⟩
      sample.machine { state := s, running := none } ∧ s.world = sample.upgraded ∧
        BlobOpens sample.codecs sample.env s.world := by
  obtain ⟨s, hreaches, hworld, -⟩ := sample.reaches_upgraded
    ⟨fun _ command => command = .prepare_upgrade sample.args, fun _ => True⟩ rfl
  refine ⟨s, hreaches, hworld, stored_blob_opens_volume trivial ?_ rfl sample.world_opens hreaches⟩
  intro s hrule
  cases hrule

/-- Between the kill of the new slot and the return of the old blob, the stored blob opens nothing. -/
theorem stored_blob_opens_nothing :
    BlobOpens sample.codecs sample.env sample.machine.state.world ∧
      ∃ m, Machine.Reaches sample.codecs sample.env sample.any sample.machine m ∧
        ¬BlobOpens sample.codecs sample.env m.state.world := by
  refine ⟨sample.world_opens, ?_⟩
  obtain ⟨s, hreaches, hworld, hopened⟩ := sample.reaches_upgraded sample.any trivial
  obtain ⟨message, w', hexec, hslots, hblob, -⟩ := sample.upgraded_half_revoked
  have hserving : Command.revoke_upgrade = .init ↔ s.opened = none := by
    rw [hopened]
    exact ⟨nofun, nofun⟩
  rw [← hworld] at hexec
  obtain ⟨s', hreaches', hworld', -⟩ := Machine.reaches_of_command (m := { state := s, running := none }) sample.any
    .revoke_upgrade rfl trivial hserving hexec
  refine ⟨_, hreaches.trans hreaches', ?_⟩
  rintro ⟨m, p, hwraps, hlive⟩
  rw [hworld', hblob] at hwraps
  rw [hworld', hslots] at hlive
  obtain rfl := sample.upgraded_wraps hwraps
  by_cases hm : m = 0
  · subst hm
    exact absurd (Option.some.inj hlive) (by decide)
  · simp [sample.world, hm] at hlive

end enclavia.crypto
