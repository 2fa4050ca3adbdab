import Enclavia.Volume.History

open interaction enclavia.protocol

namespace enclavia.crypto

/-! The walk through each command, once for all invariants of a history. -/

variable {codecs : Codecs} {env : Env} {s t : State} {n : Nat} {α : Type}

/-- What holds between the effects, and what is asked for under it: an effect that leaves the volume alone keeps it. -/
structure Keeps (I : State → Effect → Prop) (J : State → Prop) : Prop where
  asks : ∀ s e, J s → (∀ n file, e ≠ .luksKillSlot n file) → I s e
  same : ∀ s w', J s → World.Same s.world w' → J { s with world := w' }

/-- The state once the stash is written. -/
def State.stashed (s : State) (file : Option StashFile) : State :=
  { s with world := { s.world with stash := file }, base := s.began, added := none }

namespace Keeps

variable {I : State → Effect → Prop} {J A : State → Prop} (hkeeps : Keeps I J)
include hkeeps

theorem of_same (h : J s) (ht : t = { s with world := t.world }) (hsame : World.Same s.world t.world) : J t := by
  rw [ht]
  exact hkeeps.same s t.world h hsame

theorem untouched {p : Proc α} {post : α → World → Prop} (h : J s)
    (hguards : Program.Guards (World.Step env) (Untouched s.world) post p s.world) :
    Program.Guards (State.Step env) I (fun a t => t = { s with world := t.world } ∧ post a t.world) p s := by
  refine (guards_quiet_state (fun _ _ => And.right) hguards).mono ?_ fun _ _ => id
  rintro t e ⟨ht, hsame, hquiet⟩
  apply hkeeps.asks t e (hkeeps.of_same h ht hsame)
  rintro n file rfl
  exact hquiet.elim

theorem remove_keyfiles {files : List KeyFile} {result : α} (h : J s) :
    Program.Guards (State.Step env) I (fun _ => J) (crypto.remove_keyfiles files result) s := by
  refine (hkeeps.untouched h (guards_of_quiet remove_keyfiles_quiet (World.Same.refl _))).mono (fun _ _ => id) ?_
  rintro _ t ⟨ht, hsame⟩
  exact hkeeps.of_same h ht hsame

/-- Before a slot is added nothing is touched. -/
theorem prepare_upgrade {args : PrepareUpgrade} (h : J s)
    (hadd : ∀ t prepared n, J t → t = { s with world := t.world } →
      Ready codecs env s.world args.new_key_id t.world prepared → t.world.slots n = none →
      Program.Guards (State.Step env) I (fun _ => J) (add_new_key codecs args.new_key_id prepared n) t) :
    Program.Guards (State.Step env) I (fun _ => J) (crypto.prepare_upgrade codecs args) s := by
  refine (hkeeps.untouched h (prepare_keys_guards s.world)).bind ?_
  rintro (message | prepared) t ⟨ht, hsame, hready⟩
  · exact hkeeps.of_same h ht hsame
  have ht' := hkeeps.of_same h ht hsame
  suffices hstage : Program.Guards (State.Step env) I (fun _ => J) (stage_upgrade codecs args.new_key_id prepared) t
    from
    hstage.bind fun _ _ => hkeeps.remove_keyfiles
  refine (hkeeps.untouched ht' (first_free_keyslot_guards t.world)).bind ?_
  rintro (message | n) u ⟨hu, hsame', hfree⟩
  · exact hkeeps.of_same ht' hu hsame'
  obtain ⟨hworld, hfree⟩ := hfree n rfl
  obtain rfl : u = t := by rw [hu, hworld]
  exact hadd u prepared n ht' ht (hready prepared rfl) hfree

omit hkeeps

section AddKey

/- `A` is what holds from the stash on, as long as the blob isn't replaced. -/
variable {new_key_id : String} {prepared : Prepared} (hasks : ∀ t e, J t → I t e) (hA : ∀ t, A t → J t)
  (hremove : ∀ t, A t → J { t with world := { t.world with stash := none } })
  (hkill : ∀ t, A t → t.world.slots n ≠ none →
    A { t with world := { t.world with slots := luks.kill_slot t.world.slots n } })
  (hput : ∀ t, A t → t.world.slots n = some prepared.new_passphrase →
    J { t with world := { t.world with blob := codecs.to_vec (upgraded_blob codecs new_key_id prepared) } })
include hasks hA hremove

theorem remove_stash {message : String} (h : A s) : Program.Guards (State.Step env) I (fun _ => J)
    (.act .remove_rollback_stash fun _ => .ret (.error message : Except String Unit)) s := by
  refine ⟨hasks s _ (hA s h), ?_⟩
  rintro answer _ ⟨w', hstep, rfl⟩
  rcases hstep.remove_stash with rfl | ⟨rfl, -⟩
  · exact hremove s h
  · exact hA s h

include hkill hput

theorem publish_new_key (h : A s) (hfile : s.world.files .new = some prepared.new_passphrase) :
    Program.Guards (State.Step env) I (fun _ => J) (crypto.publish_new_key codecs new_key_id prepared n) s := by
  have hs := hA s h
  refine ⟨hasks s _ hs, ?_⟩
  rintro (message | (_ | _)) _ ⟨w₁, htest, rfl⟩
  · obtain rfl := htest.test_same
    exact hs
  · obtain rfl := htest.test_same
    refine ⟨hasks s _ hs, ?_⟩
    rintro answer _ ⟨w₂, hstep, rfl⟩
    rcases hstep.kill_slot with ⟨key, -, hcan, rfl⟩ | ⟨rfl, -⟩
    · exact remove_stash hasks hA hremove (hkill s h hcan.1)
    · exact remove_stash hasks hA hremove h
  obtain ⟨rfl, key, hkey, hlive⟩ := htest.test_ok
  cases hfile.symm.trans hkey
  refine ⟨hasks s _ hs, ?_⟩
  have hmeta : ∀ w₂, w₂ = { s.world with blob := codecs.to_vec (upgraded_blob codecs new_key_id prepared) } ∨
      w₂ = s.world → J { s with world := w₂ } := by
    rintro w₂ (rfl | rfl)
    · exact hput s h hlive
    · exact hs
  rintro (message | _) _ ⟨w₂, hstep, rfl⟩
  · exact hmeta w₂ (hstep.meta_put.imp id And.left)
  · exact hmeta w₂ (hstep.meta_put.imp id And.left)

theorem add_new_key {w₀ : World} (h : J s) (hready : Ready codecs env w₀ new_key_id s.world prepared)
    (hfailed : ∀ file, (∀ stash, file ≠ some (.whole stash)) → J (s.stashed file))
    (hstashed : A (s.stashed (some (.whole ⟨codecs.from_utf8_lossy prepared.raw, n⟩))))
    (hadd : A ((s.stashed (some (.whole ⟨codecs.from_utf8_lossy prepared.raw, n⟩))).observe
      (.luksAddKey n .current .new)
      { s.world with
        stash := some (.whole ⟨codecs.from_utf8_lossy prepared.raw, n⟩)
        slots := luks.add_key s.world.slots n prepared.new_passphrase })) :
    Program.Guards (State.Step env) I (fun _ => J) (crypto.add_new_key codecs new_key_id prepared n) s := by
  refine ⟨hasks s _ h, ?_⟩
  rintro answer _ ⟨w₁, hwrite, rfl⟩
  rcases hwrite.write_stash with rfl | ⟨hw₁, message, rfl⟩
  swap
  · rcases hw₁ with rfl | rfl
    · refine hfailed s.world.stash ?_
      intro stash hstash
      cases (hready.same.stash.trans hready.stash).symm.trans hstash
    · exact hfailed (some .torn) (by simp)
  rcases answer with message | _
  · exact hA _ hstashed
  refine ⟨hasks _ _ (hA _ hstashed), ?_⟩
  rintro answer _ ⟨w₂, hadded, rfl⟩
  obtain ⟨h₂, hfile⟩ : A ((s.stashed (some (.whole ⟨codecs.from_utf8_lossy prepared.raw, n⟩))).observe
      (.luksAddKey n .current .new) w₂) ∧ w₂.files .new = some prepared.new_passphrase := by
    rcases hadded.add_key with ⟨key, new_key, -, hnew, -, rfl⟩ | ⟨rfl, -⟩
    · obtain rfl : prepared.new_passphrase = new_key := Option.some.inj (hready.new_file.symm.trans hnew)
      exact ⟨hadd, hready.new_file⟩
    · have hsame : added_key s.world.slots s.world.slots n = none := if_pos rfl
      refine ⟨?_, hready.new_file⟩
      change A { s.stashed _ with added := (added_key s.world.slots s.world.slots n).or none }
      rw [hsame]
      exact hstashed
  rcases answer with message | (_ | _)
  · exact hA _ h₂
  · exact remove_stash hasks hA hremove h₂
  · exact publish_new_key hasks hA hremove hkill hput h₂ hfile

end AddKey

include hkeeps

theorem roll_back {stash : UpgradeRollbackStash} (h : J s) (hask : I s (.luksKillSlot stash.new_keyslot .current))
    (hkill : s.world.slots stash.new_keyslot ≠ none →
      J { s with world := { s.world with slots := luks.kill_slot s.world.slots stash.new_keyslot } })
    (hput : ∀ slots key, s.world.files .current = some key → luks.Opens slots key →
      J { s with world := { s.world with slots } } →
      J { s with world := { s.world with slots, blob := stash.pre_prepare_blob } } ∧
        J { s with world := { s.world with slots, blob := stash.pre_prepare_blob, stash := none } }) :
    Program.Guards (State.Step env) I (fun _ => J) (crypto.roll_back stash) s := by
  refine ⟨hkeeps.asks s _ h (by simp), ?_⟩
  rintro (message | (_ | _)) _ ⟨w₁, htest, rfl⟩
  all_goals obtain rfl := htest.test_same
  · exact h
  swap
  · exact h
  refine ⟨hask, ?_⟩
  rintro answer _ ⟨w₂, hstep, rfl⟩
  obtain ⟨slots, rfl, h₂⟩ : ∃ slots, w₂ = { s.world with slots } ∧ J { s with world := { s.world with slots } } := by
    rcases hstep.kill_slot with ⟨key, -, hcan, rfl⟩ | ⟨rfl, -⟩
    · exact ⟨_, rfl, hkill hcan.1⟩
    · exact ⟨_, rfl, h⟩
  rcases answer with message | (_ | _)
  · exact h₂
  · exact h₂
  refine ⟨hkeeps.asks _ _ h₂ (by simp), ?_⟩
  rintro (message | (_ | _)) _ ⟨w₃, hopens, rfl⟩
  · exact hopens.test_same ▸ h₂
  · exact hopens.test_same ▸ h₂
  obtain ⟨rfl, key, hkey, hopens⟩ := hopens.test_ok
  obtain ⟨h₄, h₅⟩ := hput slots key hkey hopens h₂
  refine ⟨hkeeps.asks _ _ h₂ (by simp), ?_⟩
  rintro answer _ ⟨w₄, hmeta, rfl⟩
  rcases hmeta.meta_put with rfl | ⟨rfl, message, rfl⟩
  swap
  · exact h₂
  rcases answer with message | _
  · exact h₄
  refine ⟨hkeeps.asks _ _ h₄ (by simp), ?_⟩
  rintro (message | _) _ ⟨w₅, hremove, rfl⟩
  · rcases hremove.remove_stash with rfl | ⟨rfl, -⟩
    · exact h₅
    · exact h₄
  · rcases hremove.remove_stash with rfl | ⟨rfl, -⟩
    · exact h₅
    · exact h₄

/-- Before the rollback nothing is touched. -/
theorem revoke_upgrade (h : J s)
    (hroll : ∀ t stash passphrase, J t → t = { s with world := t.world } → World.Same s.world t.world →
      s.world.stash = some (.whole stash) → t.world.files .current = some passphrase →
      (env.honest → ∃ blob ct, codecs.from_slice stash.pre_prepare_blob = .ok blob ∧ blob.ciphertext = some ct ∧
        Wraps codecs env blob.kms_key_id ct passphrase) →
      Program.Guards (State.Step env) I (fun _ => J) (crypto.roll_back stash) t) :
    Program.Guards (State.Step env) I (fun _ => J) (crypto.revoke_upgrade codecs) s := by
  refine ⟨hkeeps.asks s _ h (by simp), ?_⟩
  rintro answer _ ⟨w₁, hread, rfl⟩
  obtain ⟨rfl, -, hwhole⟩ := hread.read_stash
  rcases answer with message | (_ | stash)
  · exact h
  · exact h
  refine (hkeeps.untouched h (stashed_passphrase_guards (World.Same.refl s.world))).bind ?_
  rintro (message | passphrase) t ⟨ht, hsame, hwraps⟩
  · exact hkeeps.of_same h ht hsame
  have h₂ := hkeeps.of_same h ht hsame
  refine ⟨hkeeps.asks t _ h₂ (by simp), ?_⟩
  rintro (message | _) _ ⟨w₃, hfile, rfl⟩
  · exact hkeeps.same t w₃ h₂ (hfile.same trivial)
  have h₃ := hkeeps.same t w₃ h₂ (hfile.same trivial)
  refine Program.Guards.bind (hroll _ stash passphrase h₃ ?_ (hsame.trans (hfile.same trivial)) (hwhole stash rfl) ?_
    (hwraps passphrase rfl)) fun _ _ => hkeeps.remove_keyfiles
  · rw [ht]
    rfl
  · rw [hfile.write_keyfile_ok]
    rfl

end Keeps

end enclavia.crypto
