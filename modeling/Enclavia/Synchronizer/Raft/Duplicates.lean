import Enclavia.Synchronizer.Raft.Inert
import Enclavia.Synchronizer.Raft.LineageRefinement
import Enclavia.Synchronizer.Raft.Revocation

open machine

namespace enclavia.synchronizer.raft

variable {op : ReplicatedOp} {entry : KeyState}

namespace View

def Room (v : View) : Prop :=
  ∀ (key : PcrKey) (entry : KeyState), v.state[key]? = some entry →
    entry.version.val.toNat + 1 < 2 ^ 64

def Spent (v : View) : ReplicatedOp → Prop
  | .Register key _ _ => v.state[key]?.isSome ∨ key ∈ v.retired
  | .Pin key expected_version _ => key ∈ v.retired ∨
    ∃ entry, v.state[key]? = some entry ∧ expected_version.val.toNat < entry.version.val.toNat
  | .Transition old_key _ _ _ _ _ => old_key ∈ v.retired
  | .Revoke key link_hash => v.is_revoked key link_hash

variable {v : View} {key : PcrKey}

theorem apply_spent (happlied : (v.apply op).1 = .Applied entry) (hroom : op.is_pin → v.Room) :
    (v.apply op).2.Spent op := by
  have happlies := apply_applied happlied
  generalize (v.apply op).2 = after at happlies
  cases happlies with
  | register hfree hretired =>
    refine .inl ?_
    rw [Std.ExtTreeMap.getElem?_insert_self]
    rfl
  | @pin key commitment held hlive =>
    refine .inr ⟨_, Std.ExtTreeMap.getElem?_insert_self, ?_⟩
    rw [Version.toNat_succ (hroom rfl key held hlive)]
    exact Nat.lt_succ_self _
  | transition hne hlive hrevoked hfree hretired => exact Std.ExtTreeSet.mem_insert_self
  | revoke hretired hlive => exact (is_revoked_revoke v _ _ _ _).mpr (.inl ⟨rfl, rfl⟩)

theorem apply_retired (hretired : key ∈ v.retired) (op : ReplicatedOp) :
    key ∈ (v.apply op).2.retired := by
  obtain ⟨e, happly⟩ | ⟨entry, after, happly, happlies⟩ := apply_cases v op
  · rw [happly]
    exact hretired
  rw [happly]
  cases happlies with
  | register | pin => exact hretired
  | transition => exact (mem_insert_key _ _ _).mpr (.inr hretired)
  | revoke => exact hretired

theorem apply_version_le (hlive : v.state[key]? = some entry) (op : ReplicatedOp) (hroom : op.is_pin → v.Room) :
    key ∈ (v.apply op).2.retired ∨ ∃ entry', (v.apply op).2.state[key]? = some entry' ∧
      entry.version.val.toNat ≤ entry'.version.val.toNat := by
  obtain ⟨e, happly⟩ | ⟨applied, after, happly, happlies⟩ := apply_cases v op
  · rw [happly]
    exact .inr ⟨entry, hlive, Nat.le_refl _⟩
  rw [happly]
  cases happlies with
  | @register named commitment control_pubkey hfree hretired =>
    have hne : named ≠ key := by
      rintro rfl
      rw [hlive] at hfree
      cases hfree
    refine .inr ⟨entry, ?_, Nat.le_refl _⟩
    rw [getElem?_insert_key, if_neg hne]
    exact hlive
  | @pin named commitment held hpinned =>
    refine .inr ?_
    simp only [getElem?_insert_key]
    by_cases hne : named = key
    · subst hne
      rw [hlive, Option.some.injEq] at hpinned
      subst hpinned
      refine ⟨_, if_pos rfl, ?_⟩
      rw [Version.toNat_succ (hroom rfl named entry hlive)]
      exact Nat.le_succ _
    · exact ⟨entry, by rw [if_neg hne, hlive], Nat.le_refl _⟩
  | @transition old_key new_key link_hash valid_until_ms held new_control_pubkey hne hold hrevoked
      hfree hretired =>
    by_cases hkey : old_key = key
    · exact .inl ((mem_insert_key _ _ _).mpr (.inl hkey))
    · have hnew : new_key ≠ key := by
        rintro rfl
        rw [hlive] at hfree
        cases hfree
      refine .inr ⟨entry, ?_, Nat.le_refl _⟩
      rw [getElem?_insert_key, if_neg hnew, getElem?_erase_key, if_neg hkey]
      exact hlive
  | revoke => exact .inr ⟨entry, hlive, Nat.le_refl _⟩

theorem Spent.apply (hspent : v.Spent op) (next : ReplicatedOp) (hroom : next.is_pin → v.Room) :
    (v.apply next).2.Spent op := by
  cases op with
  | Register key commitment control_pubkey =>
    rcases hspent with hlive | hretired
    · obtain ⟨entry, hentry⟩ := Option.isSome_iff_exists.mp hlive
      rcases apply_version_le hentry next hroom with hretired | ⟨entry', hentry', -⟩
      · exact .inr hretired
      · exact .inl (by rw [hentry']; rfl)
    · exact .inr (apply_retired hretired next)
  | Pin key expected_version commitment =>
    rcases hspent with hretired | ⟨entry, hentry, hlt⟩
    · exact .inl (apply_retired hretired next)
    · rcases apply_version_le hentry next hroom with hretired | ⟨entry', hentry', hle⟩
      · exact .inl hretired
      · exact .inr ⟨entry', hentry', Nat.lt_of_lt_of_le hlt hle⟩
  | Transition old_key new_key new_control_pubkey link_hash valid_until_ms commitment =>
    exact apply_retired hspent next
  | Revoke key link_hash => exact apply_is_revoked hspent next

theorem Spent.rejected (hdisjoint : v.Disjoint) (hspent : v.Spent op) :
    (∃ e, (v.apply op).1 = .Rejected e) ∨
      ∃ key link_hash, op = .Revoke key link_hash ∧ v.is_revoked key link_hash := by
  obtain ⟨e, happly⟩ | ⟨entry, after, happly, happlies⟩ := apply_cases v op
  · rw [happly]
    exact .inl ⟨e, rfl⟩
  cases happlies with
  | register hfree hretired =>
    rcases hspent with hlive | hdead
    · rw [hfree] at hlive
      cases hlive
    · exact absurd hdead hretired
  | pin hlive =>
    rcases hspent with hdead | ⟨held, hheld, hlt⟩
    · rw [hdisjoint.state_eq_none hdead] at hlive
      cases hlive
    · rw [hlive, Option.some.injEq] at hheld
      subst hheld
      exact absurd hlt (Nat.lt_irrefl _)
  | transition hne hlive hrevoked hfree hretired =>
    rw [hdisjoint.state_eq_none hspent] at hlive
    cases hlive
  | revoke hretired hlive => exact .inr ⟨_, _, rfl, hspent⟩

theorem apply_revoke_again {link_hash : Bytes32} (hrevoked : v.is_revoked key link_hash) :
    (v.apply (.Revoke key link_hash)).2 = v := by
  obtain ⟨e, happly⟩ | ⟨entry, after, happly, happlies⟩ := apply_cases v (.Revoke key link_hash)
  · rw [happly]
  rw [happly]
  cases happlies with
  | revoke hretired hlive =>
    obtain ⟨hashes, hhashes, hmem⟩ := (is_revoked_iff v key link_hash).mp hrevoked
    have hset : hashes.insert link_hash = hashes := by
      apply Std.ExtTreeSet.ext_mem
      intro hash
      rw [Std.ExtTreeSet.mem_insert, Std.LawfulEqCmp.compare_eq_iff_eq]
      exact ⟨fun h => h.elim (fun heq => heq ▸ hmem) id, .inr⟩
    have hmap : v.revoked_links.insert key ((v.revoked_links[key]?.getD ∅).insert link_hash) =
        v.revoked_links := by
      apply Std.ExtTreeMap.ext_getElem?
      intro other
      rw [getElem?_insert_key, hhashes, Option.getD_some, hset]
      split
      · next heq => rw [← heq, hhashes]
      · rfl
    exact View.ext rfl rfl hmap

theorem Spent.inert (hdisjoint : v.Disjoint) (hspent : v.Spent op) :
    (v.apply op).2 = v := by
  rcases hspent.rejected hdisjoint with ⟨e, hrejected⟩ | ⟨key, link_hash, rfl, hrevoked⟩
  · exact apply_rejected hrejected
  · exact apply_revoke_again hrevoked

end View

theorem replay_room {log : List ReplicatedOp} (hpins : pins log + 1 < 2 ^ 64) :
    (view (replay log)).Room := by
  intro key entry hlive
  have hle := replay_version_le (by omega) hlive
  omega

theorem replay_spent {before after : List ReplicatedOp} (hpins : pins (before ++ op :: after) < 2 ^ 64)
    (happlied : (apply_one (replay before) op).1 = .Applied entry) :
    (view (replay (before ++ op :: after))).Spent op := by
  induction after using List.reverseRecOn with
  | nil =>
    rw [pins_append] at hpins
    rw [replay_concat_view]
    refine View.apply_spent (apply_one_result _ op ▸ happlied) ?_
    intro hpin
    have hone : pins [op] = 1 := by simp [pins, hpin]
    exact replay_room (by omega)
  | append_singleton after next ih =>
    have hsnoc : before ++ op :: (after ++ [next]) = (before ++ op :: after) ++ [next] := by simp
    rw [hsnoc, pins_append] at hpins
    rw [hsnoc, replay_concat_view]
    refine (ih (by omega)).apply next ?_
    intro hpin
    have hone : pins [next] = 1 := by simp [pins, hpin]
    exact replay_room (by omega)

/-- At-least-once submission is safe. -/
theorem duplicates_inert :
    (∀ (before between : List ReplicatedOp) (op : ReplicatedOp) (entry : KeyState),
      pins (before ++ op :: between) < 2 ^ 64 →
      (apply_one (replay before) op).1 = .Applied entry →
      let sm := replay (before ++ op :: between)
      view (apply_one sm op).2 = view sm ∧
        ((∃ e, (apply_one sm op).1 = .Rejected e) ∨
          ∃ key link_hash, op = .Revoke key link_hash ∧ sm.is_revoked key link_hash)) ∧
      ∀ log : MarkedLog ReplicatedOp, pins (MarkedLog.kept log) < 2 ^ 64 →
        (∀ before op after, log = before ++ (op, true) :: after →
          ∃ earlier later entry, MarkedLog.kept before = earlier ++ op :: later ∧
            (apply_one (replay earlier) op).1 = .Applied entry) →
        MarkedLog.keptResults apply_one StateMachine.new log = replay_results (MarkedLog.kept log) ∧
          view (replay (MarkedLog.all log)) = view (replay (MarkedLog.kept log)) := by
  refine ⟨?_, ?_⟩
  · intro before between op entry hpins happlied sm
    have hspent := replay_spent hpins happlied
    have hdisjoint := replay_disjoint (before ++ op :: between)
    rw [apply_one_next, apply_one_result]
    exact ⟨hspent.inert hdisjoint, hspent.rejected hdisjoint⟩
  · intro log hpins hcopies
    refine MarkedLog.keptResults_eq_of_erasure (R := fun sm sm' => view sm = view sm')
      (P := fun _ sm' op => (view sm').Disjoint ∧ (view sm').Spent op) ?_ ?_ log rfl ?_
    · intro sm sm' op hview
      exact apply_one_congr hview op
    · rintro sm sm' op hview ⟨hdisjoint, hspent⟩
      rw [apply_one_next, hview]
      exact hspent.inert hdisjoint
    · intro before op after hsplit
      refine ⟨replay_disjoint _, ?_⟩
      obtain ⟨earlier, later, entry, hkept, happlied⟩ := hcopies before op after hsplit
      have hbefore : pins (MarkedLog.kept before) < 2 ^ 64 := by
        rw [hsplit, MarkedLog.kept_append, pins_append] at hpins
        omega
      rw [hkept] at hbefore
      have hspent := replay_spent hbefore happlied
      rw [← hkept] at hspent
      exact hspent

/-- A pin submitted twice: the copy is refused and the pinned state stays. -/
theorem duplicates_inert_pin_twice :
    let key : PcrKey := ⟨Vector.replicate 32 1⟩
    let commitment : UInt8 → Commitment := fun n => ⟨Vector.replicate 32 n⟩
    let before := [ReplicatedOp.Register key (commitment 7) (Vector.replicate 65 4)]
    let pin := ReplicatedOp.Pin key ⟨0⟩ (commitment 8)
    view (apply_one (replay (before ++ [pin])) pin).2 = view (replay (before ++ [pin])) := by
  intro key commitment before pin
  have happlied : (apply_one (replay before) pin).1 =
      .Applied ⟨commitment 8, ⟨1⟩, Vector.replicate 65 4⟩ := by
    decide +kernel
  exact (duplicates_inert.1 before [] pin _ (by decide) happlied).1

end enclavia.synchronizer.raft
