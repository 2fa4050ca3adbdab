import Enclavia.Synchronizer.Raft.Lineage

open ledger

namespace enclavia.synchronizer.raft

theorem LineageInv.empty : LineageInv LineageSpec.empty View.empty 0 where
  owners_nodup := List.nodup_nil
  live_owner key hlive := by simp [View.empty] at hlive
  owner_holds lineage hmem := by cases hmem
  length_le lineage hmem := by cases hmem
  retired_iff key := by simp [View.empty, LineageSpec.empty]

variable {spec : LineageSpec} {v : View} {bound : Nat} {key : PcrKey} {entry : KeyState}

theorem LineageInv.owner_iff
    (hinv : LineageInv spec v bound) (key : PcrKey) :
    v.state[key]?.isSome ↔ key ∈ spec.lineages.owners := by
  refine ⟨hinv.live_owner key, ?_⟩
  intro howner
  obtain ⟨lineage, hmem, rfl⟩ := List.mem_map.mp howner
  obtain ⟨entry, hlive, -⟩ := hinv.owner_holds lineage hmem
  rw [hlive]
  rfl

theorem LineageInv.not_owner
    (hinv : LineageInv spec v bound) (hfree : v.state[key]? = none) :
    key ∉ spec.lineages.owners := by
  rw [← hinv.owner_iff, hfree]
  simp

private theorem LineageInv.register
    (hinv : LineageInv spec v bound) (hfree : v.state[key]? = none)
    (commitment : Commitment) (control_pubkey : ControlPubkey) :
    LineageInv { spec with lineages := spec.lineages.create key commitment }
      { v with state := v.state.insert key ⟨commitment, ⟨0⟩, control_pubkey⟩ } bound where
  owners_nodup := by
    rw [Ledger.owners_create]
    rw [← List.concat_eq_append]
    exact hinv.owners_nodup.concat (hinv.not_owner hfree)
  live_owner other hlive := by
    rw [Ledger.owners_create, List.mem_append, List.mem_singleton]
    rw [getElem?_insert_key] at hlive
    by_cases hother : key = other
    · exact .inr hother.symm
    · rw [if_neg hother] at hlive
      exact .inl (hinv.live_owner other hlive)
  owner_holds lineage hmem := by
    rw [Ledger.create, List.mem_append, List.mem_singleton] at hmem
    rcases hmem with hmem | rfl
    · obtain ⟨held, hlive, hholds⟩ := hinv.owner_holds lineage hmem
      have hne : key ≠ lineage.owner := by
        intro heq
        rw [heq, hlive] at hfree
        cases hfree
      refine ⟨held, ?_, hholds⟩
      rw [getElem?_insert_key, if_neg hne]
      exact hlive
    · exact ⟨_, Std.ExtTreeMap.getElem?_insert_self, rfl, rfl⟩
  length_le lineage hmem := by
    rw [Ledger.create, List.mem_append, List.mem_singleton] at hmem
    rcases hmem with hmem | rfl
    · exact hinv.length_le lineage hmem
    · simp
  retired_iff := hinv.retired_iff

private theorem Holds.append {lineage : Lineage PcrKey Commitment}
    (hholds : Holds lineage entry) (hlength : lineage.items.length < 2 ^ 64) (commitment : Commitment)
    (control_pubkey : ControlPubkey) :
    Holds ⟨lineage.owner, lineage.items ++ [commitment]⟩
      ⟨commitment, ⟨entry.version.val + 1⟩, control_pubkey⟩ := by
  obtain ⟨-, hversion⟩ := hholds
  refine ⟨List.getLast?_concat, ?_⟩
  simp only [Version.toNat_succ (hversion ▸ hlength), hversion, List.length_append,
    List.length_singleton]

private theorem LineageInv.pin
    (hinv : LineageInv spec v bound) (hbound : bound + 1 < 2 ^ 64)
    (hlive : v.state[key]? = some entry) (commitment : Commitment) :
    LineageInv { spec with lineages := spec.lineages.append key commitment }
      { v with
        state := v.state.insert key ⟨commitment, ⟨entry.version.val + 1⟩, entry.control_pubkey⟩ }
      (bound + 1) where
  owners_nodup := by
    rw [Ledger.owners_append]
    exact hinv.owners_nodup
  live_owner other hother := by
    rw [Ledger.owners_append]
    rw [getElem?_insert_key] at hother
    by_cases heq : key = other
    · subst heq
      exact hinv.live_owner key (by rw [hlive]; rfl)
    · rw [if_neg heq] at hother
      exact hinv.live_owner other hother
  owner_holds lineage hmem := by
    obtain ⟨source, hsource, rfl⟩ := List.mem_map.mp hmem
    obtain ⟨held, hheld, hholds⟩ := hinv.owner_holds source hsource
    by_cases howner : source.owner = key
    · rw [howner, hlive, Option.some.injEq] at hheld
      subst hheld
      have hlength := hinv.length_le source hsource
      simp only [howner, if_true]
      refine ⟨_, Std.ExtTreeMap.getElem?_insert_self, ?_⟩
      rw [← howner]
      exact hholds.append (by omega) commitment _
    · simp only [howner, if_false]
      refine ⟨held, ?_, hholds⟩
      rw [getElem?_insert_key, if_neg (Ne.symm howner)]
      exact hheld
  length_le lineage hmem := by
    obtain ⟨source, hsource, rfl⟩ := List.mem_map.mp hmem
    have hlength := hinv.length_le source hsource
    by_cases howner : source.owner = key
    · simp only [howner, if_true, List.length_append, List.length_singleton]
      omega
    · simp only [howner, if_false]
      omega
  retired_iff := hinv.retired_iff

private theorem LineageInv.transition
    (hinv : LineageInv spec v bound) {old_key new_key : PcrKey}
    (hlive : v.state[old_key]? = some entry) (hfree : v.state[new_key]? = none)
    (pubkey : ControlPubkey) :
    LineageInv ⟨spec.lineages.hand_over old_key new_key, spec.retired ++ [old_key]⟩
      { v with
        state := (v.state.erase old_key).insert new_key { entry with control_pubkey := pubkey }
        retired := v.retired.insert old_key } bound where
  owners_nodup := Ledger.nodup_hand_over hinv.owners_nodup (hinv.not_owner hfree)
  live_owner other hother := by
    rw [Ledger.owners_hand_over, List.mem_map]
    rw [getElem?_insert_key, getElem?_erase_key] at hother
    by_cases hnew : new_key = other
    · refine ⟨old_key, hinv.live_owner old_key (by rw [hlive]; rfl), ?_⟩
      rw [if_pos rfl, hnew]
    · rw [if_neg hnew] at hother
      by_cases hold : old_key = other
      · rw [if_pos hold] at hother
        cases hother
      · rw [if_neg hold] at hother
        exact ⟨other, hinv.live_owner other hother, if_neg (Ne.symm hold)⟩
  owner_holds lineage hmem := by
    obtain ⟨source, hsource, rfl⟩ := List.mem_map.mp hmem
    obtain ⟨held, hheld, hholds⟩ := hinv.owner_holds source hsource
    by_cases howner : source.owner = old_key
    · rw [howner, hlive, Option.some.injEq] at hheld
      subst hheld
      simp only [howner, if_true]
      exact ⟨_, Std.ExtTreeMap.getElem?_insert_self, hholds⟩
    · simp only [howner, if_false]
      refine ⟨held, ?_, hholds⟩
      have hnew : new_key ≠ source.owner := by
        intro heq
        rw [← heq, hfree] at hheld
        cases hheld
      rw [getElem?_insert_key, if_neg hnew, getElem?_erase_key, if_neg (Ne.symm howner)]
      exact hheld
  length_le lineage hmem := by
    obtain ⟨source, hsource, rfl⟩ := List.mem_map.mp hmem
    have hlength := hinv.length_le source hsource
    by_cases howner : source.owner = old_key
    · simpa only [howner, if_true] using hlength
    · simpa only [howner, if_false] using hlength
  retired_iff other := by
    rw [mem_insert_key, List.mem_append, List.mem_singleton, hinv.retired_iff]
    constructor
    · rintro (rfl | hmem)
      · exact .inr rfl
      · exact .inl hmem
    · rintro (hmem | rfl)
      · exact .inr hmem
      · exact .inl rfl

private theorem LineageInv.mono {bound' : Nat}
    (hinv : LineageInv spec v bound) (hle : bound ≤ bound') : LineageInv spec v bound' where
  owners_nodup := hinv.owners_nodup
  live_owner := hinv.live_owner
  owner_holds := hinv.owner_holds
  length_le lineage hmem := Nat.le_trans (hinv.length_le lineage hmem) (Nat.succ_le_succ hle)
  retired_iff := hinv.retired_iff

theorem LineageInv.apply
    (hinv : LineageInv spec v bound) (op : ReplicatedOp) (hbound : bound + pins [op] < 2 ^ 64) :
    LineageInv (spec.step op (v.apply op).1) (v.apply op).2 (bound + pins [op]) := by
  obtain ⟨e, happly⟩ | ⟨entry, after, happly, happlies⟩ := View.apply_cases v op
  · rw [happly]
    have hspec : spec.step op (.Rejected e) = spec := by cases op <;> rfl
    rw [hspec]
    exact hinv.mono (Nat.le_add_right _ _)
  · rw [happly]
    cases happlies with
    | register hfree hretired => exact hinv.register hfree _ _
    | pin hlive => exact hinv.pin hbound hlive _
    | transition hne hlive hrevoked hfree hretired =>
      exact hinv.transition hlive hfree _
    | revoke hretired hlive =>
      exact ⟨hinv.owners_nodup, hinv.live_owner, hinv.owner_holds, hinv.length_le,
        hinv.retired_iff⟩

theorem replay_lineageInv (log : List ReplicatedOp) (hpins : pins log < 2 ^ 64) :
    LineageInv (LineageSpec.of_log log) (view (replay log)) (pins log) := by
  induction log using List.reverseRecOn with
  | nil => exact LineageInv.empty
  | append_singleton log op ih =>
    rw [pins_append] at hpins
    have hinv := ih (by omega)
    rw [LineageSpec.of_log_concat, replay_concat_view, pins_append]
    exact hinv.apply op hpins

theorem replay_version_le {log : List ReplicatedOp} (hpins : pins log < 2 ^ 64)
    (hlive : (view (replay log)).state[key]? = some entry) :
    entry.version.val.toNat ≤ pins log := by
  have hinv := replay_lineageInv log hpins
  have howner : key ∈ (LineageSpec.of_log log).lineages.owners :=
    hinv.live_owner key (by rw [hlive]; rfl)
  obtain ⟨lineage, hmem, rfl⟩ := List.mem_map.mp howner
  obtain ⟨held, hheld, -, hlength⟩ := hinv.owner_holds lineage hmem
  rw [hlive, Option.some.injEq] at hheld
  subst hheld
  have hle := hinv.length_le lineage hmem
  omega

/-- The ledger is what the state machine shows. -/
structure LineageSpec.Represents (spec : LineageSpec) (sm : StateMachine) : Prop where
  owners_nodup : spec.lineages.owners.Nodup
  live_iff_owner : ∀ key, (sm.get key).isSome ↔ key ∈ spec.lineages.owners
  get_owner : ∀ lineage ∈ spec.lineages, ∃ entry, sm.get lineage.owner = some entry ∧
    lineage.items.getLast? = some entry.commitment ∧
    entry.version.val.toNat = lineage.items.length - 1
  retired_iff : ∀ key, key ∈ sm.retired ↔ key ∈ spec.retired
  disjoint : ∀ key, (sm.get key).isSome → key ∉ sm.retired

theorem LineageInv.represents {sm : StateMachine}
    (hinv : LineageInv spec (view sm) bound) (hdisjoint : (view sm).Disjoint) :
    spec.Represents sm where
  owners_nodup := hinv.owners_nodup
  live_iff_owner := hinv.owner_iff
  get_owner lineage hmem := by
    obtain ⟨entry, hget, hlast, hlength⟩ := hinv.owner_holds lineage hmem
    exact ⟨entry, hget, hlast, by omega⟩
  retired_iff := hinv.retired_iff
  disjoint := hdisjoint

/-- After every prefix of every log the state machine shows exactly the ledger of that prefix, the ledger only ever
grows, and the next entry leaves the lineage and the state of each key it does not name alone. -/
theorem replay_refines_lineages (log before after : List ReplicatedOp)
    (hpins : pins log < 2 ^ 64) (hsplit : log = before ++ after) :
    (LineageSpec.of_log before).Represents (replay before) ∧
      (LineageSpec.of_log before).lineages.Extends (LineageSpec.of_log log).lineages ∧
      ∀ op rest, after = op :: rest → ∀ key, key ∉ op.keys →
        Ledger.SameOf key (LineageSpec.of_log before).lineages
          (LineageSpec.of_log (before ++ [op])).lineages ∧
        (replay (before ++ [op])).get key = (replay before).get key := by
  subst hsplit
  refine ⟨?_, LineageSpec.of_log_extends before after, ?_⟩
  · have hbefore : pins before < 2 ^ 64 := by
      rw [pins_append] at hpins
      omega
    exact (replay_lineageInv before hbefore).represents (replay_disjoint before)
  · intro op rest hafter key hkey
    refine ⟨?_, ?_⟩
    · rw [LineageSpec.of_log_concat]
      exact LineageSpec.step_sameOf _ _ hkey
    · have hstate := View.apply_state_of_not_named (view (replay before)) hkey
      rw [← replay_concat_view] at hstate
      exact hstate

/-- A registration, a pin and a hand-over to a second key. -/
theorem replay_refines_lineages_upgrade :
    let key : UInt8 → PcrKey := fun n => ⟨Vector.replicate 32 n⟩
    let commitment : UInt8 → Commitment := fun n => ⟨Vector.replicate 32 n⟩
    let log := [ReplicatedOp.Register (key 1) (commitment 7) (Vector.replicate 65 4),
      .Pin (key 1) ⟨0⟩ (commitment 8),
      .Transition (key 1) (key 2) (Vector.replicate 65 5) (Vector.replicate 32 9) 0 (commitment 8)]
    pins log < 2 ^ 64 ∧ (LineageSpec.of_log log).Represents (replay log) := by
  intro key commitment log
  have hpins : pins log < 2 ^ 64 := by decide
  exact ⟨hpins, (replay_refines_lineages log log [] hpins (List.append_nil log).symm).1⟩

end enclavia.synchronizer.raft
