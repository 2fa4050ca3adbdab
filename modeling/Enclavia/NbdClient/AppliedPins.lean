import Enclavia.NbdClient.Oracle
import Enclavia.Synchronizer.Raft.Duplicates

open enclavia.synchronizer enclavia.synchronizer.raft

namespace enclavia.nbd_client

def applied_pin (key : PcrKey) : ReplicatedOp → ReplicatedOpResult → Option (Nat × Commitment)
  | .Pin named _ commitment, .Applied state =>
    if named = key then some (state.version.val.toNat, commitment) else none
  | _, _ => none

def applied_pins (key : PcrKey) (log : List ReplicatedOp) : List (Nat × Commitment) :=
  (log.zip (replay_results log)).filterMap fun entry => applied_pin key entry.1 entry.2

variable {key : PcrKey} {log log' more : List ReplicatedOp} {op : ReplicatedOp} {n : Nat} {commitment : Commitment}

theorem applied_pins_concat (log : List ReplicatedOp) (op : ReplicatedOp) : applied_pins key (log ++ [op]) =
    applied_pins key log ++ (applied_pin key op (apply_one (replay log) op).1).toList := by
  have hresults : replay_results (log ++ [op]) = replay_results log ++ [(apply_one (replay log) op).1] :=
    machine.results_append apply_one StateMachine.new log [op]
  have hlength : log.length = (replay_results log).length := (machine.results_length apply_one _ log).symm
  rw [applied_pins, hresults, List.zip_append hlength, List.filterMap_append]
  congr 1

theorem applied_pin_eq_some {result : ReplicatedOpResult} :
    applied_pin key op result = some (n, commitment) ↔
      ∃ expected_version state, op = .Pin key expected_version commitment ∧ result = .Applied state ∧
        state.version.val.toNat = n := by
  constructor
  · intro h
    unfold applied_pin at h
    split at h
    · split at h
      · next hkey =>
        cases h
        subst hkey
        exact ⟨_, _, rfl, rfl, rfl⟩
      · cases h
    · cases h
  · rintro ⟨expected_version, state, rfl, rfl, rfl⟩
    simp [applied_pin]

theorem appliedSince_concat {since : Nat} {next : ReplicatedOp} {state : KeyState} :
    AppliedSince (log ++ [next]) since op state ↔ AppliedSince log since op state ∨
      since ≤ log.length ∧ op = next ∧ (apply_one (replay log) op).1 = .Applied state := by
  constructor
  · rintro ⟨pos, hsince, hentry, happlied⟩
    rcases Nat.lt_or_ge pos log.length with hlt | hge
    · rw [List.getElem?_append_left hlt] at hentry
      rw [List.take_append_of_le_length (Nat.le_of_lt hlt)] at happlied
      exact .inl ⟨pos, hsince, hentry, happlied⟩
    · obtain ⟨hlt, -⟩ := List.getElem?_eq_some_iff.mp hentry
      rw [List.length_append, List.length_singleton] at hlt
      obtain rfl : pos = log.length := by omega
      rw [List.getElem?_concat_length, Option.some.injEq] at hentry
      rw [List.take_left] at happlied
      exact .inr ⟨hsince, hentry.symm, happlied⟩
  · rintro (h | ⟨hsince, rfl, happlied⟩)
    · exact h.grow (List.prefix_append _ _)
    · refine ⟨log.length, hsince, List.getElem?_concat_length, ?_⟩
      rw [List.take_left]
      exact happlied

theorem mem_applied_pins : (n, commitment) ∈ applied_pins key log ↔
    ∃ expected_version state, AppliedSince log 0 (.Pin key expected_version commitment) state ∧
      state.version.val.toNat = n := by
  induction log using List.reverseRecOn with
  | nil => simp [applied_pins, AppliedSince]
  | append_singleton log op ih =>
    rw [applied_pins_concat, List.mem_append, ih, Option.mem_toList, applied_pin_eq_some]
    simp only [appliedSince_concat, Nat.zero_le, true_and]
    constructor
    · rintro (⟨expected_version, state, happlied, hversion⟩ | ⟨expected_version, state, rfl, happlied, hversion⟩)
      · exact ⟨expected_version, state, .inl happlied, hversion⟩
      · exact ⟨expected_version, state, .inr ⟨rfl, happlied⟩, hversion⟩
    · rintro ⟨expected_version, state, happlied | ⟨rfl, happlied⟩, hversion⟩
      · exact .inl ⟨expected_version, state, happlied, hversion⟩
      · exact .inr ⟨expected_version, state, rfl, happlied, hversion⟩

def Passed (key : PcrKey) (log : List ReplicatedOp) (n : Nat) : Prop :=
  key ∈ (view (replay log)).retired ∨
    ∃ entry, (view (replay log)).state[key]? = some entry ∧ n ≤ entry.version.val.toNat

theorem Passed.concat (h : Passed key log n) (op : ReplicatedOp) (hpins : pins (log ++ [op]) < 2 ^ 64) :
    Passed key (log ++ [op]) n := by
  have hroom : op.is_pin → (view (replay log)).Room := by
    intro hpin
    have hone : pins [op] = 1 := by simp [pins, hpin]
    rw [pins_append] at hpins
    exact replay_room (by omega)
  rw [Passed, replay_concat_view]
  rcases h with hretired | ⟨entry, hlive, hle⟩
  · exact .inl (View.apply_retired hretired op)
  · rcases View.apply_version_le hlive op hroom with hretired | ⟨entry', hlive', hle'⟩
    · exact .inl hretired
    · exact .inr ⟨entry', hlive', Nat.le_trans hle hle'⟩

theorem Passed.append (h : Passed key log n) (more : List ReplicatedOp) (hpins : pins (log ++ more) < 2 ^ 64) :
    Passed key (log ++ more) n := by
  induction more using List.reverseRecOn with
  | nil =>
    rw [List.append_nil]
    exact h
  | append_singleton more op ih =>
    rw [← List.append_assoc] at hpins ⊢
    have hle : pins (log ++ more) ≤ pins (log ++ more ++ [op]) := by
      rw [pins_append _ [op]]
      exact Nat.le_add_right _ _
    exact (ih (Nat.lt_of_le_of_lt hle hpins)).concat op hpins

theorem Passed.lt_of_applied (h : Passed key log n) {expected_version : Version} {state : KeyState}
    (hpins : pins log + 1 < 2 ^ 64)
    (happlied : (apply_one (replay log) (.Pin key expected_version commitment)).1 = .Applied state) :
    n < state.version.val.toNat := by
  rw [apply_one_result] at happlied
  have happlies := View.apply_applied happlied
  generalize ((view (replay log)).apply _).2 = after at happlies
  cases happlies with
  | @pin _ _ entry hlive =>
    rcases h with hretired | ⟨entry', hlive', hle⟩
    · rw [(replay_disjoint log).state_eq_none hretired] at hlive
      cases hlive
    · rw [hlive, Option.some.injEq] at hlive'
      subst hlive'
      have hroom := replay_room hpins key entry hlive
      rw [Version.toNat_succ hroom]
      omega

theorem applied_pins_increase (hpins : pins log < 2 ^ 64) :
    (applied_pins key log).Pairwise (fun a b => a.1 < b.1) ∧ ∀ pin ∈ applied_pins key log, Passed key log pin.1 := by
  induction log using List.reverseRecOn with
  | nil => exact ⟨.nil, fun _ hmem => absurd hmem List.not_mem_nil⟩
  | append_singleton log op ih =>
    have hcount : pins (log ++ [op]) = pins log + pins [op] := pins_append log [op]
    obtain ⟨hsorted, hpassed⟩ := ih (by omega)
    rw [applied_pins_concat]
    cases hpin : applied_pin key op (apply_one (replay log) op).1 with
    | none =>
      rw [Option.toList_none, List.append_nil]
      exact ⟨hsorted, fun pin hmem => (hpassed pin hmem).concat op hpins⟩
    | some pin =>
      obtain ⟨n, commitment⟩ := pin
      obtain ⟨expected_version, state, rfl, happlied, hversion⟩ := applied_pin_eq_some.mp hpin
      have hone : pins [ReplicatedOp.Pin key expected_version commitment] = 1 := rfl
      refine ⟨List.pairwise_append.mpr ⟨hsorted, List.pairwise_singleton _ _, ?_⟩, ?_⟩
      · intro earlier hmem last hlast
        rw [Option.toList_some, List.mem_singleton] at hlast
        subst hlast
        rw [← hversion]
        exact (hpassed earlier hmem).lt_of_applied (by omega) happlied
      · intro pin hmem
        rw [Option.toList_some, List.mem_append, List.mem_singleton] at hmem
        rcases hmem with hmem | rfl
        · exact (hpassed pin hmem).concat _ hpins
        · rw [apply_one_result] at happlied
          have happlies := View.apply_applied happlied
          rw [Passed, replay_concat_view]
          generalize ((view (replay log)).apply _).2 = after at happlies
          cases happlies with
          | pin => exact .inr ⟨_, Std.ExtTreeMap.getElem?_insert_self, Nat.le_of_eq hversion.symm⟩

def pins_between (key : PcrKey) (log : List ReplicatedOp) (low high : Nat) : List (Nat × Commitment) :=
  (applied_pins key log).filter fun pin => low < pin.1 && pin.1 ≤ high

theorem mem_pins_between {low high : Nat} : (n, commitment) ∈ pins_between key log low high ↔
    (n, commitment) ∈ applied_pins key log ∧ low < n ∧ n ≤ high := by
  simp [pins_between]

theorem pins_between_self (log : List ReplicatedOp) (low : Nat) : pins_between key log low low = [] := by
  rw [pins_between, List.filter_eq_nil_iff]
  intro pin _
  simp only [Bool.and_eq_true, decide_eq_true_eq]
  omega

theorem pins_between_concat {low high : Nat} (hpassed : Passed key log high) (hpins : pins (log ++ [op]) < 2 ^ 64) :
    pins_between key (log ++ [op]) low high = pins_between key log low high := by
  rw [pins_between, applied_pins_concat, List.filter_append, ← pins_between, List.append_right_eq_self,
    List.filter_eq_nil_iff]
  rintro ⟨n, commitment⟩ hmem
  obtain ⟨expected_version, state, rfl, happlied, rfl⟩ := applied_pin_eq_some.mp (Option.mem_toList.mp hmem)
  have hcount : pins (log ++ [.Pin key expected_version commitment]) = pins log + 1 := pins_append log _
  have hlt := hpassed.lt_of_applied (by omega) happlied
  simp only [Bool.and_eq_true, decide_eq_true_eq]
  omega

theorem pins_between_succ {low high : Nat} (hpins : pins log < 2 ^ 64) (hlow : low ≤ high)
    (hmem : (high + 1, commitment) ∈ applied_pins key log) :
    pins_between key log low (high + 1) = pins_between key log low high ++ [(high + 1, commitment)] := by
  have hsorted : (applied_pins key log).Pairwise _ := (applied_pins_increase hpins).1
  obtain ⟨before, after, hsplit⟩ := List.append_of_mem hmem
  rw [hsplit, List.pairwise_append, List.pairwise_cons] at hsorted
  obtain ⟨-, ⟨hafter, -⟩, hbefore⟩ := hsorted
  have hnone : ∀ bound ≤ high + 1, after.filter (fun pin => low < pin.1 && pin.1 ≤ bound) = [] := by
    intro bound hbound
    rw [List.filter_eq_nil_iff]
    intro pin hpin
    have hlt := hafter pin hpin
    simp only [Bool.and_eq_true, decide_eq_true_eq] at hlt ⊢
    omega
  have hsame : before.filter (fun pin => low < pin.1 && pin.1 ≤ high + 1) =
      before.filter (fun pin => low < pin.1 && pin.1 ≤ high) := by
    refine List.filter_congr fun pin hpin => ?_
    have hlt := hbefore pin hpin _ List.mem_cons_self
    rw [Bool.eq_iff_iff]
    simp only [Bool.and_eq_true, decide_eq_true_eq]
    omega
  have hin : (decide (low < high + 1) && decide (high + 1 ≤ high + 1)) = true := by
    simp only [Bool.and_eq_true, decide_eq_true_eq]
    omega
  have hout : (decide (low < high + 1) && decide (high + 1 ≤ high)) = false := by
    simp
  simp only [pins_between, hsplit, List.filter_append, List.filter_cons, hsame, hin, hout, hnone _ (Nat.le_refl _),
    hnone high (Nat.le_succ high), if_true, List.append_nil, Bool.false_eq_true, if_false]

theorem held_after {base : List ReplicatedOp} (hknown : Passed key base 0) (hpins : pins (base ++ more) < 2 ^ 64)
    {entry : KeyState} (hheld : (view (replay (base ++ more))).state[key]? = some entry) :
    (view (replay base)).state[key]? = some entry ∨ ∃ expected_version,
      AppliedSince (base ++ more) base.length (.Pin key expected_version entry.commitment) entry := by
  induction more using List.reverseRecOn generalizing entry with
  | nil =>
    rw [List.append_nil] at hheld
    exact .inl hheld
  | append_singleton more op ih =>
    rw [← List.append_assoc] at hpins hheld ⊢
    have hbefore : pins (base ++ more) < 2 ^ 64 := by
      rw [pins_append _ [op]] at hpins
      omega
    have hgrow : ∀ {entry : KeyState}, (view (replay (base ++ more))).state[key]? = some entry →
        (view (replay base)).state[key]? = some entry ∨ ∃ expected_version,
          AppliedSince (base ++ more ++ [op]) base.length (.Pin key expected_version entry.commitment) entry :=
      fun hlive => (ih hbefore hlive).imp_right fun ⟨expected_version, happlied⟩ =>
        ⟨expected_version, happlied.grow (List.prefix_append _ _)⟩
    -- The key cannot be born again.
    have hborn : ¬((view (replay (base ++ more))).state[key]? = none ∧
        key ∉ (view (replay (base ++ more))).retired) := by
      rintro ⟨hfree, hretired⟩
      rcases hknown.append more hbefore with hdead | ⟨entry, hlive, -⟩
      · exact hretired hdead
      · rw [hfree] at hlive
        cases hlive
    rw [replay_concat_view] at hheld
    obtain ⟨e, happly⟩ | ⟨applied, after, happly, happlies⟩ := View.apply_cases (view (replay (base ++ more))) op
    · rw [happly] at hheld
      exact hgrow hheld
    rw [happly] at hheld
    cases happlies with
    | @register named commitment control_pubkey hfree hretired =>
      have hne : named ≠ key := by
        rintro rfl
        exact hborn ⟨hfree, hretired⟩
      rw [getElem?_insert_key, if_neg hne] at hheld
      exact hgrow hheld
    | @pin named commitment held hlive =>
      rw [getElem?_insert_key] at hheld
      by_cases hne : named = key
      · subst hne
        rw [if_pos rfl, Option.some.injEq] at hheld
        subst hheld
        refine .inr ⟨held.version, appliedSince_concat.mpr (.inr ⟨?_, rfl, ?_⟩)⟩
        · rw [List.length_append]
          exact Nat.le_add_right _ _
        · rw [apply_one_result, happly]
      · rw [if_neg hne] at hheld
        exact hgrow hheld
    | @transition old_key new_key link_hash valid_until_ms held new_control_pubkey hne hlive hrevoked hfree hretired =>
      have hnew : new_key ≠ key := by
        rintro rfl
        exact hborn ⟨hfree, hretired⟩
      rw [getElem?_insert_key, if_neg hnew, getElem?_erase_key] at hheld
      split at hheld
      · cases hheld
      · exact hgrow hheld
    | revoke => exact hgrow hheld

end enclavia.nbd_client
