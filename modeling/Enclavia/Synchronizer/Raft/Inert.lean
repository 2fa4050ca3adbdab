import Enclavia.Machine.Marked
import Enclavia.Synchronizer.Raft.ViewSteps

open machine

namespace enclavia.synchronizer.raft

def of_observation : ValidationError → Bool
  | .NotAttested => true
  | .NewKeyNotAttested => true
  | .NoTransitionAuthorization => true
  | _ => false

theorem apply_one_congr {sm sm' : StateMachine} (hview : view sm = view sm') (op : ReplicatedOp) :
    (apply_one sm op).1 = (apply_one sm' op).1 ∧
      view (apply_one sm op).2 = view (apply_one sm' op).2 := by
  rw [apply_one_result, apply_one_result, apply_one_next, apply_one_next, hview]
  exact ⟨rfl, rfl⟩

variable {e : ValidationError}

theorem apply_one_rejected_view {sm : StateMachine} {op : ReplicatedOp}
    (hrejected : (apply_one sm op).1 = .Rejected e) : view (apply_one sm op).2 = view sm := by
  rw [apply_one_result] at hrejected
  rw [apply_one_next]
  exact View.apply_rejected hrejected

theorem View.apply_rejected_not_of_observation (v : View) (op : ReplicatedOp)
    (hrejected : (v.apply op).1 = .Rejected e) : of_observation e = false := by
  cases op with
  | Register key commitment control_pubkey | Pin key expected_version commitment
  | Transition old_key new_key new_control_pubkey link_hash valid_until_ms commitment | Revoke key link_hash =>
    simp only [View.apply] at hrejected
    repeat' split at hrejected
    all_goals cases hrejected
    all_goals rfl

theorem results_not_of_observation (sm : StateMachine) (log : List ReplicatedOp)
    (hmem : ReplicatedOpResult.Rejected e ∈ results apply_one sm log) :
    of_observation e = false := by
  induction log generalizing sm with
  | nil => cases hmem
  | cons op log ih =>
    rw [results_cons, List.mem_cons] at hmem
    rcases hmem with hhead | htail
    · rw [apply_one_result] at hhead
      exact View.apply_rejected_not_of_observation (view sm) op hhead.symm
    · exact ih _ htail

/-- Rejected entries are inert. -/
theorem rejected_entries_inert :
    (∀ log : MarkedLog ReplicatedOp,
      (∀ before op after, log = before ++ (op, true) :: after →
        ∃ e, (apply_one (replay (MarkedLog.all before)) op).1 = .Rejected e) →
      MarkedLog.keptResults apply_one StateMachine.new log = replay_results (MarkedLog.kept log) ∧
        view (replay (MarkedLog.all log)) = view (replay (MarkedLog.kept log))) ∧
      (∀ sm sm' : StateMachine, view sm = view sm' → ∀ log : List ReplicatedOp,
        results apply_one sm log = results apply_one sm' log) ∧
      ∀ (sm : StateMachine) (log : List ReplicatedOp), ∀ e,
        .Rejected e ∈ results apply_one sm log →
        e ≠ .NotAttested ∧ e ≠ .NewKeyNotAttested ∧ e ≠ .NoTransitionAuthorization := by
  refine ⟨?_, ?_, ?_⟩
  · intro log hrejected
    refine MarkedLog.keptResults_eq_of_erasure (R := fun sm sm' => view sm = view sm')
      (P := fun sm _ op => ∃ e, (apply_one sm op).1 = .Rejected e) ?_ ?_ log rfl hrejected
    · intro sm sm' op hview
      exact apply_one_congr hview op
    · rintro sm sm' op hview ⟨e, he⟩
      exact (apply_one_rejected_view he).trans hview
  · intro sm sm' hview log
    have hbisim := results_eq_of_bisim apply_one (R := fun sm sm' => view sm = view sm')
      (Q := fun _ => True) (fun sm sm' op _ h => apply_one_congr h op) hview log (fun _ _ => trivial)
    exact hbisim.1
  · intro sm log e hmem
    have hclass := results_not_of_observation sm log hmem
    refine ⟨?_, ?_, ?_⟩
    · rintro rfl
      cases hclass
    · rintro rfl
      cases hclass
    · rintro rfl
      cases hclass

/-- A second registration with another pubkey is rejected after it was recorded as attested, and
leaving it out changes nothing. -/
theorem rejected_entries_inert_register_twice :
    let key : PcrKey := ⟨Vector.replicate 32 1⟩
    let commitment : Commitment := ⟨Vector.replicate 32 7⟩
    let log : MarkedLog ReplicatedOp :=
      [(.Register key commitment (Vector.replicate 65 4), false),
        (.Register key commitment (Vector.replicate 65 5), true)]
    view (replay (MarkedLog.all log)) = view (replay (MarkedLog.kept log)) := by
  intro key commitment log
  refine (rejected_entries_inert.1 log ?_).2
  intro before op after hsplit
  have hrejected : (apply_one (replay [.Register key commitment (Vector.replicate 65 4)])
      (.Register key commitment (Vector.replicate 65 5))).1 = .Rejected .AlreadyRegistered := by
    decide +kernel
  obtain _ | ⟨first, _ | ⟨second, before⟩⟩ := before
  · simp [log] at hsplit
  · simp only [log, List.cons_append, List.nil_append, List.cons.injEq, Prod.mk.injEq] at hsplit
    obtain ⟨rfl, ⟨rfl, -⟩, -⟩ := hsplit
    exact ⟨_, hrejected⟩
  · simp [log] at hsplit

end enclavia.synchronizer.raft
