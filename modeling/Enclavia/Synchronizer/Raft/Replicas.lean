import Enclavia.Synchronizer.Snapshot
import Enclavia.Synchronizer.Raft.Store

namespace enclavia.synchronizer.raft

/-- A replica: its state machine and how many entries of the committed log it has applied. -/
structure Replica where
  sm : StateMachine
  last_applied : Nat

/-- The replicas of one committed log and every snapshot any of them has built. -/
structure Replicas where
  replica : Nat → Replica
  snapshots : List (StateMachineSnapshot × Nat)

inductive Replicas.Action where
  | apply (r : Nat)
  | build_snapshot (r : Nat)
  | install_snapshot (r : Nat) (i : Nat)
  | restart (r : Nat)

namespace Replicas

def start : Replicas := ⟨fun _ => ⟨StateMachine.new, 0⟩, []⟩

def set (c : Replicas) (r : Nat) (replica : Replica) : Replicas :=
  { c with replica := fun r' => if r' = r then replica else c.replica r' }

/-- One action over a committed log. -/
def step (log : List ReplicatedOp) (c : Replicas) :
    Action → Option (Nat × ReplicatedOpResult) × Replicas
  | .apply r =>
    let replica := c.replica r
    match log[replica.last_applied]? with
    | none => (none, c)
    | some op =>
      let (result, sm) := apply_one replica.sm op
      (some (replica.last_applied, result), c.set r ⟨sm, replica.last_applied + 1⟩)
  | .build_snapshot r =>
    (none, { c with
      snapshots := c.snapshots ++ [((c.replica r).sm.snapshot, (c.replica r).last_applied)] })
  | .install_snapshot r i =>
    match c.snapshots[i]? with
    | none => (none, c)
    | some (snapshot, position) =>
      (none, c.set r ⟨(c.replica r).sm.restore_from_snapshot snapshot, position⟩)
  | .restart r => (none, c.set r ⟨StateMachine.new, 0⟩)

/-- Every replica and every snapshot is the fold of a prefix of the committed log. -/
structure Follows (log : List ReplicatedOp) (c : Replicas) : Prop where
  replica : ∀ r, (c.replica r).sm = replay (log.take (c.replica r).last_applied)
  snapshot : ∀ s ∈ c.snapshots, s.1 = (replay (log.take s.2)).snapshot

theorem Follows.start (log : List ReplicatedOp) : start.Follows log where
  replica _ := rfl
  snapshot s hs := by cases hs

variable {log : List ReplicatedOp}

private theorem Follows.set {c : Replicas} (hc : c.Follows log) (r : Nat) {replica : Replica}
    (hreplica : replica.sm = replay (log.take replica.last_applied)) :
    (c.set r replica).Follows log where
  replica r' := by
    simp only [Replicas.set]
    split
    · exact hreplica
    · exact hc.replica r'
  snapshot := hc.snapshot

theorem Follows.step {c : Replicas} (hc : c.Follows log) (action : Action) : (c.step log action).2.Follows log := by
  cases action with
  | apply r =>
    simp only [Replicas.step]
    cases hop : log[(c.replica r).last_applied]? with
    | none => exact hc
    | some op =>
      refine hc.set r ?_
      rw [List.take_add_one, hop, hc.replica r]
      exact (replay_concat _ op).symm
  | build_snapshot r =>
    refine ⟨hc.replica, ?_⟩
    intro s hs
    rcases List.mem_append.mp hs with hs | hs
    · exact hc.snapshot s hs
    · rw [List.mem_singleton.mp hs, hc.replica r]
  | install_snapshot r i =>
    simp only [Replicas.step]
    cases hs : c.snapshots[i]? with
    | none => exact hc
    | some s =>
      refine hc.set r ?_
      rw [hc.snapshot s (List.mem_of_getElem? hs)]
      exact StateMachine.restore_from_snapshot_snapshot _ (c.replica r).sm
  | restart r => exact hc.set r rfl

theorem run_follows (log : List ReplicatedOp) (actions : List Action) :
    (machine.run (step log) start actions).Follows log :=
  machine.run_preserves (step log) (fun _ action hc => hc.step action) (Follows.start log) actions

theorem run_result {actions : List Action} {action : Action} {position : Nat} {result : ReplicatedOpResult}
    (hstep : (step log (machine.run (step log) start actions) action).1 = some (position, result)) :
    ∃ op, log[position]? = some op ∧ result = (apply_one (replay (log.take position)) op).1 := by
  have hfollows := run_follows log actions
  generalize machine.run (step log) start actions = c at hstep hfollows
  cases action with
  | apply r =>
    simp only [step] at hstep
    cases hop : log[(c.replica r).last_applied]? with
    | none =>
      rw [hop] at hstep
      cases hstep
    | some op =>
      rw [hop] at hstep
      cases hstep
      refine ⟨op, hop, ?_⟩
      rw [hfollows.replica r]
  | build_snapshot r => cases hstep
  | install_snapshot r i =>
    simp only [step] at hstep
    split at hstep <;> cases hstep
  | restart r => cases hstep

end Replicas

end enclavia.synchronizer.raft
