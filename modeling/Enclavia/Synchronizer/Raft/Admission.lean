import Enclavia.Interaction.Program
import Enclavia.Machine.Guarded
import Enclavia.Synchronizer.Raft.AdmissionKernel
import Enclavia.Synchronizer.Raft.Handle

open interaction

namespace enclavia.synchronizer.raft

inductive AdmitEffect where
  | is_leader
  | leader_name
  | committed_voters
  | add_learner (id : RaftNodeId) (record : MemberRecord)
  | change_membership (ids : Std.ExtTreeSet RaftNodeId)

@[reducible] def AdmitAnswer : AdmitEffect → Type
  | .is_leader => Bool
  | .leader_name => Option String
  | .committed_voters => Voters
  | .add_learner _ _ => Except AddLearnerError Unit
  | .change_membership _ => Except String Unit

abbrev AdmitProc := Program AdmitEffect AdmitAnswer (Except RaftHandleError Bool)

namespace RaftHandle

def change_failed (message : String) : AdmitProc :=
  if (message.splitOn "ForwardToLeader").length > 1 || (message.splitOn "forward").length > 1 then
    .act .leader_name fun hint => .ret (.error (.NotLeader hint))
  else .ret (.error (.Raft s!"membership change failed: {message}"))

def execute_plan (candidate_name : String) (plan : AdmissionPlan) : AdmitProc :=
  if plan.already_member then .ret (.ok true)
  else .act (.add_learner plan.added_id plan.added) fun
    | .error (.Failed message) => change_failed message
    | .error .Elapsed =>
      .ret (.error (.Raft s!"learner {candidate_name} did not catch up within {ADD_LEARNER_TIMEOUT}s; retry the join"))
    | .ok () => .act (.change_membership plan.new_voter_ids) fun
      | .error message => change_failed message
      | .ok () => .ret (.ok true)

def admit_among (configured_names : Std.ExtTreeSet String) (candidate : MemberRecord) (voters : Voters) : AdmitProc :=
  match plan_admission configured_names voters candidate.name candidate.pubkey with
  | .error error => .ret (.error (.JoinRefused error))
  | .ok plan => execute_plan candidate.name plan

def admit_steps (configured_names : Std.ExtTreeSet String) (candidate : MemberRecord) : AdmitProc :=
  .act .is_leader fun leader =>
    if !leader then .act .leader_name fun hint => .ret (.error (.NotLeader hint))
    else .act .committed_voters (admit_among configured_names candidate)

variable {Node : Type} (raft : Openraft Node) (handle : RaftHandle)

def answer_admit : (effect : AdmitEffect) → Node → AdmitAnswer effect × Node
  | .is_leader, node => (handle.is_leader raft node, node)
  | .leader_name, node => (leader_name raft node, node)
  | .committed_voters, node => (committed_voters raft node, node)
  | .add_learner id record, node => raft.add_learner node id record
  | .change_membership ids, node => raft.change_membership node ids

private theorem eval_change_failed (message : String) (node : Node) :
    (change_failed message).eval (handle.answer_admit raft) node =
      (.error (membership_change_err raft node message), node) := by
  unfold change_failed membership_change_err
  split <;> rfl

theorem eval_admit_steps (node : Node) (candidate : MemberRecord) :
    (admit_steps handle.configured_names candidate).eval (handle.answer_admit raft) node =
      handle.admit_candidate raft node candidate.name candidate.pubkey := by
  unfold admit_candidate
  simp only [admit_steps, Program.eval, answer_admit]
  by_cases hleader : handle.is_leader raft node = true
  · simp only [hleader, Bool.not_true, Bool.false_eq_true, if_false, Program.eval, answer_admit, admit_among]
    cases plan_admission handle.configured_names (committed_voters raft node) candidate.name candidate.pubkey with
    | error error => rfl
    | ok plan =>
      by_cases hmember : plan.already_member = true
      · simp only [execute_plan, hmember, if_true, Program.eval]
      · simp only [execute_plan, hmember, Bool.false_eq_true, if_false, Program.eval, answer_admit]
        rcases raft.add_learner node plan.added_id plan.added with ⟨(_ | message) | _, after⟩
        · rfl
        · exact eval_change_failed raft handle message after
        · simp only [Program.eval, answer_admit]
          rcases raft.change_membership after plan.new_voter_ids with ⟨message | _, last⟩
          · exact eval_change_failed raft handle message last
          · rfl
  · simp only [hleader, Bool.not_false, if_true, Program.eval, answer_admit]

end RaftHandle

end enclavia.synchronizer.raft
