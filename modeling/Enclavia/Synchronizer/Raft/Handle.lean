import Enclavia.Synchronizer.Raft.Openraft

namespace enclavia.synchronizer.raft

inductive RaftHandleError where
  | Rejected (error : ValidationError)
  | Raft (message : String)
  | NotLinearizable (message : String)
  | JoinRefused (error : AdmissionError)
  | NotLeader (hint : Option String)
  | CommitTimeout (seconds : Nat)

def RaftHandleError.message : RaftHandleError → String
  | .Rejected error => s!"operation rejected by state machine: {error.message}"
  | .Raft message => s!"raft write failed: {message}"
  | .NotLinearizable message => s!"linearizable read unavailable: {message}"
  | .JoinRefused error => s!"join refused by admission kernel: {error.message}"
  | .NotLeader none => "not the leader; redirect to None"
  | .NotLeader (some hint) => s!"not the leader; redirect to Some({hint.quote})"
  | .CommitTimeout seconds => s!"no quorum within {seconds}s; a write may still commit"

def COMMIT_TIMEOUT : Nat := 5

def ADD_LEARNER_TIMEOUT : Nat := 120

/-- What a handle knows of its own node: its record and the configured cluster shape. -/
structure RaftHandle where
  self_record : MemberRecord
  configured_names : Std.ExtTreeSet String

namespace RaftHandle

def with_config (self_name : String) (self_pubkey : ControlPubkey) (peers : List String) : RaftHandle where
  self_record := { name := self_name, pubkey := self_pubkey }
  configured_names := (Std.ExtTreeSet.ofList peers).insert self_name

def self_id (handle : RaftHandle) : RaftNodeId := instance_node_id handle.self_record.pubkey

def is_smallest_name (handle : RaftHandle) : Bool :=
  match handle.configured_names.toList.head? with
  | some name => name == handle.self_record.name
  | none => false

variable {Node : Type} (raft : Openraft Node) (handle : RaftHandle) (node : Node)

def is_leader : Bool := raft.current_leader node == some handle.self_id

def name_of_committed (id : RaftNodeId) : Option String :=
  (raft.membership_config node).nodes[id]?.map MemberRecord.name

def leader_name : Option String := (raft.current_leader node).bind (name_of_committed raft node)

def committed_voters : Voters :=
  let membership := raft.membership_config node
  membership.nodes.filter fun id _ => membership.is_voter id

def is_committed_voter (id : RaftNodeId) : Bool := (raft.membership_config node).is_voter id

def self_is_committed_voter : Bool := is_committed_voter raft node handle.self_id

def cluster_is_initialized : Bool := (raft.membership_config node).has_voters

def initialize_cluster (members : Voters) : Except RaftHandleError Unit × Node :=
  match raft.initialize_members node members with
  | (.ok (), node) => (.ok (), node)
  | (.error .NotAllowed, node) => (.ok (), node)
  | (.error (.Other message), node) => (.error (.Raft s!"initialize failed: {message}"), node)

def membership_change_err (message : String) : RaftHandleError :=
  if (message.splitOn "ForwardToLeader").length > 1 || (message.splitOn "forward").length > 1 then
    .NotLeader (leader_name raft node)
  else .Raft s!"membership change failed: {message}"

def admit_candidate (candidate_name : String) (candidate_pubkey : ControlPubkey) :
    Except RaftHandleError Bool × Node :=
  if !handle.is_leader raft node then (.error (.NotLeader (leader_name raft node)), node)
  else
    match plan_admission handle.configured_names (committed_voters raft node) candidate_name
        candidate_pubkey with
    | .error error => (.error (.JoinRefused error), node)
    | .ok plan =>
      if plan.already_member then (.ok true, node)
      else
        match raft.add_learner node plan.added_id plan.added with
        | (.error (.Failed message), node) => (.error (membership_change_err raft node message), node)
        | (.error .Elapsed, node) =>
          (.error (.Raft s!"learner {candidate_name} did not catch up within {ADD_LEARNER_TIMEOUT}s; retry the join"),
            node)
        | (.ok (), node) =>
          match raft.change_membership node plan.new_voter_ids with
          | (.error message, node) => (.error (membership_change_err raft node message), node)
          | (.ok (), node) => (.ok true, node)

def Proposes (candidate_name : String) (candidate_pubkey : ControlPubkey) : Prop :=
  handle.is_leader raft node = true ∧
    ∃ plan, plan_admission handle.configured_names (committed_voters raft node) candidate_name
      candidate_pubkey = .ok plan ∧ plan.already_member = false

variable {raft handle node}

theorem admit_candidate_unchanged {candidate_name : String} {candidate_pubkey : ControlPubkey}
    (hproposes : ¬handle.Proposes raft node candidate_name candidate_pubkey) :
    (handle.admit_candidate raft node candidate_name candidate_pubkey).2 = node := by
  unfold admit_candidate
  by_cases hleader : handle.is_leader raft node = true
  · rw [hleader]
    cases hplan : plan_admission handle.configured_names (committed_voters raft node) candidate_name
        candidate_pubkey with
    | error error => rfl
    | ok plan =>
      have hmember : plan.already_member = true := by
        by_contra hnot
        exact hproposes ⟨hleader, plan, hplan, by simpa using hnot⟩
      simp [hmember]
  · simp [hleader]

end RaftHandle

end enclavia.synchronizer.raft
