import Enclavia.Synchronizer.Raft.Membership
import Enclavia.Synchronizer.Raft.Store

namespace enclavia.synchronizer.raft

/-! The part of openraft that the repository's code sees: its types, and the calls into it. -/

structure LeaderId where
  term : UInt64
  node_id : RaftNodeId
deriving DecidableEq

structure Vote where
  leader_id : LeaderId
  committed : Bool
deriving DecidableEq

def Vote.compare : Vote → Vote → Ordering :=
  compareLex (compareOn fun vote => vote.leader_id.term)
    (compareLex (compareOn fun vote => vote.leader_id.node_id) (compareOn Vote.committed))

instance : LT Vote := ⟨fun vote other => vote.compare other = .lt⟩

instance (vote other : Vote) : Decidable (vote < other) :=
  inferInstanceAs (Decidable (vote.compare other = .lt))

instance : Inhabited Vote := ⟨⟨⟨0, 0⟩, false⟩⟩

structure LogId where
  leader_id : LeaderId
  index : UInt64
deriving DecidableEq

/-- One set of voters, or two in joint consensus, and the records of all members. -/
structure Membership where
  configs : List (Std.ExtTreeSet RaftNodeId)
  nodes : Voters

namespace Membership

def empty : Membership := ⟨[], ∅⟩

def is_voter (membership : Membership) (id : RaftNodeId) : Bool :=
  membership.configs.any (·.contains id)

def has_voters (membership : Membership) : Bool :=
  membership.configs.any (!·.isEmpty)

theorem has_voters_of_is_voter {membership : Membership} {id : RaftNodeId} (h : membership.is_voter id = true) :
    membership.has_voters = true := by
  obtain ⟨config, hconfig, hid⟩ := List.any_eq_true.mp h
  refine List.any_eq_true.mpr ⟨config, hconfig, ?_⟩
  rw [Bool.not_eq_true', Std.ExtTreeSet.isEmpty_eq_false_iff]
  rintro rfl
  simp at hid

end Membership

inductive EntryPayload where
  | Blank
  | Normal (op : ReplicatedOp)
  | Membership (membership : raft.Membership)

structure Entry where
  log_id : LogId
  payload : EntryPayload

structure StoredMembership where
  log_id : Option LogId
  membership : Membership

def StoredMembership.empty : StoredMembership := ⟨none, .empty⟩

structure SnapshotMeta where
  last_log_id : Option LogId
  last_membership : StoredMembership
  snapshot_id : String

structure AppendEntriesRequest where
  vote : Vote
  prev_log_id : Option LogId
  entries : List Entry
  leader_commit : Option LogId

inductive AppendEntriesResponse where
  | Success
  | PartialSuccess (matching : Option LogId)
  | Conflict
  | HigherVote (vote : Vote)

structure VoteRequest where
  vote : Vote
  last_log_id : Option LogId

structure VoteResponse where
  vote : Vote
  vote_granted : Bool
  last_log_id : Option LogId

structure InstallSnapshotRequest where
  vote : Vote
  snapshot_meta : SnapshotMeta
  offset : UInt64
  data : List UInt8
  done : Bool

structure InstallSnapshotResponse where
  vote : Vote

inductive InitializeError where
  | NotAllowed
  | Other (message : String)

inductive AddLearnerError where
  | Elapsed
  | Failed (message : String)

/-- What a node stores: its vote, its log, the applied key state and the current snapshot. -/
structure Stored where
  vote : Option Vote
  log : List Entry
  applied : StateMachine
  snapshot : Option (SnapshotMeta × List UInt8)

/-- A `Raft` instance. -/
structure Openraft (Node : Type) where
  stored : Node → Stored
  membership_config : Node → Membership
  current_leader : Node → Option RaftNodeId
  append_entries : Node → AppendEntriesRequest → Except String AppendEntriesResponse × Node
  vote : Node → VoteRequest → Except String VoteResponse × Node
  install_snapshot : Node → InstallSnapshotRequest → Except String InstallSnapshotResponse × Node
  initialize_members : Node → Voters → Except InitializeError Unit × Node
  add_learner : Node → RaftNodeId → MemberRecord → Except AddLearnerError Unit × Node
  change_membership : Node → Std.ExtTreeSet RaftNodeId → Except String Unit × Node

def Openraft.held {Node : Type} (raft : Openraft Node) (node : Node) : Vote :=
  (raft.stored node).vote.getD default

/-- Founding a cluster is refused exactly on a node with a log or a vote, and a refusal leaves the
node as it was. -/
structure Openraft.FoundsOnEmpty {Node : Type} (raft : Openraft Node) : Prop where
  refused_iff : ∀ node members, (raft.initialize_members node members).1 = .error .NotAllowed ↔
    (raft.stored node).log ≠ [] ∨ (raft.stored node).vote ≠ none
  failed : ∀ node members error, (raft.initialize_members node members).1 = .error error →
    (raft.initialize_members node members).2 = node

end enclavia.synchronizer.raft
