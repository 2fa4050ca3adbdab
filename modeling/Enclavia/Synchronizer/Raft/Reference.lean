import Enclavia.Synchronizer.Raft.Network

namespace enclavia.synchronizer.raft

/-! A small openraft: the rules by which a node answers votes, takes over entries and snapshots, is
founded and changes its members. Elections and replication are the caller's. -/

structure ReferenceNode where
  self_id : RaftNodeId
  stored : Stored
  membership : Membership
  leader : Option RaftNodeId

namespace ReferenceNode

def new (self_id : RaftNodeId) : ReferenceNode where
  self_id := self_id
  stored := { vote := none, log := [], applied := StateMachine.new, snapshot := none }
  membership := .empty
  leader := none

variable (node : ReferenceNode)

def held : Vote := node.stored.vote.getD default

def last_log_id : Option LogId := node.stored.log.getLast?.map Entry.log_id

def set_vote (vote : Vote) : ReferenceNode :=
  { node with stored := { node.stored with vote := some vote } }

def append (entries : List Entry) : ReferenceNode :=
  let membership := entries.foldl (fun membership entry =>
    match entry.payload with
    | .Membership new => new
    | _ => membership) node.membership
  { node with stored := { node.stored with log := node.stored.log ++ entries }, membership }

def propose (membership : Membership) : ReferenceNode :=
  let log_id : LogId := { leader_id := node.held.leader_id, index := node.stored.log.length.toUInt64 }
  node.append [{ log_id, payload := .Membership membership }]

def used : Bool := !node.stored.log.isEmpty || node.stored.vote.isSome

theorem used_iff : node.used = true ↔ node.stored.log ≠ [] ∨ node.stored.vote ≠ none := by
  simp [used, Option.isSome_iff_ne_none]

def behind : Option LogId → Option LogId → Bool
  | _, none => false
  | none, some _ => true
  | some last, some other =>
    last.leader_id.term < other.leader_id.term ||
      last.leader_id.term == other.leader_id.term && last.index < other.index

end ReferenceNode

/-- Votes of a smaller term are refused everywhere; any other is taken over, by a vote request only
if the candidate's log is not behind. -/
def reference : Openraft ReferenceNode where
  stored := ReferenceNode.stored
  membership_config := ReferenceNode.membership
  current_leader := ReferenceNode.leader
  append_entries node request :=
    if request.vote < node.held then (.ok (.HigherVote node.held), node)
    else
      let node := node.set_vote request.vote
      if request.prev_log_id ≠ node.last_log_id then (.ok .Conflict, node)
      else (.ok .Success, { node.append request.entries with leader := some request.vote.leader_id.node_id })
  vote node request :=
    if request.vote < node.held ∨ ReferenceNode.behind request.last_log_id node.last_log_id then
      (.ok { vote := node.held, vote_granted := false, last_log_id := node.last_log_id }, node)
    else
      (.ok { vote := request.vote, vote_granted := true, last_log_id := node.last_log_id },
        { node.set_vote request.vote with leader := none })
  install_snapshot node request :=
    if request.vote < node.held then (.ok { vote := node.held }, node)
    else
      let node := node.set_vote request.vote
      let stored := { node.stored with snapshot := some (request.snapshot_meta, request.data) }
      (.ok { vote := request.vote }, { node with
        stored, membership := request.snapshot_meta.last_membership.membership
        leader := some request.vote.leader_id.node_id })
  initialize_members node members :=
    if node.used then (.error .NotAllowed, node)
    else
      let founded := node.propose { configs := [.ofList members.keys], nodes := members }
      (.ok (), founded.set_vote ⟨⟨1, node.self_id⟩, false⟩)
  add_learner node id record :=
    if node.leader ≠ some node.self_id then (.error (.Failed "has to forward request"), node)
    else (.ok (), node.propose { node.membership with nodes := node.membership.nodes.insert id record })
  change_membership node voters :=
    if node.leader ≠ some node.self_id then (.error "has to forward request", node)
    else
      let nodes := node.membership.nodes.filter fun id _ => voters.contains id
      (.ok (), node.propose { configs := [voters], nodes })

theorem reference_ignores_smaller_votes : reference.IgnoresSmallerVotes := by
  intro node rpc hsmaller
  have hheld : reference.held node = node.held := rfl
  rw [hheld] at hsmaller
  cases rpc with
  | AppendEntries request | InstallSnapshot request =>
    have hvote : request.vote < node.held := hsmaller
    simp only [RaftServer.answer_rpc, reference, if_pos hvote]
  | Vote request =>
    have hvote : request.vote < node.held := hsmaller
    simp only [RaftServer.answer_rpc, reference, hvote, true_or, if_true]

theorem reference_founds_on_empty : reference.FoundsOnEmpty where
  refused_iff node members := by
    have hused : node.used = true ↔ (reference.stored node).log ≠ [] ∨ (reference.stored node).vote ≠ none :=
      node.used_iff
    rw [← hused]
    cases hcase : node.used <;> simp [reference, hcase]
  failed node members error h := by
    cases hcase : node.used with
    | true => simp [reference, hcase]
    | false => simp [reference, hcase] at h

end enclavia.synchronizer.raft
