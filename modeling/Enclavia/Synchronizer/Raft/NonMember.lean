import Enclavia.Synchronizer.Raft.Attribution

open enclavia.synchronizer.mesh

namespace enclavia.synchronizer.raft

section Handling

variable {Node : Type} (service : Service Node) (handle : RaftHandle) (peer : PeerContext)

/-- One admission of the candidate, proposed by this node as the leader of its cluster. -/
def Admission (raft : Openraft Node) (candidate_pubkey : ControlPubkey) (node node' : Node) : Prop :=
  ∃ slot, handle.Proposes raft node slot candidate_pubkey ∧
    node' = (handle.admit_candidate raft node slot candidate_pubkey).2

def receive (server : RaftServer Node) (body : MeshPayload) : Option (RaftServer Node) :=
  some (server.handle_body service handle peer body).2

def NotVoter (server : RaftServer Node) : Prop :=
  RaftHandle.is_committed_voter service.openraft server.node (instance_node_id peer.mesh_pubkey) = false

/-- A Raft RPC, if the message is one, is under a smaller vote than the one the node holds. -/
def SmallerVote (server : RaftServer Node) (body : MeshPayload) : Prop :=
  ∀ rpc, body = .request (.Raft rpc) → rpc.vote < service.openraft.held server.node

variable {service handle peer} {server : RaftServer Node}

theorem dispatch_raft_node (hvotes : service.openraft.IgnoresSmallerVotes) {rpc : MeshRaftRpc}
    (hsmaller : rpc.vote < service.openraft.held server.node) :
    (server.dispatch_raft service rpc).2.node = server.node := by
  unfold RaftServer.dispatch_raft
  split
  · rfl
  · exact hvotes server.node rpc hsmaller

theorem serve_forwarded_node {fwd : ForwardedClientRequest}
    (hvoter : NotVoter service peer server) :
    (server.serve_forwarded service handle peer fwd).2.node = server.node := by
  unfold RaftServer.serve_forwarded
  cases server.serve with
  | none => rfl
  | some debug_mode =>
    rw [NotVoter] at hvoter
    simp only [hvoter, Bool.not_false, if_true]

theorem serve_join_node {req : JoinRequest} :
    (server.serve_join service handle peer req).2.node = server.node ∨
      Admission handle service.openraft peer.mesh_pubkey server.node
        (server.serve_join service handle peer req).2.node := by
  unfold RaftServer.serve_join
  cases server.serve with
  | none => exact .inl rfl
  | some debug_mode =>
    cases RaftHandle.cluster_is_initialized service.openraft server.node with
    | false => exact .inl rfl
    | true =>
      by_cases hproposes : handle.Proposes service.openraft server.node req.slot_name peer.mesh_pubkey
      · exact .inr ⟨req.slot_name, hproposes, rfl⟩
      · exact .inl (RaftHandle.admit_candidate_unchanged hproposes)

theorem handle_body_node (hvotes : service.openraft.IgnoresSmallerVotes) {body : MeshPayload}
    (hvoter : NotVoter service peer server) (hsmaller : SmallerVote service server body) :
    (server.handle_body service handle peer body).2.node = server.node ∨
      Admission handle service.openraft peer.mesh_pubkey server.node
        (server.handle_body service handle peer body).2.node := by
  cases body with
  | request message =>
    cases message with
    | Raft rpc => exact .inl (dispatch_raft_node hvotes (hsmaller rpc rfl))
    | ForwardClient fwd => exact .inl (serve_forwarded_node hvoter)
    | Join req => exact serve_join_node
  | raft_reply reply | forward_reply reply | join_reply reply | undecodable error => exact .inl rfl

/-- While the peer is no voter and sends no RPC under a vote that the node would act on, everything the node stores
stays as it was, up to an admission of the peer that the node itself proposes as the leader. -/
theorem non_member_changes_only_by_admission (hvotes : service.openraft.IgnoresSmallerVotes)
    {server' : RaftServer Node} {bodies : List MeshPayload}
    (hexec : machine.exec (receive service handle peer) server bodies = some server')
    (hvoter : NotVoter service peer server)
    (hsmaller : machine.Meets (receive service handle peer) (SmallerVote service) server bodies) :
    service.openraft.stored server'.node = service.openraft.stored server.node ∨
      ∃ before body after mid, bodies = before ++ body :: after ∧
        machine.exec (receive service handle peer) server before = some mid ∧ mid.node = server.node ∧
        Admission handle service.openraft peer.mesh_pubkey mid.node
          (mid.handle_body service handle peer body).2.node := by
  induction bodies generalizing server with
  | nil =>
    cases hexec
    exact .inl rfl
  | cons body bodies ih =>
    obtain ⟨next, hnext, hrest⟩ := machine.exec_cons.mp hexec
    have hstep : (server.handle_body service handle peer body).2.node = server.node ∨
        Admission handle service.openraft peer.mesh_pubkey server.node
          (server.handle_body service handle peer body).2.node :=
      handle_body_node hvotes hvoter hsmaller.1
    rcases hstep with hkept | hadmitted
    · -- The node is the same, so the peer is still no voter.
      have hsame : next.node = server.node := by
        cases hnext
        exact hkept
      have hstill : NotVoter service peer next := by
        rw [NotVoter, hsame]
        exact hvoter
      rcases ih hrest hstill (hsmaller.2 next hnext) with hstored | hlater
      · exact .inl (by rw [hstored, hsame])
      · obtain ⟨before, later, after, mid, rfl, hbefore, hmid, hadmitted⟩ := hlater
        exact .inr ⟨body :: before, later, after, mid, rfl, machine.exec_cons.mpr ⟨next, hnext, hbefore⟩,
          hmid.trans hsame, hadmitted⟩
    · exact .inr ⟨[], body, bodies, server, rfl, rfl, rfl, hadmitted⟩

end Handling

namespace sample

def clone : PeerContext := { name := "az-a", mesh_pubkey := Boot.other_a.pubkey, pcr_digest := digest }

def follower : RaftServer ReferenceNode :=
  { server .b with node := (server .b).node.set_vote ⟨⟨1, Boot.a.id⟩, true⟩ }

def stale : MeshPayload := .request (.Raft (.Vote { vote := ⟨⟨0, Boot.other_a.id⟩, false⟩, last_log_id := none }))

theorem clone_not_voter : NotVoter service clone follower := by
  unfold NotVoter
  decide +kernel

/-- A clone of a member sends a stale vote and then asks to join. -/
theorem non_member_changes_only_by_admission_stale :
    ∃ server', machine.exec (receive service (raft_handle fleet .b) clone) follower
        [stale, .request (.Join ⟨"az-a"⟩)] = some server' ∧
      (service.openraft.stored server'.node = service.openraft.stored follower.node ∨
        ∃ before body after mid, [stale, .request (.Join ⟨"az-a"⟩)] = before ++ body :: after ∧
          machine.exec (receive service (raft_handle fleet .b) clone) follower before = some mid ∧
          mid.node = follower.node ∧
          Admission (raft_handle fleet .b) service.openraft clone.mesh_pubkey mid.node
            (mid.handle_body service (raft_handle fleet .b) clone body).2.node) := by
  obtain ⟨server', hexec⟩ : ∃ server', machine.exec (receive service (raft_handle fleet .b) clone) follower
      [stale, .request (.Join ⟨"az-a"⟩)] = some server' := ⟨_, rfl⟩
  have hvotes : service.openraft.IgnoresSmallerVotes := reference_ignores_smaller_votes
  have hsmaller : machine.Meets (receive service (raft_handle fleet .b) clone) (SmallerVote service) follower
      [stale, .request (.Join ⟨"az-a"⟩)] := by
    refine ⟨?_, fun _ _ => ⟨nofun, fun _ _ => trivial⟩⟩
    intro rpc hrpc
    cases hrpc
    decide +kernel
  exact ⟨server', hexec, non_member_changes_only_by_admission hvotes hexec clone_not_voter hsmaller⟩

/-- A ballot of the next term moves the vote that the member has stored, although the member does not
lead, and the key of the channel is neither a voter nor a learner. -/
theorem vote_moved_by_non_member :
    RaftHandle.cluster_is_initialized reference follower.node = true ∧
      (reference.membership_config follower.node).nodes[Boot.other_a.id]? = none ∧
      NotVoter service clone follower ∧
      (∀ node', ¬Admission (raft_handle fleet .b) reference clone.mesh_pubkey follower.node node') ∧
      (reference.stored follower.node).vote = some ⟨⟨1, Boot.a.id⟩, true⟩ ∧
      ∃ server', receive service (raft_handle fleet .b) clone follower (.request (.Raft (.Vote ballot))) =
          some server' ∧
        (reference.stored server'.node).vote = some ⟨⟨2, Boot.a.id⟩, false⟩ := by
  refine ⟨?_, ?_, clone_not_voter, ?_, rfl, _, rfl, ?_⟩
  · decide +kernel
  · decide +kernel
  · rintro node' ⟨slot, ⟨hleader, -⟩, -⟩
    exact absurd hleader (by decide +kernel)
  · decide +kernel

end sample

end enclavia.synchronizer.raft
