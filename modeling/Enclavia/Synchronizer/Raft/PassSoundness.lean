import Enclavia.Synchronizer.Raft.Bootstrap
import Enclavia.Synchronizer.Raft.NonMember

open interaction enclavia.synchronizer.mesh

namespace enclavia.synchronizer.raft

section Handler

variable {Node : Type} {service : Service Node} {handle : RaftHandle} {peer : PeerContext}
  {server : RaftServer Node} {body : MeshPayload}

theorem handle_body_uninitialized
    (hempty : RaftHandle.cluster_is_initialized service.openraft server.node = false)
    (hraft : ∀ rpc, body ≠ .request (.Raft rpc)) :
    (server.handle_body service handle peer body).2.node = server.node := by
  have hvoter : NotVoter service peer server := by
    unfold NotVoter
    by_contra hnot
    have hvoters := Membership.has_voters_of_is_voter (Bool.of_not_eq_false hnot)
    exact absurd (hvoters.symm.trans hempty) (by decide)
  cases body with
  | request message =>
    cases message with
    | Raft rpc => exact absurd rfl (hraft rpc)
    | ForwardClient fwd => exact serve_forwarded_node hvoter
    | Join req =>
      simp only [RaftServer.handle_body, MeshPayload.decode_message, RaftServer.handle_message,
        RaftServer.serve_join, hempty]
      cases server.serve <;> rfl
  | raft_reply reply | forward_reply reply | join_reply reply | undecodable error => rfl

theorem no_cluster_uninitialized (h : (server.handle_body service handle peer body).1 = .join_reply .NoCluster) :
    RaftHandle.cluster_is_initialized service.openraft server.node = false := by
  by_contra hnot
  have hinit := Bool.of_not_eq_false hnot
  cases body with
  | request message =>
    cases message with
    | Raft rpc | ForwardClient fwd => cases h
    | Join req =>
      simp only [RaftServer.handle_body, MeshPayload.decode_message, RaftServer.handle_message,
        RaftServer.serve_join, hinit] at h
      split at h
      · cases h
      · simp only [MeshPayload.join_reply.injEq, Bool.not_true, Bool.false_eq_true, if_false] at h
        split at h <;> cases h
  | raft_reply reply | forward_reply reply | join_reply reply | undecodable error => cases h

end Handler

section Pass

variable {Instance Node : Type} {handle : RaftHandle} {mesh mesh' : System Instance (RaftServer Node) MeshPayload}
  {founders founders' : List Instance} {pass : Pass} {members : Voters}
  {next : Except RaftHandleError Unit → JoinProc Bool}

/-- A pass under the smallest name that has not come to found a cluster, but has heard from a peer
that there is none or is about to, is in time: there is none yet. -/
structure Pass.Sound (handle : RaftHandle) (mesh : System Instance (RaftServer Node) MeshPayload)
    (founders : List Instance) (pass : Pass) : Prop where
  ran : (discover_and_join_pass handle).Run pass.history pass.program
  heard : handle.is_smallest_name = true → Unfounded pass.history →
    ∀ event ∈ pass.history, reports_no_cluster event = true → founders = []
  awaited : handle.is_smallest_name = true → ∀ token, pass.waiting = some token →
    ∃ call, mesh.calls[token]? = some call ∧ ∀ r ∈ mesh.served, r.channel = call.channel → r.id = call.id →
      r.reply = .join_reply .NoCluster → founders = []

namespace Pass.Sound

theorem start : (Pass.start handle).Sound handle mesh founders where
  ran := .nil _
  heard _ _ _ h := by cases h
  awaited _ _ h := by cases h

theorem of_not_smallest (hran : (discover_and_join_pass handle).Run pass.history pass.program)
    (hname : handle.is_smallest_name = false) : pass.Sound handle mesh founders where
  ran := hran
  heard h := by rw [hname] at h; cases h
  awaited h := by rw [hname] at h; cases h

theorem frame (h : pass.Sound handle mesh founders) (hcalls : mesh.calls <+: mesh'.calls)
    (hserved : mesh'.served = mesh.served) : pass.Sound handle mesh' founders where
  ran := h.ran
  heard := h.heard
  awaited hname token htoken := by
    obtain ⟨call, hcall, hrest⟩ := h.awaited hname token htoken
    exact ⟨call, System.getElem?_of_grown hcalls hcall, hserved ▸ hrest⟩

theorem add_served (h : pass.Sound handle mesh founders) {r : Served Instance MeshPayload}
    (hcalls : mesh'.calls = mesh.calls) (hserved : mesh'.served = mesh.served ++ [r])
    (hr : handle.is_smallest_name = true → ∀ token call, pass.waiting = some token →
      mesh.calls[token]? = some call → r.channel = call.channel → r.id = call.id →
      r.reply = .join_reply .NoCluster → founders = []) : pass.Sound handle mesh' founders where
  ran := h.ran
  heard := h.heard
  awaited hname token htoken := by
    obtain ⟨call, hcall, hrest⟩ := h.awaited hname token htoken
    refine ⟨call, hcalls ▸ hcall, ?_⟩
    intro r' hr'
    rw [hserved] at hr'
    rcases List.mem_append.mp hr' with hold | hnew
    · exact hrest r' hold
    · rw [List.mem_singleton.mp hnew]
      exact hr hname token call htoken hcall

theorem answered (h : pass.Sound handle mesh founders) {effect : JoinEffect}
    {next : JoinAnswer effect → JoinProc Bool} {answer : JoinAnswer effect}
    (hprogram : pass.program = .act effect next)
    (hanswer : handle.is_smallest_name = true → reports_no_cluster ⟨effect, answer⟩ = true → founders = []) :
    Pass.Sound handle mesh founders ⟨next answer, none, pass.history ++ [⟨effect, answer⟩]⟩ where
  ran := by
    have hran := h.ran
    rw [hprogram] at hran
    exact hran.snoc answer
  heard hname hunfounded event hevent hreports := by
    rcases List.mem_append.mp hevent with hold | hnew
    · exact h.heard hname (fun event hmem => hunfounded event (List.mem_append_left _ hmem)) event hold hreports
    · rw [List.mem_singleton.mp hnew] at hreports
      exact hanswer hname hreports
  awaited _ _ hwaiting := by cases hwaiting

theorem founded (h : pass.Sound handle mesh founders)
    (hprogram : pass.program = .act (.initialize_cluster members) next) (answer : Except RaftHandleError Unit) :
    Pass.Sound handle mesh' founders'
      ⟨next answer, none, pass.history ++ [⟨.initialize_cluster members, answer⟩]⟩ where
  ran := by
    have hran := h.ran
    rw [hprogram] at hran
    exact hran.snoc answer
  heard _ hunfounded _ _ _ :=
    absurd rfl (hunfounded _ (List.mem_append_right _ (List.mem_singleton_self _)) members)
  awaited _ _ hwaiting := by cases hwaiting

theorem confirmed (h : pass.Sound handle mesh founders)
    (hprogram : pass.program = .act (.initialize_cluster members) next) :
    Confirmed handle pass.history members := by
  have hran := h.ran
  rw [hprogram] at hran
  exact discover_and_join_pass_asks.of_run (hran.snoc (.ok ()))

theorem call_payload (h : pass.Sound handle mesh founders) {peer : String} {payload : MeshPayload}
    {next : Option MeshPayload → JoinProc Bool} (hprogram : pass.program = .act (.call peer payload) next) :
    payload = join_payload handle.self_record.name := by
  have hran := h.ran
  rw [hprogram] at hran
  exact discover_and_join_pass_asks.of_run (hran.snoc none)

theorem founders_nil (h : pass.Sound handle mesh founders)
    (hprogram : pass.program = .act (.initialize_cluster members) next) : founders = [] := by
  have hconfirmed := h.confirmed hprogram
  have hpeers : 0 < (peer_names handle).length := by
    have henough := hconfirmed.enough
    have hcomplete := hconfirmed.complete
    simp only [MIN_INITIAL_CLUSTER_MEMBERS, MIN_CLUSTER_NODES] at henough
    omega
  obtain ⟨peer, hpeer⟩ := List.exists_mem_of_length_pos hpeers
  exact h.heard hconfirmed.smallest hconfirmed.first _ (hconfirmed.no_cluster peer hpeer) rfl

end Pass.Sound

end Pass

end enclavia.synchronizer.raft
