import Enclavia.Synchronizer.Mesh.Correlation
import Enclavia.Synchronizer.Raft.Reference

open enclavia.synchronizer.mesh

namespace enclavia.synchronizer.raft

variable {payload : MeshPayload}

section Attribution

variable {Instance Node : Type} {F : Fleet Instance} {service : Service Node}
  {s s₁ s' : System Instance (RaftServer Node) MeshPayload} {i : Instance} {net : MeshRaftNetwork}
  {rpc : MeshRaftRpc} {token : Nat}

theorem call_on_slot {peer : String} (hcall : s.call F i peer payload = (.ok token, s₁)) :
    ∃ c id, (s.node i).slots peer = some c ∧ s₁.links = s.links ∧
      s₁.calls[token]? = some { caller := i, channel := c, id, body := payload } := by
  have hcalled := System.call_called (F := F) s i peer payload
  rw [hcall] at hcalled
  cases hcalled with
  | @issued c hslot hdriven => exact ⟨c, _, hslot, rfl, List.getElem?_concat_length⟩

theorem MeshRaftNetwork.Returns.raft_reply (h : net.Returns (fun _ _ => .ok payload) rpc) :
    ∃ reply, payload = .raft_reply reply := by
  cases payload with
  | raft_reply reply => exact ⟨reply, rfl⟩
  | request message | forward_reply reply | join_reply reply | undecodable error =>
    cases rpc <;> obtain ⟨response, h⟩ := h <;> cases h

variable [DecidableEq Instance]

/-- A run of the instances of a fleet, each with its own server behind its request handler. -/
def Runs (F : Fleet Instance) (service : Service Node)
    (s : System Instance (RaftServer Node) MeshPayload)
    (actions : List (Action Instance (RaftServer Node) MeshPayload))
    (s' : System Instance (RaftServer Node) MeshPayload) : Prop :=
  machine.exec (System.step F (raft_request_handler F service)) s actions = some s'

/-- Whoever answers an RPC, it is an instance with the target's id exactly if the key that was attested for the channel
in the caller's slot, when the call took it, has that id. -/
theorem reply_counted_for_producer_iff {app : Instance → RaftServer Node}
    {before after : List (Action Instance (RaftServer Node) MeshPayload)} {payload : MeshPayload}
    (hbefore : Runs F service (.start app) before s)
    (hcall : s.call F i net.target_name (MeshRaftNetwork.payload rpc) = (.ok token, s₁))
    (hafter : Runs F service s₁ after s') (hresult : s'.result token = some payload)
    (hreturns : net.Returns (fun _ _ => .ok payload) rpc) :
    ∃ c link r reply, (s.node i).slots net.target_name = some c ∧ s.links[c]? = some link ∧
      r ∈ s'.served ∧ r.channel = c ∧ r.request = MeshRaftNetwork.payload rpc ∧ r.reply = payload ∧
      payload = .raft_reply reply ∧
      (instance_node_id (F.pubkey r.producer) = net.target ↔ instance_node_id link.mesh_pubkey = net.target) := by
  have hlinked := (System.Linked.start (F := F) app).exec hbefore
  have hcorrelated := (System.Correlated.start app).exec hbefore
  have hissued : s₁.Correlated := by
    have h := hcorrelated.call (F := F) i net.target_name (MeshRaftNetwork.payload rpc)
    rw [hcall] at h
    exact h
  obtain ⟨c, id, hslot, hlinks, htoken⟩ := call_on_slot hcall
  obtain ⟨link, hlink, -, -⟩ := hlinked.slot i net.target_name c hslot
  obtain ⟨hlinksGrown, hcallsGrown⟩ := System.exec_grows hafter
  have hcallAfter := System.getElem?_of_grown hcallsGrown htoken
  obtain ⟨r, hr, hchannel, -, hrequest, hreply, link', hlink', hproducer⟩ :=
    (hissued.exec hafter).result_produced hcallAfter hresult
  have hsame : link' = link := by
    have hkept := System.getElem?_of_grown hlinksGrown (hlinks ▸ hlink)
    rw [hkept] at hlink'
    exact (Option.some.inj hlink').symm
  obtain ⟨reply, hraft⟩ := hreturns.raft_reply
  refine ⟨c, link, r, reply, hslot, hlink, hr, hchannel, hrequest, hreply, hraft, ?_⟩
  rw [hproducer, hsame, hlinked.attested link (List.mem_of_getElem? hlink)]

end Attribution

namespace sample

inductive Boot where
  | a
  | b
  | c
  | other_a
  | other_b
deriving DecidableEq

namespace Boot

def name : Boot → String
  | a => "az-a"
  | b => "az-b"
  | c => "az-c"
  | other_a => "az-a"
  | other_b => "az-b"

def seed : Boot → UInt8
  | a => 1
  | b => 2
  | c => 3
  | other_a => 4
  | other_b => 5

def pubkey (boot : Boot) : ControlPubkey := Vector.replicate CONTROL_PUBKEY_LEN boot.seed

def id (boot : Boot) : RaftNodeId := instance_node_id boot.pubkey

def record (boot : Boot) : MemberRecord := { name := boot.name, pubkey := boot.pubkey }

end Boot

def digest : PcrKey := ⟨Vector.replicate 32 0⟩

def fleet : Fleet Boot where
  config boot := .new boot.name ["az-a", "az-b", "az-c"] digest
  pubkey := Boot.pubkey
  pcr_digest := digest

def service : Service ReferenceNode where
  openraft := reference
  handle_on_leader _ node _ _ := (RaftServer.unavailable, node)

def members : Voters := .ofList [(Boot.a.id, Boot.a.record), (Boot.b.id, Boot.b.record), (Boot.c.id, Boot.c.record)]

def server : Boot → RaftServer ReferenceNode
  | .other_a => { raft_installed := true, serve := some false, node := .new Boot.other_a.id }
  | .other_b => { raft_installed := true, serve := some false, node := .new Boot.other_b.id }
  | boot =>
    let membership : Membership := { configs := [.ofList members.keys], nodes := members }
    { raft_installed := true, serve := some false, node := { ReferenceNode.new boot.id with membership } }

def connect (c : Nat) (i : Boot) (peer : String) (j : Boot) :
    List (Action Boot (RaftServer ReferenceNode) MeshPayload) :=
  [.dial i peer j, .greet c, .observe c, .confirm c, .publish c]

def ballot : VoteRequest := { vote := ⟨⟨2, Boot.a.id⟩, false⟩, last_log_id := none }

def member_b : MeshRaftNetwork := .new_client Boot.b.id Boot.b.record

def granted : MeshRaftReply := .Vote { vote := ballot.vote, vote_granted := true, last_log_id := none }

/-- A vote that is asked for and granted on one connection. -/
theorem reply_counted_for_producer_connected :
    (∃ s s₁ s', Runs fleet service (.start server) (connect 0 .a "az-b" .b) s ∧
      s.call fleet .a member_b.target_name (MeshRaftNetwork.payload (.Vote ballot)) = (.ok 0, s₁) ∧
      Runs fleet service s₁ [.serve 0, .deliver 0] s' ∧ s'.result 0 = some (.raft_reply granted) ∧
      ∃ c link r reply, (s.node .a).slots member_b.target_name = some c ∧ s.links[c]? = some link ∧
        r ∈ s'.served ∧ r.channel = c ∧ r.request = MeshRaftNetwork.payload (.Vote ballot) ∧
        r.reply = .raft_reply granted ∧ MeshPayload.raft_reply granted = .raft_reply reply ∧
        (instance_node_id (fleet.pubkey r.producer) = member_b.target ↔
          instance_node_id link.mesh_pubkey = member_b.target)) := by
  obtain ⟨s, s₁, s', hbefore, hcall, hafter, hresult⟩ :
      ∃ s s₁ s', Runs fleet service (.start server) (connect 0 .a "az-b" .b) s ∧
        s.call fleet .a member_b.target_name (MeshRaftNetwork.payload (.Vote ballot)) = (.ok 0, s₁) ∧
        Runs fleet service s₁ [.serve 0, .deliver 0] s' ∧ s'.result 0 = some (.raft_reply granted) :=
    ⟨_, _, _, rfl, rfl, rfl, rfl⟩
  exact ⟨s, s₁, s', hbefore, hcall, hafter, hresult,
    reply_counted_for_producer_iff hbefore hcall hafter hresult ⟨_, rfl⟩⟩

/-- The host routes the dial for `az-b` to an instance that was never admitted but announces that name. -/
theorem vote_of_member_from_clone :
    ∃ s s₁ s' r, Runs fleet service (.start server) (connect 0 .a "az-b" .other_b) s ∧
      (service.openraft.membership_config (s.node .a).app.node).nodes[member_b.target]? = some Boot.b.record ∧
      s.call fleet .a member_b.target_name (MeshRaftNetwork.payload (.Vote ballot)) = (.ok 0, s₁) ∧
      Runs fleet service s₁ [.serve 0, .deliver 0] s' ∧ s'.result 0 = some (.raft_reply granted) ∧
      member_b.vote (fun _ _ => .ok (.raft_reply granted)) ballot =
        .ok { vote := ballot.vote, vote_granted := true, last_log_id := none } ∧
      r ∈ s'.served ∧ r.reply = .raft_reply granted ∧ r.producer = .other_b ∧
      instance_node_id (fleet.pubkey r.producer) ≠ member_b.target := by
  refine ⟨_, _, _, _, rfl, ?_, rfl, rfl, rfl, rfl, List.mem_singleton_self _, rfl, rfl, ?_⟩
  · decide +kernel
  · decide +kernel

end sample

end enclavia.synchronizer.raft
