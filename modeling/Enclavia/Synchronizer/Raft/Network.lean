import Enclavia.Synchronizer.Mesh.System
import Enclavia.Synchronizer.Raft.Handle

open enclavia.synchronizer.mesh

namespace enclavia.synchronizer.wire

inductive ChainLinkKind where
  | Boot
  | Upgrade
  | Revocation
deriving DecidableEq

structure ChainLink where
  kind : ChainLinkKind
  payload : List UInt8
  attestation : List UInt8
  signature : Option (List UInt8)

inductive Request where
  | Get (key : PcrKey)
  | Register (key : PcrKey) (commitment : Commitment)
  | Pin (key : PcrKey) (expected_version : Version) (commitment : Commitment)
  | Transition (link : ChainLink) (commitment : Commitment)
  | Revoke (link : ChainLink)

inductive RpcError where
  | Unauthorized
  | NotFound
  | AlreadyRegistered
  | TransitionRejected
  | OperationRejected
  | VersionConflict
  | Unavailable
  | TransitionRevoked
  | RevocationRejected
  | TransitionCommitmentMismatch
deriving DecidableEq

inductive Response where
  | GetOk (commitment : Commitment) (version : Version)
  | RegisterOk
  | PinOk (version : Version)
  | TransitionOk (version : Version)
  | RevokeOk
  | Err (error : RpcError)
deriving DecidableEq

end enclavia.synchronizer.wire

namespace enclavia.synchronizer.raft

/-- A customer request that a follower passes on, with the session facts it vouches for. -/
structure ForwardedClientRequest where
  session_key : PcrKey
  control_pubkey : ControlPubkey
  request : wire.Request

structure ForwardedClientResponse where
  response : wire.Response
  timed_out : Bool

/-- A join names the slot only; the candidate is whoever is at the other end of the channel. -/
structure JoinRequest where
  slot_name : String

inductive JoinReply where
  | Admitted
  | Refused (error : String)
  | NotLeader (hint : Option String)
  | Unavailable (message : String)
  | NoCluster

inductive MeshRaftRpc where
  | AppendEntries (request : AppendEntriesRequest)
  | Vote (request : VoteRequest)
  | InstallSnapshot (request : InstallSnapshotRequest)

def MeshRaftRpc.vote : MeshRaftRpc → raft.Vote
  | .AppendEntries request => request.vote
  | .Vote request => request.vote
  | .InstallSnapshot request => request.vote

inductive MeshRaftReply where
  | AppendEntries (response : AppendEntriesResponse)
  | Vote (response : VoteResponse)
  | InstallSnapshot (response : InstallSnapshotResponse)
  | Error (message : String)

inductive MeshMessage where
  | Raft (rpc : MeshRaftRpc)
  | ForwardClient (request : ForwardedClientRequest)
  | Join (request : JoinRequest)

/-- The body of a mesh request or response, by what its CBOR says. -/
inductive MeshPayload where
  | request (message : MeshMessage)
  | raft_reply (reply : MeshRaftReply)
  | forward_reply (reply : ForwardedClientResponse)
  | join_reply (reply : JoinReply)
  | undecodable (error : String)

namespace MeshPayload

def decode_error : MeshPayload → String
  | .undecodable error => error
  | _ => "unknown variant"

def decode_message : MeshPayload → Except String MeshMessage
  | .request message => .ok message
  | payload => .error payload.decode_error

def decode_raft_reply : MeshPayload → Except String MeshRaftReply
  | .raft_reply reply => .ok reply
  | payload => .error payload.decode_error

def decode_join_reply : MeshPayload → Option JoinReply
  | .join_reply reply => some reply
  | _ => none

end MeshPayload

inductive RPCError where
  | Unreachable (message : String)
  | Network (message : String)

def RPCError.of_call : CallError → RPCError
  | .NotConnected peer => .Unreachable (CallError.NotConnected peer).message
  | .Rpc peer source => .Unreachable (CallError.Rpc peer source).message
  | .UnknownPeer peer => .Network (CallError.UnknownPeer peer).message

structure MeshRaftNetwork where
  target : RaftNodeId
  target_name : String

namespace MeshRaftNetwork

def new_client (target : RaftNodeId) (node : MemberRecord) : MeshRaftNetwork :=
  { target, target_name := node.name }

def payload (rpc : MeshRaftRpc) : MeshPayload := .request (.Raft rpc)

variable (net : MeshRaftNetwork) (mesh_call : String → MeshPayload → Except CallError MeshPayload)

def call (rpc : MeshRaftRpc) : Except RPCError MeshRaftReply :=
  match mesh_call net.target_name (payload rpc) with
  | .error error => .error (.of_call error)
  | .ok resp =>
    match resp.decode_raft_reply with
    | .error error => .error (.Network error)
    | .ok (.Error message) => .error (.Network message)
    | .ok reply => .ok reply

def reply_mismatch (rpc : String) (got : MeshRaftReply) : RPCError :=
  let kind := match got with
    | .AppendEntries _ => "AppendEntries"
    | .Vote _ => "Vote"
    | .InstallSnapshot _ => "InstallSnapshot"
    | .Error _ => "Error"
  .Network s!"raft rpc {rpc} got mismatched reply {kind}"

def append_entries (request : AppendEntriesRequest) : Except RPCError AppendEntriesResponse :=
  match net.call mesh_call (.AppendEntries request) with
  | .error error => .error error
  | .ok (.AppendEntries response) => .ok response
  | .ok other => .error (reply_mismatch "append_entries" other)

def vote (request : VoteRequest) : Except RPCError VoteResponse :=
  match net.call mesh_call (.Vote request) with
  | .error error => .error error
  | .ok (.Vote response) => .ok response
  | .ok other => .error (reply_mismatch "vote" other)

def install_snapshot (request : InstallSnapshotRequest) : Except RPCError InstallSnapshotResponse :=
  match net.call mesh_call (.InstallSnapshot request) with
  | .error error => .error error
  | .ok (.InstallSnapshot response) => .ok response
  | .ok other => .error (reply_mismatch "install_snapshot" other)

def Returns : MeshRaftRpc → Prop
  | .AppendEntries request => ∃ response, net.append_entries mesh_call request = .ok response
  | .Vote request => ∃ response, net.vote mesh_call request = .ok response
  | .InstallSnapshot request => ∃ response, net.install_snapshot mesh_call request = .ok response

end MeshRaftNetwork

/-- What a node serves peers with: its openraft, and the replicated client path that a leader runs
forwarded requests on. -/
structure Service (Node : Type) where
  openraft : Openraft Node
  handle_on_leader : RaftHandle → Node → ForwardedClientRequest → Bool → ForwardedClientResponse × Node

/-- The state behind a node's request handler: whether its `Raft` is installed yet, whether the serve
path is (with its debug mode), and the node itself. -/
structure RaftServer (Node : Type) where
  raft_installed : Bool
  serve : Option Bool
  node : Node

namespace RaftServer

variable {Node : Type} (service : Service Node) (handle : RaftHandle) (server : RaftServer Node)

def unavailable : ForwardedClientResponse := { response := .Err .Unavailable, timed_out := false }

def answer_rpc (raft : Openraft Node) (node : Node) : MeshRaftRpc → MeshRaftReply × Node
  | .AppendEntries request =>
    match raft.append_entries node request with
    | (.ok response, node) => (.AppendEntries response, node)
    | (.error error, node) => (.Error s!"append_entries: {error}", node)
  | .Vote request =>
    match raft.vote node request with
    | (.ok response, node) => (.Vote response, node)
    | (.error error, node) => (.Error s!"vote: {error}", node)
  | .InstallSnapshot request =>
    match raft.install_snapshot node request with
    | (.ok response, node) => (.InstallSnapshot response, node)
    | (.error error, node) => (.Error s!"install_snapshot: {error}", node)

def dispatch_raft (rpc : MeshRaftRpc) : MeshRaftReply × RaftServer Node :=
  if !server.raft_installed then (.Error "raft not yet installed (bootstrap window)", server)
  else
    let (reply, node) := answer_rpc service.openraft server.node rpc
    (reply, { server with node })

def serve_forwarded (peer : PeerContext) (fwd : ForwardedClientRequest) :
    ForwardedClientResponse × RaftServer Node :=
  match server.serve with
  | none => (unavailable, server)
  | some debug_mode =>
    if !RaftHandle.is_committed_voter service.openraft server.node (instance_node_id peer.mesh_pubkey) then
      (unavailable, server)
    else
      let (response, node) := service.handle_on_leader handle server.node fwd debug_mode
      (response, { server with node })

def serve_join (peer : PeerContext) (req : JoinRequest) : JoinReply × RaftServer Node :=
  match server.serve with
  | none => (.Unavailable "raft serve path not yet installed", server)
  | some _ =>
    if !RaftHandle.cluster_is_initialized service.openraft server.node then (.NoCluster, server)
    else
      let (result, node) := handle.admit_candidate service.openraft server.node req.slot_name peer.mesh_pubkey
      let reply := match result with
        | .ok _ => JoinReply.Admitted
        | .error (.JoinRefused error) => .Refused error.message
        | .error (.NotLeader hint) => .NotLeader hint
        | .error error => .Unavailable error.message
      (reply, { server with node })

def handle_message (peer : PeerContext) : MeshMessage → MeshPayload × RaftServer Node
  | .Raft rpc =>
    let (reply, server) := server.dispatch_raft service rpc
    (.raft_reply reply, server)
  | .ForwardClient fwd =>
    let (reply, server) := server.serve_forwarded service handle peer fwd
    (.forward_reply reply, server)
  | .Join req =>
    let (reply, server) := server.serve_join service handle peer req
    (.join_reply reply, server)

def handle_body (peer : PeerContext) (body : MeshPayload) : MeshPayload × RaftServer Node :=
  match body.decode_message with
  | .error error => (.raft_reply (.Error s!"decode mesh message: {error}"), server)
  | .ok message => server.handle_message service handle peer message

end RaftServer

def Openraft.IgnoresSmallerVotes {Node : Type} (raft : Openraft Node) : Prop :=
  ∀ node rpc, rpc.vote < raft.held node → (RaftServer.answer_rpc raft node rpc).2 = node

section Fleet

variable {Instance Node : Type} (F : Fleet Instance)

def raft_handle (i : Instance) : RaftHandle :=
  .with_config (F.config i).self_name (F.pubkey i) (F.config i).peers

def raft_request_handler (service : Service Node) (i : Instance) (server : RaftServer Node) (peer : PeerContext)
    (body : MeshPayload) : MeshPayload × RaftServer Node :=
  server.handle_body service (raft_handle F i) peer body

end Fleet

end enclavia.synchronizer.raft
