import Enclavia.Machine.Guarded
import Enclavia.Synchronizer.Mesh.Handshake
import Mathlib.Logic.Function.Basic

namespace enclavia.synchronizer.mesh

structure MeshConfig where
  self_name : String
  peers : List String
  allowlist : PcrAllowlist

def MeshConfig.new (self_name : String) (peers : List String) (self_pcr_digest : PcrKey) : MeshConfig where
  self_name := self_name
  peers := (peers.filter (· != self_name)).eraseDups
  allowlist := .self_only self_pcr_digest

inductive RpcError where
  | ConnectionClosed
  | Encode (message : String)

def RpcError.message : RpcError → String
  | .ConnectionClosed => "rpc connection closed"
  | .Encode message => s!"cbor encode: {message}"

inductive CallError where
  | UnknownPeer (peer : String)
  | NotConnected (peer : String)
  | Rpc (peer : String) (source : RpcError)

def CallError.message : CallError → String
  | .UnknownPeer peer => s!"unknown peer: {peer}"
  | .NotConnected peer => s!"peer {peer} is not currently connected"
  | .Rpc peer source => s!"rpc to peer {peer} failed: {source.message}"

/-- The identity of the peer whose request is served: its name is what it announced, the rest is
what the handshake attested. -/
structure PeerContext where
  name : String
  mesh_pubkey : ControlPubkey
  pcr_digest : PcrKey

/-- The client's side of one connection: the requests of its callers, each under an id of its own,
and the responses that the far end has written. -/
structure ClientChannel (Payload : Type) where
  next_id : Nat
  pending : List (Nat × Nat)
  requests : List (Nat × Payload)
  responses : List (Nat × Payload)

namespace ClientChannel

variable {Payload : Type}

def new : ClientChannel Payload := ⟨0, [], [], []⟩

def enqueue (channel : ClientChannel Payload) (token : Nat) (body : Payload) : ClientChannel Payload :=
  { channel with
    next_id := channel.next_id + 1
    pending := (channel.next_id, token) :: channel.pending
    requests := channel.requests ++ [(channel.next_id, body)] }

def lose_id (channel : ClientChannel Payload) : ClientChannel Payload :=
  { channel with next_id := channel.next_id + 1 }

def call (channel : ClientChannel Payload) (driven : Bool) (token : Nat) (body : Payload) :
    Except RpcError Nat × ClientChannel Payload :=
  if driven then (.ok channel.next_id, channel.enqueue token body)
  else (.error .ConnectionClosed, channel.lose_id)

def answer (channel : ClientChannel Payload) (id : Nat) (reply : Payload) : ClientChannel Payload :=
  { channel with requests := channel.requests.tail, responses := channel.responses ++ [(id, reply)] }

def demux (channel : ClientChannel Payload) (id : Nat) : ClientChannel Payload :=
  { channel with responses := channel.responses.tail, pending := channel.pending.filter (·.1 != id) }

end ClientChannel

structure Fleet (Instance : Type) where
  config : Instance → MeshConfig
  pubkey : Instance → ControlPubkey
  pcr_digest : PcrKey

/-- A connection on which both ends have authenticated each other. -/
structure Link (Instance : Type) where
  dialer : Instance
  peer : String
  far : Instance
  mesh_pubkey : ControlPubkey

inductive DialPhase where
  | Attested
  | Confirmed
  | Published
  | Ended
deriving DecidableEq

inductive ServePhase where
  | Attested
  | Refused
  | Greeted
  | Serving
deriving DecidableEq

/-- What an instance shares between its tasks: the live channel to each peer, the attested key of
each peer, and the state behind its request handler. -/
structure Node (App : Type) where
  slots : String → Option Nat
  observed : String → Option ControlPubkey
  app : App

structure Call (Instance Payload : Type) where
  caller : Instance
  channel : Nat
  id : Nat
  body : Payload

structure Served (Instance Payload : Type) where
  channel : Nat
  id : Nat
  producer : Instance
  request : Payload
  reply : Payload

/-- All instances and connections. -/
structure System (Instance App Payload : Type) where
  node : Instance → Node App
  links : List (Link Instance)
  dialing : Nat → DialPhase
  serving : Nat → ServePhase
  channel : Nat → ClientChannel Payload
  calls : List (Call Instance Payload)
  result : Nat → Option Payload
  served : List (Served Instance Payload)

inductive Action (Instance App Payload : Type) where
  | dial (i : Instance) (peer : String) (j : Instance)
  | greet (c : Nat)
  | observe (c : Nat)
  | confirm (c : Nat)
  | publish (c : Nat)
  | hang_up (c : Nat)
  | call (i : Instance) (peer : String) (payload : Payload)
  | serve (c : Nat)
  | deliver (c : Nat)
  | progress (i : Instance) (app : App)

namespace System

variable {Instance App Payload : Type} [DecidableEq Instance] (F : Fleet Instance)
  (handle : Instance → App → PeerContext → Payload → Payload × App)
  (s : System Instance App Payload)

def start (app : Instance → App) : System Instance App Payload where
  node i := { slots := fun _ => none, observed := fun _ => none, app := app i }
  links := []
  dialing _ := .Attested
  serving _ := .Attested
  channel _ := .new
  calls := []
  result _ := none
  served := []

def set_slot (i : Instance) (peer : String) (slot : Option Nat) : System Instance App Payload :=
  let node := s.node i
  { s with node := Function.update s.node i { node with slots := Function.update node.slots peer slot } }

def record_observed (i : Instance) (peer : String) (pubkey : ControlPubkey) : System Instance App Payload :=
  let node := s.node i
  { s with node := Function.update s.node i { node with observed := Function.update node.observed peer pubkey } }

def set_app (i : Instance) (app : App) : System Instance App Payload :=
  { s with node := Function.update s.node i { s.node i with app := app } }

def set_dialing (c : Nat) (phase : DialPhase) : System Instance App Payload :=
  { s with dialing := Function.update s.dialing c phase }

def set_serving (c : Nat) (phase : ServePhase) : System Instance App Payload :=
  { s with serving := Function.update s.serving c phase }

def dial_loop_busy (i : Instance) (peer : String) : Bool :=
  (List.range s.links.length).any fun c =>
    match s.links[c]? with
    | some link => link.dialer = i && link.peer = peer && s.dialing c ≠ .Ended
    | none => false

def call (i : Instance) (peer : String) (payload : Payload) :
    Except CallError Nat × System Instance App Payload :=
  if peer ∉ (F.config i).peers then (.error (.UnknownPeer peer), s)
  else
    match (s.node i).slots peer with
    | none => (.error (.NotConnected peer), s)
    | some c =>
      match (s.channel c).call (s.dialing c = .Published) s.calls.length payload with
      | (.error source, channel) =>
        (.error (.Rpc peer source), { s with channel := Function.update s.channel c channel })
      | (.ok id, channel) =>
        (.ok s.calls.length, { s with
          channel := Function.update s.channel c channel
          calls := s.calls ++ [{ caller := i, channel := c, id, body := payload }] })

def peer_context (link : Link Instance) : PeerContext where
  name := (F.config link.dialer).self_name
  mesh_pubkey := F.pubkey link.dialer
  pcr_digest := F.pcr_digest

def resolve (pending : List (Nat × Nat)) (id : Nat) (reply : Payload) : Nat → Option Payload :=
  match pending.lookup id with
  | some token => Function.update s.result token (some reply)
  | none => s.result

def step : Action Instance App Payload → Option (System Instance App Payload)
  | .dial i peer j =>
    if peer ∈ (F.config i).peers ∧ s.dial_loop_busy i peer = false then
      some { s with links := s.links ++ [{ dialer := i, peer, far := j, mesh_pubkey := F.pubkey j }] }
    else none
  | .greet c => do
    let link ← s.links[c]?
    guard (s.serving c = .Attested)
    if (F.config link.dialer).self_name ∈ (F.config link.far).peers then
      return s.set_serving c .Greeted
    else return s.set_serving c .Refused
  | .observe c => do
    let link ← s.links[c]?
    guard (s.serving c = .Greeted)
    return (s.record_observed link.far (F.config link.dialer).self_name (F.pubkey link.dialer)).set_serving c
      .Serving
  | .confirm c => do
    let link ← s.links[c]?
    guard (s.dialing c = .Attested ∧ (s.serving c = .Greeted ∨ s.serving c = .Serving))
    if (F.config link.far).self_name = link.peer then
      return (s.record_observed link.dialer link.peer link.mesh_pubkey).set_dialing c .Confirmed
    else return (s.set_slot link.dialer link.peer none).set_dialing c .Ended
  | .publish c => do
    let link ← s.links[c]?
    guard (s.dialing c = .Confirmed)
    return (s.set_slot link.dialer link.peer (some c)).set_dialing c .Published
  | .hang_up c => do
    let link ← s.links[c]?
    guard (s.dialing c ≠ .Ended)
    return (s.set_slot link.dialer link.peer none).set_dialing c .Ended
  | .call i peer payload => some (s.call F i peer payload).2
  | .serve c => do
    let link ← s.links[c]?
    guard (s.serving c = .Serving)
    let (id, body) ← (s.channel c).requests.head?
    let (reply, app) := handle link.far (s.node link.far).app (peer_context F link) body
    return { s.set_app link.far app with
      channel := Function.update s.channel c ((s.channel c).answer id reply)
      served := s.served ++ [{ channel := c, id, producer := link.far, request := body, reply }] }
  | .deliver c => do
    guard (s.dialing c = .Published)
    let (id, reply) ← (s.channel c).responses.head?
    return { s with
      channel := Function.update s.channel c ((s.channel c).demux id)
      result := s.resolve (s.channel c).pending id reply }
  | .progress i app => some (s.set_app i app)

inductive Step : Action Instance App Payload → System Instance App Payload → Prop
  | dial {i j : Instance} {peer : String} (hpeer : peer ∈ (F.config i).peers)
      (hfree : s.dial_loop_busy i peer = false) :
      Step (.dial i peer j)
        { s with links := s.links ++ [{ dialer := i, peer, far := j, mesh_pubkey := F.pubkey j }] }
  | greet {c : Nat} {link : Link Instance} (hlink : s.links[c]? = some link) (hphase : s.serving c = .Attested)
      (hname : (F.config link.dialer).self_name ∈ (F.config link.far).peers) :
      Step (.greet c) (s.set_serving c .Greeted)
  | refuse {c : Nat} {link : Link Instance} (hlink : s.links[c]? = some link) (hphase : s.serving c = .Attested)
      (hname : (F.config link.dialer).self_name ∉ (F.config link.far).peers) :
      Step (.greet c) (s.set_serving c .Refused)
  | observe {c : Nat} {link : Link Instance} (hlink : s.links[c]? = some link) (hphase : s.serving c = .Greeted) :
      Step (.observe c) ((s.record_observed link.far (F.config link.dialer).self_name
        (F.pubkey link.dialer)).set_serving c .Serving)
  | confirm {c : Nat} {link : Link Instance} (hlink : s.links[c]? = some link) (hphase : s.dialing c = .Attested)
      (hhello : s.serving c = .Greeted ∨ s.serving c = .Serving)
      (hname : (F.config link.far).self_name = link.peer) :
      Step (.confirm c) ((s.record_observed link.dialer link.peer link.mesh_pubkey).set_dialing c .Confirmed)
  | misrouted {c : Nat} {link : Link Instance} (hlink : s.links[c]? = some link)
      (hphase : s.dialing c = .Attested) (hhello : s.serving c = .Greeted ∨ s.serving c = .Serving)
      (hname : (F.config link.far).self_name ≠ link.peer) :
      Step (.confirm c) ((s.set_slot link.dialer link.peer none).set_dialing c .Ended)
  | publish {c : Nat} {link : Link Instance} (hlink : s.links[c]? = some link)
      (hphase : s.dialing c = .Confirmed) :
      Step (.publish c) ((s.set_slot link.dialer link.peer (some c)).set_dialing c .Published)
  | hang_up {c : Nat} {link : Link Instance} (hlink : s.links[c]? = some link) (hphase : s.dialing c ≠ .Ended) :
      Step (.hang_up c) ((s.set_slot link.dialer link.peer none).set_dialing c .Ended)
  | call {i : Instance} {peer : String} {payload : Payload} :
      Step (.call i peer payload) (s.call F i peer payload).2
  | serve {c id : Nat} {link : Link Instance} {body reply : Payload} {app : App}
      (hlink : s.links[c]? = some link) (hphase : s.serving c = .Serving)
      (hrequest : (s.channel c).requests.head? = some (id, body))
      (hhandle : handle link.far (s.node link.far).app (peer_context F link) body = (reply, app)) :
      Step (.serve c) { s.set_app link.far app with
        channel := Function.update s.channel c ((s.channel c).answer id reply)
        served := s.served ++ [{ channel := c, id, producer := link.far, request := body, reply }] }
  | deliver {c id : Nat} {reply : Payload} (hphase : s.dialing c = .Published)
      (hresponse : (s.channel c).responses.head? = some (id, reply)) :
      Step (.deliver c) { s with
        channel := Function.update s.channel c ((s.channel c).demux id)
        result := s.resolve (s.channel c).pending id reply }
  | progress {i : Instance} {app : App} : Step (.progress i app) (s.set_app i app)

variable {F handle s} {s' : System Instance App Payload} {a : Action Instance App Payload}

theorem guard_bind_some {p : Prop} [Decidable p] {α : Type} {f : Unit → Option α} {value : α}
    (h : (guard p >>= f) = some value) : p ∧ f () = some value := by
  by_cases hp : p
  · exact ⟨hp, by simpa [guard, hp] using h⟩
  · simp [guard, hp] at h

theorem step_inv (h : s.step F handle a = some s') : s.Step F handle a s' := by
  cases a with
  | dial i peer j =>
    obtain ⟨⟨hpeer, hfree⟩, h⟩ := Option.ite_none_right_eq_some.mp h
    cases h
    exact .dial hpeer hfree
  | greet c =>
    obtain ⟨link, hlink, h⟩ := Option.bind_eq_some_iff.mp h
    obtain ⟨hphase, h⟩ := guard_bind_some h
    split at h
    · next hname =>
      cases h
      exact .greet hlink hphase hname
    · next hname =>
      cases h
      exact .refuse hlink hphase hname
  | observe c =>
    obtain ⟨link, hlink, h⟩ := Option.bind_eq_some_iff.mp h
    obtain ⟨hphase, h⟩ := guard_bind_some h
    cases h
    exact .observe hlink hphase
  | confirm c =>
    obtain ⟨link, hlink, h⟩ := Option.bind_eq_some_iff.mp h
    obtain ⟨⟨hphase, hhello⟩, h⟩ := guard_bind_some h
    split at h
    · next hname =>
      cases h
      exact .confirm hlink hphase hhello hname
    · next hname =>
      cases h
      exact .misrouted hlink hphase hhello hname
  | publish c =>
    obtain ⟨link, hlink, h⟩ := Option.bind_eq_some_iff.mp h
    obtain ⟨hphase, h⟩ := guard_bind_some h
    cases h
    exact .publish hlink hphase
  | hang_up c =>
    obtain ⟨link, hlink, h⟩ := Option.bind_eq_some_iff.mp h
    obtain ⟨hphase, h⟩ := guard_bind_some h
    cases h
    exact .hang_up hlink hphase
  | call i peer payload =>
    cases h
    exact .call
  | serve c =>
    obtain ⟨link, hlink, h⟩ := Option.bind_eq_some_iff.mp h
    obtain ⟨hphase, h⟩ := guard_bind_some h
    obtain ⟨⟨id, body⟩, hrequest, h⟩ := Option.bind_eq_some_iff.mp h
    cases h
    exact .serve hlink hphase hrequest rfl
  | deliver c =>
    obtain ⟨hphase, h⟩ := guard_bind_some h
    obtain ⟨⟨id, reply⟩, hresponse, h⟩ := Option.bind_eq_some_iff.mp h
    cases h
    exact .deliver hphase hresponse
  | progress i app =>
    cases h
    exact .progress

end System

end enclavia.synchronizer.mesh
