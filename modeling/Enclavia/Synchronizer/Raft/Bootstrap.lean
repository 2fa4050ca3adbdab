import Enclavia.Synchronizer.Raft.Join

open interaction enclavia.synchronizer.mesh

namespace enclavia.synchronizer.raft

/-- A pass under way: what is left of it, the call it waits for, and what it has been answered. -/
structure Pass where
  program : JoinProc Bool
  waiting : Option Nat
  history : List JoinEvent

def Pass.start (handle : RaftHandle) : Pass := ⟨discover_and_join_pass handle, none, []⟩

inductive Task where
  | idle
  | running (pass : Pass)
  | voter

def Task.is_running : Task → Bool
  | .running _ => true
  | _ => false

/-- The instances while they boot, each with its `discover_and_join` task. -/
structure Bootstrap (Instance Node : Type) where
  mesh : System Instance (RaftServer Node) MeshPayload
  task : Instance → Task
  live : Instance → Bool
  founders : List Instance

inductive BootstrapAction (Instance Node : Type) where
  | mesh (action : Action Instance (RaftServer Node) MeshPayload)
  | begin_pass (i : Instance)
  | advance (i : Instance)
  | time_out (i : Instance)
  | stop (i : Instance)

namespace Bootstrap

variable {Instance Node : Type} [DecidableEq Instance] (F : Fleet Instance) (service : Service Node)
  (s : Bootstrap Instance Node)

def start (app : Instance → RaftServer Node) : Bootstrap Instance Node where
  mesh := .start app
  task _ := .idle
  live _ := true
  founders := []

def initialized (i : Instance) : Bool :=
  RaftHandle.cluster_is_initialized service.openraft (s.mesh.node i).app.node

def participants : Action Instance (RaftServer Node) MeshPayload → List Instance
  | .dial i _ j => [i, j]
  | .greet c | .observe c | .serve c => (s.mesh.links[c]?.map Link.far).toList
  | .confirm c | .publish c | .hang_up c | .deliver c => (s.mesh.links[c]?.map Link.dialer).toList
  | .call i _ _ => [i]
  | .progress i _ => [i]

def allowed : Action Instance (RaftServer Node) MeshPayload → Bool
  | .call i _ (.request (.Raft _)) => s.initialized service i
  | .call _ _ (.request (.ForwardClient _)) => true
  | .call _ _ _ => false
  | .progress i server =>
    s.initialized service i || !RaftHandle.cluster_is_initialized service.openraft server.node
  | _ => true

def founds (raft : Openraft Node) (node : Node) (members : Voters) : Bool :=
  match (raft.initialize_members node members).1 with
  | .ok () => true
  | .error _ => false

def set_task (i : Instance) (task : Task) : Bootstrap Instance Node :=
  { s with task := Function.update s.task i task }

def answered (i : Instance) (history : List JoinEvent) (effect : JoinEffect)
    (next : JoinAnswer effect → JoinProc Bool) (answer : JoinAnswer effect) : Bootstrap Instance Node :=
  s.set_task i (.running ⟨next answer, none, history ++ [⟨effect, answer⟩]⟩)

def found (i : Instance) (members : Voters) : Bootstrap Instance Node :=
  let server := (s.mesh.node i).app
  let node := (RaftHandle.initialize_cluster service.openraft server.node members).2
  let founders := if founds service.openraft server.node members then s.founders ++ [i] else s.founders
  { s with mesh := s.mesh.set_app i { server with node }, founders }

def advance (i : Instance) (pass : Pass) : Option (Bootstrap Instance Node) :=
  let node := (s.mesh.node i).app.node
  match pass.program with
  | .ret voter => some (s.set_task i (if voter then .voter else .idle))
  | .act .self_is_committed_voter next =>
    some (s.answered i pass.history .self_is_committed_voter next
      ((raft_handle F i).self_is_committed_voter service.openraft node))
  | .act .cluster_is_initialized next =>
    some (s.answered i pass.history .cluster_is_initialized next (s.initialized service i))
  | .act (.observed_peer_pubkey peer) next =>
    some (s.answered i pass.history (.observed_peer_pubkey peer) next ((s.mesh.node i).observed peer))
  | .act (.initialize_cluster members) next =>
    some ((s.found service i members).answered i pass.history (.initialize_cluster members) next
      (RaftHandle.initialize_cluster service.openraft node members).1)
  | .act (.call peer payload) next =>
    match pass.waiting with
    | some token => (s.mesh.result token).map fun reply =>
        s.answered i pass.history (.call peer payload) next (some reply)
    | none =>
      match s.mesh.call F i peer payload with
      | (.ok token, mesh) => some ({ s with mesh }.set_task i (.running { pass with waiting := some token }))
      | (.error _, mesh) => some ({ s with mesh }.answered i pass.history (.call peer payload) next none)

def time_out (i : Instance) (pass : Pass) : Option (Bootstrap Instance Node) :=
  match pass.program, pass.waiting with
  | .act (.call peer payload) next, some _ => some (s.answered i pass.history (.call peer payload) next none)
  | _, _ => none

def step : BootstrapAction Instance Node → Option (Bootstrap Instance Node)
  | .mesh a =>
    if (s.participants a).all s.live && s.allowed service a then
      (s.mesh.step F (raft_request_handler F service) a).map fun mesh => { s with mesh }
    else none
  | .begin_pass i =>
    match s.task i with
    | .idle => if s.live i then some (s.set_task i (.running (.start (raft_handle F i)))) else none
    | _ => none
  | .advance i =>
    match s.task i with
    | .running pass => s.advance F service i pass
    | _ => none
  | .time_out i =>
    match s.task i with
    | .running pass => s.time_out i pass
    | _ => none
  | .stop i => some { s.set_task i .idle with live := Function.update s.live i false }

inductive Step : BootstrapAction Instance Node → Bootstrap Instance Node → Prop
  | mesh {a : Action Instance (RaftServer Node) MeshPayload} {mesh : System Instance (RaftServer Node) MeshPayload}
      (hlive : (s.participants a).all s.live = true) (hallowed : s.allowed service a = true)
      (hstep : s.mesh.step F (raft_request_handler F service) a = some mesh) : Step (.mesh a) { s with mesh }
  | begin_pass {i : Instance} (hidle : s.task i = .idle) (hlive : s.live i = true) :
      Step (.begin_pass i) (s.set_task i (.running (.start (raft_handle F i))))
  | finish {i : Instance} {pass : Pass} {voter : Bool} (htask : s.task i = .running pass)
      (hprogram : pass.program = .ret voter) :
      Step (.advance i) (s.set_task i (if voter then .voter else .idle))
  | read_voter {i : Instance} {pass : Pass} {next : Bool → JoinProc Bool} (htask : s.task i = .running pass)
      (hprogram : pass.program = .act .self_is_committed_voter next) :
      Step (.advance i) (s.answered i pass.history .self_is_committed_voter next
        ((raft_handle F i).self_is_committed_voter service.openraft (s.mesh.node i).app.node))
  | read_initialized {i : Instance} {pass : Pass} {next : Bool → JoinProc Bool} (htask : s.task i = .running pass)
      (hprogram : pass.program = .act .cluster_is_initialized next) :
      Step (.advance i) (s.answered i pass.history .cluster_is_initialized next (s.initialized service i))
  | read_observed {i : Instance} {pass : Pass} {peer : String} {next : Option ControlPubkey → JoinProc Bool}
      (htask : s.task i = .running pass) (hprogram : pass.program = .act (.observed_peer_pubkey peer) next) :
      Step (.advance i) (s.answered i pass.history (.observed_peer_pubkey peer) next
        ((s.mesh.node i).observed peer))
  | found {i : Instance} {pass : Pass} {members : Voters} {next : Except RaftHandleError Unit → JoinProc Bool}
      (htask : s.task i = .running pass) (hprogram : pass.program = .act (.initialize_cluster members) next) :
      Step (.advance i) ((s.found service i members).answered i pass.history (.initialize_cluster members) next
        (RaftHandle.initialize_cluster service.openraft (s.mesh.node i).app.node members).1)
  | issue {i : Instance} {pass : Pass} {peer : String} {payload : MeshPayload}
      {next : Option MeshPayload → JoinProc Bool} {token : Nat}
      {mesh : System Instance (RaftServer Node) MeshPayload}
      (htask : s.task i = .running pass) (hprogram : pass.program = .act (.call peer payload) next)
      (hcall : s.mesh.call F i peer payload = (.ok token, mesh)) :
      Step (.advance i) ({ s with mesh }.set_task i (.running { pass with waiting := some token }))
  | unreachable {i : Instance} {pass : Pass} {peer : String} {payload : MeshPayload}
      {next : Option MeshPayload → JoinProc Bool} {error : CallError}
      {mesh : System Instance (RaftServer Node) MeshPayload}
      (htask : s.task i = .running pass) (hprogram : pass.program = .act (.call peer payload) next)
      (hcall : s.mesh.call F i peer payload = (.error error, mesh)) :
      Step (.advance i) ({ s with mesh }.answered i pass.history (.call peer payload) next none)
  | receive {i : Instance} {pass : Pass} {peer : String} {payload reply : MeshPayload}
      {next : Option MeshPayload → JoinProc Bool} {token : Nat}
      (htask : s.task i = .running pass) (hprogram : pass.program = .act (.call peer payload) next)
      (hwaiting : pass.waiting = some token) (hresult : s.mesh.result token = some reply) :
      Step (.advance i) (s.answered i pass.history (.call peer payload) next (some reply))
  | time_out {i : Instance} {pass : Pass} {peer : String} {payload : MeshPayload}
      {next : Option MeshPayload → JoinProc Bool}
      (htask : s.task i = .running pass) (hprogram : pass.program = .act (.call peer payload) next) :
      Step (.time_out i) (s.answered i pass.history (.call peer payload) next none)
  | stop {i : Instance} : Step (.stop i) { s.set_task i .idle with live := Function.update s.live i false }

variable {F service s} {s' : Bootstrap Instance Node} {a : BootstrapAction Instance Node}

theorem advance_inv {i : Instance} {pass : Pass} (htask : s.task i = .running pass)
    (h : s.advance F service i pass = some s') : s.Step F service (.advance i) s' := by
  unfold advance at h
  split at h
  · next voter hprogram =>
    cases h
    exact .finish htask hprogram
  · next next hprogram =>
    cases h
    exact .read_voter htask hprogram
  · next next hprogram =>
    cases h
    exact .read_initialized htask hprogram
  · next peer next hprogram =>
    cases h
    exact .read_observed htask hprogram
  · next members next hprogram =>
    cases h
    exact .found htask hprogram
  · next peer payload next hprogram =>
    split at h
    · next token hwaiting =>
      obtain ⟨reply, hresult, rfl⟩ := Option.map_eq_some_iff.mp h
      exact .receive htask hprogram hwaiting hresult
    · split at h
      · next token mesh hcall =>
        cases h
        exact .issue htask hprogram hcall
      · next error mesh hcall =>
        cases h
        exact .unreachable htask hprogram hcall

theorem step_inv (h : s.step F service a = some s') : s.Step F service a s' := by
  cases a with
  | mesh a =>
    obtain ⟨hallowed, h⟩ := Option.ite_none_right_eq_some.mp h
    obtain ⟨mesh, hstep, rfl⟩ := Option.map_eq_some_iff.mp h
    rw [Bool.and_eq_true] at hallowed
    exact .mesh hallowed.1 hallowed.2 hstep
  | begin_pass i =>
    cases htask : s.task i with
    | idle =>
      simp only [step, htask] at h
      obtain ⟨hlive, h⟩ := Option.ite_none_right_eq_some.mp h
      cases h
      exact .begin_pass htask hlive
    | running pass | voter => simp [step, htask] at h
  | advance i =>
    cases htask : s.task i with
    | idle => simp [step, htask] at h
    | running pass =>
      simp only [step, htask] at h
      exact advance_inv htask h
    | voter => simp [step, htask] at h
  | time_out i =>
    cases htask : s.task i with
    | idle => simp [step, htask] at h
    | running pass =>
      simp only [step, htask, time_out] at h
      split at h
      · next peer payload next token hprogram hwaiting =>
        cases h
        exact .time_out htask hprogram
      · cases h
    | voter => simp [step, htask] at h
  | stop i =>
    cases h
    exact .stop

end Bootstrap

end enclavia.synchronizer.raft
