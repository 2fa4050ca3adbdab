import Enclavia.Synchronizer.Raft.PassSoundness
import Mathlib.Data.Fintype.Basic

open interaction enclavia.synchronizer.mesh

namespace enclavia.synchronizer.raft

variable {next : Option MeshPayload → JoinProc Bool}

namespace Bootstrap

section Condition

variable {Instance Node : Type} (F : Fleet Instance) (service : Service Node) (s : Bootstrap Instance Node)

def awaits (i : Instance) (c : Nat) : Bool :=
  match s.task i, (s.mesh.channel c).requests.head? with
  | .running { waiting := some token, .. }, some (id, _) =>
    match s.mesh.calls[token]? with
    | some call => call.channel == c && call.id == id
    | none => false
  | _, _ => false

def far_initialized (c : Nat) : Bool :=
  match s.mesh.links[c]? with
  | some link => s.initialized service link.far
  | none => false

/-- A probe that a pass under the smallest name waits for is taken up by a node without a membership
only as long as no cluster is founded, and a pass under the smallest name begins only when no other
one is under way. -/
def Orderly : BootstrapAction Instance Node → Prop
  | .mesh (.serve c) => ∀ i, (raft_handle F i).is_smallest_name = true → s.awaits i c = true →
      s.far_initialized service c = false → s.founders = []
  | .begin_pass i => (raft_handle F i).is_smallest_name = true →
      ∀ j, (raft_handle F j).is_smallest_name = true → (s.task j).is_running = false
  | _ => True

instance [Fintype Instance] : DecidablePred (s.Orderly F service)
  | .mesh (.serve c) => inferInstanceAs (Decidable (∀ i, (raft_handle F i).is_smallest_name = true →
      s.awaits i c = true → s.far_initialized service c = false → s.founders = []))
  | .begin_pass i => inferInstanceAs (Decidable ((raft_handle F i).is_smallest_name = true →
      ∀ j, (raft_handle F j).is_smallest_name = true → (s.task j).is_running = false))
  | .mesh (.dial _ _ _) | .mesh (.greet _) | .mesh (.observe _) | .mesh (.confirm _) | .mesh (.publish _)
  | .mesh (.hang_up _) | .mesh (.call _ _ _) | .mesh (.deliver _) | .mesh (.progress _ _)
  | .advance _ | .time_out _ | .stop _ => .isTrue trivial

end Condition

variable {Instance Node : Type} {F : Fleet Instance} {service : Service Node} {s s' : Bootstrap Instance Node}
  {mesh : System Instance (RaftServer Node) MeshPayload} {i : Instance} {pass : Pass} {token : Nat}

theorem awaits_of_call {c id : Nat} {body : MeshPayload} {call : enclavia.synchronizer.mesh.Call Instance MeshPayload}
    (htask : s.task i = .running pass) (hwaiting : pass.waiting = some token)
    (hrequest : (s.mesh.channel c).requests.head? = some (id, body)) (hcall : s.mesh.calls[token]? = some call)
    (hchannel : call.channel = c) (hid : call.id = id) :
    s.awaits i c = true := by
  obtain ⟨program, waiting, history⟩ := pass
  subst hwaiting
  simp [awaits, htask, hrequest, hcall, hchannel, hid]

/-- Every pass is sound, at most one is under way under the smallest name, and before a cluster is
founded no instance holds a membership and no Raft RPC was sent. -/
structure Sound (F : Fleet Instance) (service : Service Node) (s : Bootstrap Instance Node) : Prop where
  correlated : s.mesh.Correlated
  passes : ∀ i pass, s.task i = .running pass → pass.Sound (raft_handle F i) s.mesh s.founders
  alone : ∀ i j, (raft_handle F i).is_smallest_name = true → (raft_handle F j).is_smallest_name = true →
    (s.task i).is_running = true → (s.task j).is_running = true → i = j
  members : ∀ i, s.initialized service i = true → s.founders ≠ []
  traffic : s.founders = [] → ∀ call ∈ s.mesh.calls, ∀ rpc, call.body ≠ .request (.Raft rpc)
  once : s.founders.length ≤ 1

namespace Sound

theorem start {app : Instance → RaftServer Node}
    (happ : ∀ i, RaftHandle.cluster_is_initialized service.openraft (app i).node = false) :
    (Bootstrap.start app).Sound F service where
  correlated := .start app
  passes _ _ h := by cases h
  alone _ _ _ _ h := by cases h
  members i h := absurd (h.symm.trans (happ i)) (by decide)
  traffic _ _ h := by cases h
  once := Nat.zero_le _

theorem uninitialized (h : s.Sound F service) (hnil : s.founders = []) (i : Instance) :
    s.initialized service i = false := by
  by_contra hnot
  exact h.members i (Bool.of_not_eq_false hnot) hnil

private theorem quiet (h : s.Sound F service) (hcorrelated : mesh.Correlated) (hcalls : mesh.calls = s.mesh.calls)
    (hserved : mesh.served = s.mesh.served) (happ : ∀ i, (mesh.node i).app = (s.mesh.node i).app) :
    { s with mesh }.Sound F service where
  correlated := hcorrelated
  passes i pass hpass := (h.passes i pass hpass).frame (hcalls ▸ List.prefix_refl _) hserved
  alone := h.alone
  members i hi := h.members i (by rw [initialized, ← happ]; exact hi)
  traffic hnil call hcall := h.traffic hnil call (hcalls ▸ hcall)
  once := h.once

theorem call (h : s.Sound F service) (i : Instance) (peer : String) (payload : MeshPayload)
    (hraft : ∀ rpc, payload = .request (.Raft rpc) → s.founders ≠ []) :
    { s with mesh := (s.mesh.call F i peer payload).2 }.Sound F service := by
  have hcorrelated := h.correlated.call (F := F) i peer payload
  generalize hcall : s.mesh.call F i peer payload = outcome at hcorrelated
  cases hcall ▸ System.call_called (F := F) s.mesh i peer payload with
  | failed error => exact h
  | undriven => exact h.quiet hcorrelated rfl rfl fun _ => rfl
  | issued hslot hdriven =>
    refine ⟨hcorrelated, ?_, h.alone, h.members, ?_, h.once⟩
    · intro j pass hpass
      exact (h.passes j pass hpass).frame (List.prefix_append _ _) rfl
    · intro hnil call hmem rpc hbody
      rcases List.mem_append.mp hmem with hold | hnew
      · exact h.traffic hnil call hold rpc hbody
      · rw [List.mem_singleton.mp hnew] at hbody
        exact hraft rpc hbody hnil

variable [DecidableEq Instance] {peer : String}

theorem set_task (h : s.Sound F service) {task : Task}
    (hpass : ∀ pass, task = .running pass → pass.Sound (raft_handle F i) s.mesh s.founders)
    (halone : task.is_running = true → (raft_handle F i).is_smallest_name = true →
      ∀ j, (raft_handle F j).is_smallest_name = true → (s.task j).is_running = true → j = i) :
    (s.set_task i task).Sound F service where
  correlated := h.correlated
  passes j pass hj := by
    by_cases hij : j = i
    · subst hij
      simp only [Bootstrap.set_task, Function.update_self] at hj
      exact hpass pass hj
    · simp only [Bootstrap.set_task, Function.update_of_ne hij] at hj
      exact h.passes j pass hj
  alone j k hj hk hjrun hkrun := by
    by_cases hji : j = i <;> by_cases hki : k = i
    · rw [hji, hki]
    · subst hji
      simp only [Bootstrap.set_task, Function.update_self] at hjrun
      simp only [Bootstrap.set_task, Function.update_of_ne hki] at hkrun
      exact (halone hjrun hj k hk hkrun).symm
    · subst hki
      simp only [Bootstrap.set_task, Function.update_self] at hkrun
      simp only [Bootstrap.set_task, Function.update_of_ne hji] at hjrun
      exact halone hkrun hk j hj hjrun
    · simp only [Bootstrap.set_task, Function.update_of_ne hji] at hjrun
      simp only [Bootstrap.set_task, Function.update_of_ne hki] at hkrun
      exact h.alone j k hj hk hjrun hkrun
  members := h.members
  traffic := h.traffic
  once := h.once

theorem set_idle (h : s.Sound F service) (i : Instance) : (s.set_task i .idle).Sound F service :=
  h.set_task nofun nofun

theorem set_running (h : s.Sound F service) {next : Pass} (htask : s.task i = .running pass)
    (hnext : next.Sound (raft_handle F i) s.mesh s.founders) : (s.set_task i (.running next)).Sound F service := by
  refine h.set_task ?_ ?_
  · intro pass' hpass'
    cases hpass'
    exact hnext
  · intro _ hi j hj hrunning
    exact h.alone j i hj hi hrunning (by rw [htask]; rfl)

theorem answered (h : s.Sound F service) {effect : JoinEffect} {next : JoinAnswer effect → JoinProc Bool}
    {answer : JoinAnswer effect} (htask : s.task i = .running pass) (hprogram : pass.program = .act effect next)
    (hanswer : reports_no_cluster ⟨effect, answer⟩ = false) :
    (s.answered i pass.history effect next answer).Sound F service := by
  refine h.set_running htask ((h.passes i pass htask).answered hprogram ?_)
  intro _ hreports
  exact absurd (hreports.symm.trans hanswer) (by decide)

theorem receive (h : s.Sound F service) {payload reply : MeshPayload} (htask : s.task i = .running pass)
    (hprogram : pass.program = .act (.call peer payload) next) (hwaiting : pass.waiting = some token)
    (hresult : s.mesh.result token = some reply) :
    (s.answered i pass.history (.call peer payload) next (some reply)).Sound F service := by
  have hpass := h.passes i pass htask
  refine h.set_running htask (hpass.answered hprogram ?_)
  intro hname hreports
  obtain ⟨call, hcall, hserved⟩ := hpass.awaited hname token hwaiting
  obtain ⟨r, hr, hchannel, hid, -, hreply, -⟩ := h.correlated.result_produced hcall hresult
  exact hserved r hr hchannel hid (hreply.trans (reply_of_reports_no_cluster hreports))

theorem issue (h : s.Sound F service) {payload : MeshPayload} (htask : s.task i = .running pass)
    (hprogram : pass.program = .act (.call peer payload) next)
    (hcall : s.mesh.call F i peer payload = (.ok token, mesh)) :
    ({ s with mesh }.set_task i (.running { pass with waiting := some token })).Sound F service := by
  have hjoin := (h.passes i pass htask).call_payload hprogram
  have hcalled : { s with mesh }.Sound F service := by
    have hsound := h.call i peer payload fun rpc hrpc => by rw [hjoin] at hrpc; cases hrpc
    rw [hcall] at hsound
    exact hsound
  have hpass := hcalled.passes i pass htask
  refine hcalled.set_running htask ⟨hpass.ran, hpass.heard, ?_⟩
  intro _ token' htoken
  cases htoken
  obtain ⟨call, hcall, hunserved⟩ := h.correlated.issued_unserved hcall
  exact ⟨call, hcall, fun r hr hchannel hid => absurd hid (hunserved r hr hchannel)⟩

theorem serve (h : s.Sound F service) {c id : Nat} {link : Link Instance} {body reply : MeshPayload}
    {server : RaftServer Node} (horderly : s.Orderly F service (.mesh (.serve c)))
    (hlink : s.mesh.links[c]? = some link) (hrequest : (s.mesh.channel c).requests.head? = some (id, body))
    (hhandle : raft_request_handler F service link.far (s.mesh.node link.far).app (System.peer_context F link) body =
      (reply, server))
    (hcorrelated : mesh.Correlated) (hcalls : mesh.calls = s.mesh.calls)
    (hserved : mesh.served = s.mesh.served ++ [{ channel := c, id, producer := link.far, request := body, reply }])
    (hnode : mesh.node = (s.mesh.set_app link.far server).node) : { s with mesh }.Sound F service := by
  refine ⟨hcorrelated, ?_, h.alone, ?_, ?_, h.once⟩
  · intro j pass hpass
    refine (h.passes j pass hpass).add_served hcalls hserved ?_
    intro hname token call htoken hcall hchannel hid hreply
    refine horderly j hname ?_ ?_
    · exact awaits_of_call hpass htoken hrequest hcall hchannel.symm hid.symm
    · have hfirst := congrArg Prod.fst hhandle
      have hempty := no_cluster_uninitialized (hfirst.trans hreply)
      simp only [far_initialized, hlink]
      exact hempty
  · -- A node comes by a membership through a Raft RPC only, and someone sent that.
    intro j hj hnil
    have hempty := h.uninitialized hnil
    have hraft : ∀ rpc, body ≠ .request (.Raft rpc) := by
      intro rpc hbody
      obtain ⟨call, hmem, -, -, hcall⟩ :=
        (h.correlated.carries c).request id body (List.mem_of_mem_head? hrequest)
      exact h.traffic hnil call hmem rpc (hcall.trans hbody)
    have hsecond := congrArg Prod.snd hhandle
    have hkept : server.node = (s.mesh.node link.far).app.node :=
      (congrArg RaftServer.node hsecond).symm.trans (handle_body_uninitialized (hempty link.far) hraft)
    have hsame : (mesh.node j).app.node = (s.mesh.node j).app.node := by
      rw [hnode]
      by_cases hjfar : j = link.far
      · subst hjfar
        simp only [System.set_app, Function.update_self]
        exact hkept
      · simp only [System.set_app, Function.update_of_ne hjfar]
    have hold := hempty j
    rw [initialized, ← hsame] at hold
    exact absurd (hold.symm.trans hj) (by decide)
  · intro hnil call hcall
    exact h.traffic hnil call (hcalls ▸ hcall)

theorem mesh_step (h : s.Sound F service) {a : Action Instance (RaftServer Node) MeshPayload}
    (horderly : s.Orderly F service (.mesh a)) (hallowed : s.allowed service a = true)
    (hstep : s.mesh.step F (raft_request_handler F service) a = some mesh) : { s with mesh }.Sound F service := by
  have hcorrelated := h.correlated.step hstep
  cases System.step_inv hstep with
  | dial | greet | refuse | deliver => exact h.quiet hcorrelated rfl rfl fun _ => rfl
  | observe | confirm | misrouted | publish | hang_up =>
    exact h.quiet hcorrelated rfl rfl fun _ => System.app_update rfl
  | @call i peer payload =>
    refine h.call i peer payload ?_
    intro rpc hrpc
    subst hrpc
    exact h.members i hallowed
  | serve hlink hphase hrequest hhandle => exact h.serve horderly hlink hrequest hhandle hcorrelated rfl rfl rfl
  | @progress i server =>
    refine ⟨hcorrelated, ?_, h.alone, ?_, h.traffic, h.once⟩
    · intro j pass hpass
      exact (h.passes j pass hpass).frame (List.prefix_refl _) rfl
    · intro j hj hnil
      have hempty := h.uninitialized hnil
      by_cases hji : j = i
      · subst hji
        simp only [initialized, System.set_app, Function.update_self] at hj
        simp only [allowed, hempty j, hj] at hallowed
        cases hallowed
      · simp only [initialized, System.set_app, Function.update_of_ne hji] at hj
        exact absurd ((hempty j).symm.trans hj) (by decide)

end Sound

section Founding

variable {raft : Openraft Node} {node : Node} {members : Voters}

theorem initialize_cluster_unfounded (hopenraft : raft.FoundsOnEmpty) (h : founds raft node members = false) :
    (RaftHandle.initialize_cluster raft node members).2 = node := by
  obtain ⟨result, node', hresult⟩ : ∃ result node', raft.initialize_members node members = (result, node') :=
    ⟨_, _, rfl⟩
  cases result with
  | ok value => simp [founds, hresult] at h
  | error error =>
    have hfailed := hopenraft.failed node members error (by rw [hresult])
    rw [hresult] at hfailed
    cases error <;> simp only [RaftHandle.initialize_cluster, hresult] <;> exact hfailed

theorem founds_on_empty (hopenraft : raft.FoundsOnEmpty) (h : founds raft node members = true) :
    (raft.stored node).log = [] ∧ (raft.stored node).vote = none := by
  have hallowed : (raft.initialize_members node members).1 ≠ .error .NotAllowed := by
    intro hrefused
    simp [founds, hrefused] at h
  have hempty := fun hused => hallowed ((hopenraft.refused_iff node members).mpr hused)
  simpa using hempty

end Founding

variable [DecidableEq Instance] {a : BootstrapAction Instance Node}

theorem Sound.found (hopenraft : service.openraft.FoundsOnEmpty) (h : s.Sound F service) {members : Voters}
    {next : Except RaftHandleError Unit → JoinProc Bool} (htask : s.task i = .running pass)
    (hprogram : pass.program = .act (.initialize_cluster members) next) (answer : Except RaftHandleError Unit) :
    ((s.found service i members).answered i pass.history (.initialize_cluster members) next answer).Sound F
      service := by
  have hpass := h.passes i pass htask
  have hsmallest := (hpass.confirmed hprogram).smallest
  have hnil := hpass.founders_nil hprogram
  refine ⟨?_, ?_, ?_, ?_, fun _ => h.traffic hnil, ?_⟩
  · exact ⟨h.correlated.carries, h.correlated.unique, h.correlated.served, h.correlated.result⟩
  · intro j pass' hj
    by_cases hji : j = i
    · subst hji
      simp only [Bootstrap.answered, Bootstrap.set_task, Function.update_self] at hj
      cases hj
      exact hpass.founded hprogram answer
    · -- Another pass under the smallest name is not under way.
      have hother : s.task j = .running pass' := by
        simp only [Bootstrap.answered, Bootstrap.set_task, Function.update_of_ne hji] at hj
        exact hj
      refine .of_not_smallest (h.passes j pass' hother).ran ?_
      by_contra hnot
      exact hji (h.alone j i (Bool.of_not_eq_false hnot) hsmallest (by rw [hother]; rfl) (by rw [htask]; rfl))
  · exact (h.set_running htask (hpass.founded hprogram answer)).alone
  · intro j hj hfounders
    have hempty := h.uninitialized hnil j
    cases hfounds : founds service.openraft (s.mesh.node i).app.node members with
    | true => simp [Bootstrap.answered, Bootstrap.set_task, Bootstrap.found, hfounds] at hfounders
    | false =>
      have hkept := initialize_cluster_unfounded hopenraft hfounds
      have hsame : ((s.found service i members).mesh.node j).app.node = (s.mesh.node j).app.node := by
        by_cases hji : j = i
        · subst hji
          simp only [Bootstrap.found, System.set_app, Function.update_self]
          exact hkept
        · simp only [Bootstrap.found, System.set_app, Function.update_of_ne hji]
      rw [initialized, ← hsame] at hempty
      exact absurd (hempty.symm.trans hj) (by decide)
  · have hfounders : (s.found service i members).founders.length ≤ 1 := by
      simp only [Bootstrap.found, hnil]
      split <;> simp
    exact hfounders

theorem Sound.step (hopenraft : service.openraft.FoundsOnEmpty) (h : s.Sound F service)
    (horderly : s.Orderly F service a) (hstep : s.step F service a = some s') : s'.Sound F service := by
  cases step_inv hstep with
  | mesh hlive hallowed hmesh => exact h.mesh_step horderly hallowed hmesh
  | @begin_pass i hidle hlive =>
    refine h.set_task ?_ ?_
    · intro pass hpass
      cases hpass
      exact .start
    · intro _ hi j hj hrunning
      exact absurd (hrunning.symm.trans (horderly hi j hj)) (by decide)
  | @finish i pass voter htask hprogram =>
    refine h.set_task ?_ ?_
    · intro pass' hpass'
      cases voter <;> cases hpass'
    · intro hrunning
      cases voter <;> cases hrunning
  | read_voter htask hprogram | read_initialized htask hprogram | read_observed htask hprogram =>
    exact h.answered htask hprogram rfl
  | found htask hprogram => exact h.found hopenraft htask hprogram _
  | issue htask hprogram hcall => exact h.issue htask hprogram hcall
  | @unreachable i pass peer payload next error mesh htask hprogram hcall =>
    have hjoin := (h.passes i pass htask).call_payload hprogram
    have hcalled := h.call i peer payload fun rpc hrpc => by rw [hjoin] at hrpc; cases hrpc
    rw [hcall] at hcalled
    exact hcalled.answered htask hprogram rfl
  | receive htask hprogram hwaiting hresult => exact h.receive htask hprogram hwaiting hresult
  | time_out htask hprogram => exact h.answered htask hprogram rfl
  | @stop i =>
    have hidle := h.set_idle i
    exact ⟨hidle.correlated, hidle.passes, hidle.alone, hidle.members, hidle.traffic, hidle.once⟩

theorem Sound.founders_changed (hopenraft : service.openraft.FoundsOnEmpty) (h : s.Sound F service)
    (hstep : s.step F service a = some s') (hchanged : s'.founders ≠ s.founders) :
    (∀ j, s.initialized service j = false) ∧ ∃ i, a = .advance i ∧ s.founders = [] ∧ s'.founders = [i] ∧
      (service.openraft.stored (s.mesh.node i).app.node).log = [] ∧
      (service.openraft.stored (s.mesh.node i).app.node).vote = none := by
  cases step_inv hstep with
  | @found i pass members next htask hprogram =>
    have hnil := (h.passes i pass htask).founders_nil hprogram
    refine ⟨h.uninitialized hnil, i, rfl, hnil, ?_⟩
    cases hfounds : founds service.openraft (s.mesh.node i).app.node members with
    | true =>
      refine ⟨?_, founds_on_empty hopenraft hfounds⟩
      simp [Bootstrap.answered, Bootstrap.set_task, Bootstrap.found, hfounds, hnil]
    | false => exact absurd (by simp [Bootstrap.answered, Bootstrap.set_task, Bootstrap.found, hfounds]) hchanged
  | mesh | begin_pass | finish | read_voter | read_initialized | read_observed | issue | unreachable | receive
  | time_out | stop => exact absurd rfl hchanged

/-- In every run of any number of instances under any names, dials routed anywhere, in which all steps
are orderly, at most one cluster is founded, and none while an instance holds a membership. -/
theorem at_most_one_cluster_founded (hopenraft : service.openraft.FoundsOnEmpty) {app : Instance → RaftServer Node}
    (happ : ∀ i, RaftHandle.cluster_is_initialized service.openraft (app i).node = false)
    {actions : List (BootstrapAction Instance Node)}
    (hexec : machine.exec (step F service) (.start app) actions = some s)
    (horderly : machine.Meets (step F service) (Orderly F service) (.start app) actions) :
    s.founders.length ≤ 1 ∧ ∀ a s', s.step F service a = some s' → s'.founders ≠ s.founders →
      (∀ j, s.initialized service j = false) ∧ ∃ i, a = .advance i ∧ s.founders = [] ∧ s'.founders = [i] ∧
        (service.openraft.stored (s.mesh.node i).app.node).log = [] ∧
        (service.openraft.stored (s.mesh.node i).app.node).vote = none := by
  have hsound : s.Sound F service :=
    machine.exec_preserves (fun _ _ _ h horderly hstep => h.step hopenraft horderly hstep) (.start happ)
      horderly hexec
  exact ⟨hsound.once, fun a s' hstep hchanged => hsound.founders_changed hopenraft hstep hchanged⟩

end Bootstrap

namespace sample

instance : Fintype Boot := ⟨{.a, .b, .c, .other_a, .other_b}, fun boot => by cases boot <;> decide⟩

def booted (boot : Boot) : RaftServer ReferenceNode :=
  { raft_installed := true, serve := some false, node := .new boot.id }

theorem booted_uninitialized (boot : Boot) :
    RaftHandle.cluster_is_initialized service.openraft (booted boot).node = false :=
  rfl

def dial_peers (c : Nat) (i : Boot) : List (BootstrapAction Boot ReferenceNode) :=
  (connect c i "az-b" .b ++ connect (c + 1) i "az-c" .c).map .mesh

def probe_peers (c : Nat) (i : Boot) : List (BootstrapAction Boot ReferenceNode) :=
  [.begin_pass i, .advance i, .advance i, .mesh (.serve c), .mesh (.deliver c), .advance i,
    .advance i, .mesh (.serve (c + 1)), .mesh (.deliver (c + 1)), .advance i,
    .advance i, .advance i, .advance i, .advance i]

/-- The provisioned founder has found all its peers without a cluster. -/
theorem at_most_one_cluster_founded_provisioned :
    ∃ s, machine.exec (Bootstrap.step fleet service) (.start booted) (dial_peers 0 .a ++ probe_peers 0 .a) =
        some s ∧
      (∃ s', s.step fleet service (.advance .a) = some s' ∧ s'.founders = [.a]) ∧
      s.founders.length ≤ 1 ∧ ∀ a s', s.step fleet service a = some s' → s'.founders ≠ s.founders →
        (∀ j, s.initialized service j = false) ∧ ∃ i, a = .advance i ∧ s.founders = [] ∧ s'.founders = [i] ∧
          (service.openraft.stored (s.mesh.node i).app.node).log = [] ∧
          (service.openraft.stored (s.mesh.node i).app.node).vote = none := by
  have hrun : ((machine.exec (Bootstrap.step fleet service) (.start booted)
      (dial_peers 0 .a ++ probe_peers 0 .a)).bind fun s =>
        (s.step fleet service (.advance .a)).map Bootstrap.founders) = some [.a] := by
    decide +kernel
  have horderly : machine.Meets (Bootstrap.step fleet service) (Bootstrap.Orderly fleet service) (.start booted)
      (dial_peers 0 .a ++ probe_peers 0 .a) := by
    decide +kernel
  obtain ⟨s, hexec, hlast⟩ := Option.bind_eq_some_iff.mp hrun
  obtain ⟨s', hstep, hfounders⟩ := Option.map_eq_some_iff.mp hlast
  exact ⟨s, hexec, ⟨s', hstep, hfounders⟩,
    Bootstrap.at_most_one_cluster_founded reference_founds_on_empty booted_uninitialized hexec horderly⟩

/-- The first instance under the smallest name founds a cluster and ends its pass. -/
def delayed_replication : List (BootstrapAction Boot ReferenceNode) :=
  dial_peers 0 .a ++ dial_peers 2 .other_a ++ probe_peers 0 .a ++ [.advance .a, .advance .a] ++
    probe_peers 2 .other_a

/-- Both have answered that there is no cluster, and a second one is founded. -/
theorem second_cluster_founded :
    ∃ s s', machine.exec (Bootstrap.step fleet service) (.start booted) delayed_replication = some s ∧
      s.live .a = true ∧ s.initialized service .a = true ∧ s.founders = [.a] ∧
      s.step fleet service (.advance .other_a) = some s' ∧ s'.founders = [.a, .other_a] := by
  have hrun : ((machine.exec (Bootstrap.step fleet service) (.start booted) delayed_replication).bind
        fun s => (s.step fleet service (.advance .other_a)).map fun s' =>
          (s.live .a, s.initialized service .a, s.founders, s'.founders)) =
      some (true, true, [.a], [.a, .other_a]) := by
    decide +kernel
  obtain ⟨s, hexec, hlast⟩ := Option.bind_eq_some_iff.mp hrun
  obtain ⟨s', hstep, hvalues⟩ := Option.map_eq_some_iff.mp hlast
  simp only [Prod.mk.injEq] at hvalues
  exact ⟨s, s', hexec, hvalues.1, hvalues.2.1, hvalues.2.2.1, hstep, hvalues.2.2.2⟩

end sample

end enclavia.synchronizer.raft
