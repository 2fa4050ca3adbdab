import Enclavia.Synchronizer.Raft.TransitionAuthenticity

open interaction enclavia.protocol enclavia.synchronizer.wire

namespace enclavia.synchronizer

open raft (rpc_error ReplicatedOp ServeProc ServeEffect ServeAnswer Answered apply_one)

/-- A request of an attested session, and what the local NSM says when it is asked for the time. -/
structure SessionCall where
  session_key : PcrKey
  control_pubkey : ControlPubkey
  now_ms : Except String UInt64
  request : Request

namespace Node

variable {DateTime : Type} (lib : LinkLibrary DateTime) (build : Build) (inner : StateMachine)

def handle_get (session_key key : PcrKey) : Response × StateMachine :=
  if key ≠ session_key then (.Err .Unauthorized, inner)
  else
    match inner.get key with
    | some state => (.GetOk state.commitment state.version, inner)
    | none => (.Err .NotFound, inner)

def handle_register (session_key key : PcrKey) (commitment : Commitment) : Response × StateMachine :=
  if key ≠ session_key then (.Err .Unauthorized, inner)
  else
    match inner.apply (.Register key commitment) with
    | (.ok _, inner) => (.RegisterOk, inner)
    | (.error e, inner) => (.Err (rpc_error e), inner)

def handle_pin (session_key key : PcrKey) (expected_version : Version) (commitment : Commitment) :
    Response × StateMachine :=
  if key ≠ session_key then (.Err .Unauthorized, inner)
  else
    match inner.apply (.Pin key expected_version commitment) with
    | (.ok state, inner) => (.PinOk state.version, inner)
    | (.error e, inner) => (.Err (rpc_error e), inner)

def handle_transition (session_key : PcrKey) (now_ms : Except String UInt64) (link : ChainLink)
    (commitment : Commitment) : Response × StateMachine :=
  match now_ms with
  | .error _ => (.Err .Unavailable, inner)
  | .ok now_ms =>
    match decode_transition_link lib link with
    | .error _ => (.Err .TransitionRejected, inner)
    | .ok decoded =>
      match inner.get decoded.old_key with
      | none => (.Err .TransitionRejected, inner)
      | some state =>
        match verify_transition_link lib build link decoded session_key state.control_pubkey now_ms with
        | .error _ => (.Err .TransitionRejected, inner)
        | .ok verified =>
          match (inner.observe_transition verified.old_key verified.new_key).apply
              (.Transition verified.old_key verified.new_key verified.link_hash commitment) with
          | (.ok state, inner) => (.TransitionOk state.version, inner)
          | (.error .KeyNotCurrent, inner) => (.Err .TransitionRejected, inner)
          | (.error e, inner) => (.Err (rpc_error e), inner)

def handle_revoke (session_key : PcrKey) (link : ChainLink) : Response × StateMachine :=
  match inner.get session_key with
  | none => (.Err .RevocationRejected, inner)
  | some state =>
    match verify_revocation_link lib link state.control_pubkey with
    | .error _ => (.Err .RevocationRejected, inner)
    | .ok verified =>
      match inner.apply (.Revoke session_key verified.link_hash) with
      | (.ok _, inner) => (.RevokeOk, inner)
      | (.error _, inner) => (.Err .RevocationRejected, inner)

def handle_request (session_key : PcrKey) (now_ms : Except String UInt64) : Request → Response × StateMachine
  | .Get key => handle_get inner session_key key
  | .Register key commitment => handle_register inner session_key key commitment
  | .Pin key expected_version commitment => handle_pin inner session_key key expected_version commitment
  | .Transition link commitment => handle_transition lib build inner session_key now_ms link commitment
  | .Revoke link => handle_revoke lib inner session_key link

/-- What a session does while it holds the lock: it announces its control pubkey, and then makes its request. -/
inductive Section where
  | observe (session_key : PcrKey) (control_pubkey : ControlPubkey)
  | request (call : SessionCall)

def enter : Section → Option Response × StateMachine
  | .observe session_key control_pubkey => (none, inner.observe_attestation session_key control_pubkey)
  | .request call =>
    let handled := handle_request lib build inner call.session_key call.now_ms call.request
    (some handled.1, handled.2)

/-- The lock is taken twice, so that other sessions may come in between. -/
def dispatch (call : SessionCall) : List Section :=
  [.observe call.session_key call.control_pubkey, .request call]

def Section.call? : Section → Option SessionCall
  | .observe .. => none
  | .request call => some call

end Node

def serve (now_ms : Except String UInt64) {α : Type} : StateMachine → ServeProc α → α × StateMachine
  | sm, .ret value => (value, sm)
  | sm, .act (.get key) next => serve now_ms sm (next (sm.get key))
  | sm, .act .now_ms next => serve now_ms sm (next now_ms)
  | sm, .act (.client_write op) next => serve now_ms (apply_one sm op).2 (next (.committed (apply_one sm op).1))
  | sm, .act .ensure_linearizable next => serve now_ms sm (next .linearizable)

def dispatch_on_leader {DateTime : Type} (lib : LinkLibrary DateTime) (build : Build) (sm : StateMachine)
    (call : SessionCall) : Response × StateMachine :=
  let answered := serve call.now_ms sm
    (raft.handle_on_leader lib build call.session_key call.control_pubkey call.request)
  (answered.1.response, answered.2)

namespace StateMachine

variable {sm : StateMachine} {attested : Std.ExtTreeMap PcrKey ControlPubkey}

def consults : Op → Option PcrKey
  | .Register key _ => some key
  | .Transition _ new_key _ _ => some new_key
  | .Pin .. | .Revoke .. => none

theorem apply_attested {op : Op} (hsame : ∀ key ∈ consults op, attested[key]? = sm.attested[key]?) :
    { sm with attested := attested }.apply op = ((sm.apply op).1, { (sm.apply op).2 with attested := attested }) := by
  cases op with
  | Register key commitment =>
    simp only [apply, apply_register, hsame key rfl]
    cases sm.attested[key]? with
    | none => rfl
    | some control_pubkey =>
      by_cases hlive : sm.state.contains key = true
      · simp only [hlive, if_true]
      · by_cases hretired : sm.retired.contains key = true
        · simp only [hlive, hretired, if_true, Bool.false_eq_true, if_false]
        · simp only [hlive, hretired, Bool.false_eq_true, if_false]
  | Pin key expected_version commitment =>
    simp only [apply, apply_pin]
    cases sm.state[key]? with
    | none => rfl
    | some entry =>
      simp only
      split <;> rfl
  | Transition old_key new_key link_hash commitment =>
    have hrevoked : { sm with attested := attested }.is_revoked old_key link_hash = sm.is_revoked old_key link_hash :=
      rfl
    simp only [apply, apply_transition, hrevoked, hsame new_key rfl]
    split
    · rfl
    split
    · rfl
    split
    · rfl
    split
    · rfl
    split
    · rfl
    cases sm.attested[new_key]? with
    | none => rfl
    | some new_pubkey =>
      simp only
      split
      · rfl
      split
      · rfl
      cases sm.state[old_key]? <;> rfl
  | Revoke key link_hash =>
    simp only [apply, apply_revoke]
    by_cases hretired : sm.retired.contains key = true
    · simp only [hretired, if_true]
    · simp only [hretired, Bool.false_eq_true, if_false]
      cases sm.state[key]? <;> rfl

theorem apply_keeps_attested (op : Op) : (sm.apply op).2.attested = sm.attested :=
  congrArg (·.2.attested) (@apply_attested sm sm.attested op fun _ _ => rfl)

end StateMachine

theorem Node.handle_request_attested {DateTime : Type} {lib : LinkLibrary DateTime} {build : Build}
    {inner : StateMachine} {session_key : PcrKey} {now_ms : Except String UInt64} {request : Request} :
    (handle_request lib build inner session_key now_ms request).2.attested = inner.attested := by
  have happly (sm : StateMachine) (op : Op) : ∀ applied, sm.apply op = applied → applied.2.attested = sm.attested := by
    rintro _ rfl
    exact sm.apply_keeps_attested op
  cases request with
  | Get key =>
    simp only [handle_request, handle_get]
    split <;> [rfl; split <;> rfl]
  | Register key commitment =>
    simp only [handle_request, handle_register]
    split <;> [rfl; (split <;> exact happly _ _ _ ‹_›)]
  | Pin key expected_version commitment =>
    simp only [handle_request, handle_pin]
    split <;> [rfl; (split <;> exact happly _ _ _ ‹_›)]
  | Transition link commitment =>
    simp only [handle_request, handle_transition]
    repeat' split
    all_goals first | rfl | exact happly _ _ _ ‹_›
  | Revoke link =>
    simp only [handle_request, handle_revoke]
    repeat' split
    all_goals first | rfl | exact happly _ _ _ ‹_›

section Refinement

variable {DateTime : Type} {lib : LinkLibrary DateTime} {build : Build}

def SameViews (node cluster : StateMachine) : Prop := { node with attested := cluster.attested } = cluster

theorem SameViews.get {node cluster : StateMachine} (h : SameViews node cluster) (key : PcrKey) :
    cluster.get key = node.get key := by
  rw [← h]
  rfl

theorem SameViews.apply {node cluster : StateMachine} (h : SameViews node cluster) (op : Op)
    (hsame : ∀ key ∈ StateMachine.consults op, cluster.attested[key]? = node.attested[key]?) :
    (node.apply op).1 = (cluster.apply op).1 ∧ SameViews (node.apply op).2 (cluster.apply op).2 := by
  have happly := @StateMachine.apply_attested node cluster.attested op hsame
  rw [h] at happly
  rw [happly]
  exact ⟨rfl, rfl⟩

theorem SameViews.observe_cluster {node cluster : StateMachine} (h : SameViews node cluster) (key : PcrKey)
    (control_pubkey : ControlPubkey) : SameViews node (cluster.observe_attestation key control_pubkey) := by
  rw [← h]
  rfl

theorem SameViews.observe_transition {node cluster : StateMachine} (h : SameViews node cluster)
    (old_key new_key : PcrKey) :
    SameViews (node.observe_transition old_key new_key) (cluster.observe_transition old_key new_key) := by
  rw [← h]
  rfl

variable {node cluster : StateMachine} {call : SessionCall}

def Alike (lib : LinkLibrary DateTime) (build : Build) (node cluster : StateMachine) (call : SessionCall) : Prop :=
  (Node.handle_request lib build node call.session_key call.now_ms call.request).1 =
      (dispatch_on_leader lib build cluster call).1 ∧
    SameViews (Node.handle_request lib build node call.session_key call.now_ms call.request).2
      (dispatch_on_leader lib build cluster call).2

variable {session_key key : PcrKey} {control_pubkey : ControlPubkey} {now_ms : Except String UInt64}
  {commitment : Commitment}

theorem get_alike (h : SameViews node cluster) :
    Alike lib build node cluster ⟨session_key, control_pubkey, now_ms, .Get key⟩ := by
  simp only [Alike, Node.handle_request, Node.handle_get, ← h.get key, dispatch_on_leader, raft.handle_on_leader,
    raft.handle_get]
  split
  · exact ⟨rfl, h⟩
  · simp only [raft.RaftHandle.linearizable_get, Program.bind, serve]
    cases cluster.get key <;> exact ⟨rfl, h⟩

theorem register_alike (h : SameViews node cluster) (hattested : node.attested[session_key]? = some control_pubkey) :
    Alike lib build node cluster ⟨session_key, control_pubkey, now_ms, .Register key commitment⟩ := by
  simp only [Alike, Node.handle_request, Node.handle_register, dispatch_on_leader, raft.handle_on_leader,
    raft.handle_register]
  by_cases hkey : key = session_key
  · subst hkey
    obtain ⟨hresult, hviews⟩ := (h.observe_cluster key control_pubkey).apply (.Register key commitment) (by
      rintro _ ⟨⟩
      rw [StateMachine.observe_attestation_attested, hattested])
    simp only [ne_eq, not_true_eq_false, if_false, raft.RaftHandle.client_write, Program.bind, serve, apply_one]
    rw [← hresult]
    generalize node.apply (.Register key commitment) = applied at hviews ⊢
    obtain ⟨result, inner⟩ := applied
    cases result <;> exact ⟨rfl, hviews⟩
  · simp only [ne_eq, hkey, not_false_eq_true, if_true]
    exact ⟨rfl, h⟩

theorem pin_alike (h : SameViews node cluster) {expected_version : Version} :
    Alike lib build node cluster ⟨session_key, control_pubkey, now_ms, .Pin key expected_version commitment⟩ := by
  simp only [Alike, Node.handle_request, Node.handle_pin, dispatch_on_leader, raft.handle_on_leader, raft.handle_pin]
  by_cases hkey : key = session_key
  · subst hkey
    obtain ⟨hresult, hviews⟩ := h.apply (.Pin key expected_version commitment) (by simp [StateMachine.consults])
    simp only [ne_eq, not_true_eq_false, if_false, raft.RaftHandle.client_write, Program.bind, serve, apply_one]
    rw [← hresult]
    generalize node.apply (.Pin key expected_version commitment) = applied at hviews ⊢
    obtain ⟨result, inner⟩ := applied
    cases result <;> exact ⟨rfl, hviews⟩
  · simp only [ne_eq, hkey, not_false_eq_true, if_true]
    exact ⟨rfl, h⟩

theorem revoke_alike (h : SameViews node cluster) {link : ChainLink} :
    Alike lib build node cluster ⟨session_key, control_pubkey, now_ms, .Revoke link⟩ := by
  simp only [Alike, Node.handle_request, Node.handle_revoke, ← h.get session_key, dispatch_on_leader,
    raft.handle_on_leader, raft.handle_revoke, serve]
  cases cluster.get session_key with
  | none => exact ⟨rfl, h⟩
  | some state =>
    simp only
    cases verify_revocation_link lib link state.control_pubkey with
    | error error => exact ⟨rfl, h⟩
    | ok verified =>
      obtain ⟨hresult, hviews⟩ := h.apply (.Revoke session_key verified.link_hash) (by simp [StateMachine.consults])
      simp only [raft.RaftHandle.client_write, Program.bind, serve, apply_one]
      rw [← hresult]
      generalize node.apply (.Revoke session_key verified.link_hash) = applied at hviews ⊢
      obtain ⟨result, inner⟩ := applied
      cases result <;> exact ⟨rfl, hviews⟩

theorem transition_alike (h : SameViews node cluster) (hattested : node.attested[session_key]? = some control_pubkey)
    {now_ms : UInt64} {link : ChainLink} :
    Alike lib build node cluster ⟨session_key, control_pubkey, .ok now_ms, .Transition link commitment⟩ := by
  simp only [Alike, Node.handle_request, Node.handle_transition, dispatch_on_leader, raft.handle_on_leader,
    raft.handle_transition]
  cases hdecode : decode_transition_link lib link with
  | error error => exact ⟨rfl, h⟩
  | ok decoded =>
    simp only [← h.get decoded.old_key, serve]
    cases cluster.get decoded.old_key with
    | none => exact ⟨rfl, h⟩
    | some state =>
      simp only [serve]
      cases hverify : verify_transition_link lib build link decoded session_key state.control_pubkey now_ms with
      | error error => exact ⟨rfl, h⟩
      | ok verified =>
        obtain ⟨-, -, hsession, rfl⟩ := verify_transition_link_ok hdecode hverify
        obtain ⟨hresult, hviews⟩ := ((h.observe_cluster session_key control_pubkey).observe_transition
          decoded.old_key decoded.new_key).apply
          (.Transition decoded.old_key decoded.new_key (upgrade_link_hash link.payload) commitment) (by
            rintro _ ⟨⟩
            rw [StateMachine.observe_transition_attested, StateMachine.observe_transition_attested, hsession,
              StateMachine.observe_attestation_attested, hattested])
        simp only [raft.RaftHandle.client_write, Program.bind, serve, apply_one]
        rw [hsession] at hresult hviews ⊢
        rw [← hresult]
        generalize (node.observe_transition decoded.old_key session_key).apply
          (.Transition decoded.old_key session_key (upgrade_link_hash link.payload) commitment) = applied at hviews ⊢
        obtain ⟨result, inner⟩ := applied
        cases result with
        | ok state => exact ⟨rfl, hviews⟩
        | error error => cases error <;> exact ⟨rfl, hviews⟩

/-- Where there is no trusted time for a transition, its link is one for an upgrade from a registered key. -/
def SessionCall.Timely (lib : LinkLibrary DateTime) (inner : StateMachine) (call : SessionCall) : Prop :=
  ∀ link commitment error, call.request = .Transition link commitment → call.now_ms = .error error →
    ∃ decoded, decode_transition_link lib link = .ok decoded ∧ (inner.get decoded.old_key).isSome = true

/-- Without a trusted time both refuse, the leader after it has looked at the link. -/
theorem untimed_alike (h : SameViews node cluster) {error : String} {link : ChainLink} :
    let call : SessionCall := ⟨session_key, control_pubkey, .error error, .Transition link commitment⟩
    SameViews node (dispatch_on_leader lib build cluster call).2 ∧
      (Response.Err .Unavailable = (dispatch_on_leader lib build cluster call).1 ↔ call.Timely lib node) := by
  have htimely : (⟨session_key, control_pubkey, .error error, .Transition link commitment⟩ : SessionCall).Timely lib
      node ↔ ∃ decoded, decode_transition_link lib link = .ok decoded ∧
        (node.get decoded.old_key).isSome = true :=
    ⟨fun htimely => htimely _ _ _ rfl rfl, fun hlink _ _ _ hrequest _ => by cases hrequest; exact hlink⟩
  dsimp only
  rw [htimely]
  simp only [dispatch_on_leader, raft.handle_on_leader, raft.handle_transition]
  cases hdecode : decode_transition_link lib link with
  | error error => exact ⟨h, by simp [serve, raft.err, raft.Answered.new]⟩
  | ok decoded =>
    simp only [Except.ok.injEq, exists_eq_left', ← h.get decoded.old_key, serve]
    cases cluster.get decoded.old_key <;> exact ⟨h, by simp [serve, raft.err, raft.Answered.new]⟩

theorem request_alike (h : SameViews node cluster)
    (hattested : node.attested[call.session_key]? = some call.control_pubkey) :
    SameViews (Node.handle_request lib build node call.session_key call.now_ms call.request).2
        (dispatch_on_leader lib build cluster call).2 ∧
      ((Node.handle_request lib build node call.session_key call.now_ms call.request).1 =
        (dispatch_on_leader lib build cluster call).1 ↔ call.Timely lib node) := by
  have halike (hsame : Alike lib build node cluster call) (htimely : call.Timely lib node) :
      SameViews (Node.handle_request lib build node call.session_key call.now_ms call.request).2
          (dispatch_on_leader lib build cluster call).2 ∧
        ((Node.handle_request lib build node call.session_key call.now_ms call.request).1 =
          (dispatch_on_leader lib build cluster call).1 ↔ call.Timely lib node) :=
    ⟨hsame.2, fun _ => htimely, fun _ => hsame.1⟩
  obtain ⟨session_key, control_pubkey, now_ms, request⟩ := call
  cases request with
  | Get key => exact halike (get_alike h) (by simp [SessionCall.Timely])
  | Register key commitment => exact halike (register_alike h hattested) (by simp [SessionCall.Timely])
  | Pin key expected_version commitment => exact halike (pin_alike h) (by simp [SessionCall.Timely])
  | Revoke link => exact halike (revoke_alike h) (by simp [SessionCall.Timely])
  | Transition link commitment =>
    cases now_ms with
    | ok now_ms => exact halike (transition_alike h hattested) (by simp [SessionCall.Timely])
    | error error => exact untimed_alike h

open Node (Section)

def Node.Section.Timely (lib : LinkLibrary DateTime) (inner : StateMachine) : Section → Prop
  | .observe .. => True
  | .request call => call.Timely lib inner

/-- All sessions of a key announce one control pubkey, and every session has announced it before its request. -/
structure Announced (sections : List Section) : Prop where
  before : ∀ before call after, sections = before ++ .request call :: after →
    .observe call.session_key call.control_pubkey ∈ before
  same : ∀ key first second, .observe key first ∈ sections → .observe key second ∈ sections → first = second

theorem Announced.of_concat {sections : List Section} {last : Section} (h : Announced (sections ++ [last])) :
    Announced sections where
  before before call after hsplit := h.before before call (after ++ [last]) (by simp [hsplit])
  same key first second hfirst hsecond :=
    h.same key first second (List.mem_append_left _ hfirst) (List.mem_append_left _ hsecond)

theorem enter_attested {sections : List Section} (h : Announced sections) {control_pubkey : ControlPubkey}
    (hmem : .observe key control_pubkey ∈ sections) :
    (machine.run (Node.enter lib build) .new sections).attested[key]? = some control_pubkey := by
  induction sections using List.reverseRecOn with
  | nil => cases hmem
  | append_singleton sections last ih =>
    rw [machine.run_concat]
    cases last with
    | request call =>
      rw [Node.enter, Node.handle_request_attested]
      exact ih h.of_concat (by simpa using hmem)
    | observe other pubkey =>
      simp only [Node.enter, StateMachine.observe_attestation, Std.ExtTreeMap.getElem?_insert]
      split
      · next hsame =>
        obtain rfl := Std.LawfulEqCmp.eq_of_compare hsame
        exact congrArg some (h.same other _ _ (by simp) hmem)
      · next hother =>
        refine ih h.of_concat ?_
        rcases List.mem_append.mp hmem with hmem | hmem
        · exact hmem
        · cases List.mem_singleton.mp hmem
          exact absurd Std.ReflCmp.compare_self hother

theorem enter_alike {sections : List Section} (hannounced : Announced sections) :
    ((machine.results (Node.enter lib build) .new sections).filterMap id =
        machine.results (dispatch_on_leader lib build) .new (sections.filterMap Section.call?) ↔
      ∀ before entered after, sections = before ++ entered :: after →
        entered.Timely lib (machine.run (Node.enter lib build) .new before)) ∧
    SameViews (machine.run (Node.enter lib build) .new sections)
      (machine.run (dispatch_on_leader lib build) .new (sections.filterMap Section.call?)) := by
  -- from the end: what a request finds is the run over the sections before it
  induction sections using List.reverseRecOn with
  | nil => exact ⟨by simp, rfl⟩
  | append_singleton sections last ih =>
    obtain ⟨hresults, hviews⟩ := ih hannounced.of_concat
    rw [machine.forall_split_concat, ← hresults, machine.run_concat, machine.results_append, List.filterMap_append,
      List.filterMap_append]
    cases last with
    | observe key control_pubkey =>
      have hcall : [Section.observe key control_pubkey].filterMap Section.call? = [] := rfl
      rw [hcall, List.append_nil, Section.Timely, and_true]
      exact ⟨by simp [Node.enter], hviews⟩
    | request call =>
      have hattested := @enter_attested _ lib build _ _ hannounced.of_concat _ (hannounced.before sections call [] rfl)
      obtain ⟨hnext, hanswer⟩ := @request_alike _ lib build _ _ call hviews hattested
      have hcall : [Section.request call].filterMap Section.call? = [call] := rfl
      rw [hcall, machine.results_append, machine.run_concat]
      refine ⟨?_, hnext⟩
      rw [Section.Timely, ← hanswer]
      constructor
      · intro h
        obtain ⟨hbefore, hlast⟩ := List.append_inj' h rfl
        exact ⟨hbefore, (List.cons.inj hlast).1⟩
      · rintro ⟨hbefore, hlast⟩
        rw [hbefore]
        exact congrArg _ (congrArg (fun response => [response]) hlast)

/-- Over every interleaving of sessions of which all those of a key announce one control pubkey, the single node and
the leader of a cluster that commits every write end with the same heads, retired keys and revoked links, and they give
the same responses if and only if each transition without a trusted time has a link for an upgrade from a registered
key. -/
theorem node_answers_as_cluster_iff (lib : LinkLibrary DateTime) (build : Build) (sections : List Section)
    (hannounced : Announced sections) :
    ((machine.results (Node.enter lib build) .new sections).filterMap id =
        machine.results (dispatch_on_leader lib build) .new (sections.filterMap Section.call?) ↔
      ∀ before entered after, sections = before ++ entered :: after →
        entered.Timely lib (machine.run (Node.enter lib build) .new before)) ∧
    (machine.run (Node.enter lib build) .new sections).state =
      (machine.run (dispatch_on_leader lib build) .new (sections.filterMap Section.call?)).state ∧
    (machine.run (Node.enter lib build) .new sections).retired =
      (machine.run (dispatch_on_leader lib build) .new (sections.filterMap Section.call?)).retired ∧
    (machine.run (Node.enter lib build) .new sections).revoked_links =
      (machine.run (dispatch_on_leader lib build) .new (sections.filterMap Section.call?)).revoked_links := by
  obtain ⟨hresults, hviews⟩ := @enter_alike _ lib build sections hannounced
  refine ⟨hresults, ?_⟩
  rw [← hviews]
  exact ⟨rfl, rfl, rfl⟩

end Refinement

namespace sample

def register_call : SessionCall where
  session_key := raft.sample.old_key
  control_pubkey := Vector.replicate 65 4
  now_ms := .ok 2000000
  request := .Register raft.sample.old_key ⟨Vector.replicate 32 7⟩

def transition_call (now_ms : Except String UInt64) (link : ChainLink) : SessionCall where
  session_key := raft.sample.new_key
  control_pubkey := Vector.replicate 65 5
  now_ms
  request := .Transition link ⟨Vector.replicate 32 7⟩

def interleaved : List Node.Section :=
  [.observe raft.sample.old_key (Vector.replicate 65 4), .observe raft.sample.new_key (Vector.replicate 65 5),
    .request register_call, .request (transition_call (.ok 2000000) raft.sample.upgrade_link)]

theorem interleaved_announced : Announced interleaved where
  before before call after hsplit := by
    unfold interleaved at hsplit
    rcases before with _ | ⟨a, _ | ⟨b, _ | ⟨c, _ | ⟨d, rest⟩⟩⟩⟩ <;> simp at hsplit
    · obtain ⟨rfl, rfl, rfl, -⟩ := hsplit
      exact List.mem_cons_self
    · obtain ⟨rfl, rfl, rfl, rfl, -⟩ := hsplit
      exact List.mem_cons_of_mem _ List.mem_cons_self
  same key first second hfirst hsecond := by
    have hkeys : raft.sample.old_key ≠ raft.sample.new_key := by decide +kernel
    simp only [interleaved, List.mem_cons, reduceCtorEq, List.not_mem_nil, or_false] at hfirst hsecond
    grind

end sample

open sample in
/-- The new image attests before the old one has registered, and then takes its place. -/
theorem node_answers_as_cluster_iff_upgrade :
    (machine.results (Node.enter raft.sample.link_library ⟨false, false⟩) .new interleaved).filterMap id =
      machine.results (dispatch_on_leader raft.sample.link_library ⟨false, false⟩) .new
        [register_call, transition_call (.ok 2000000) raft.sample.upgrade_link] := by
  refine (node_answers_as_cluster_iff raft.sample.link_library ⟨false, false⟩ interleaved interleaved_announced).1.mpr
    ?_
  intro before entered after hsplit
  have hmem : entered ∈ interleaved := by simp [hsplit]
  simp only [interleaved, List.mem_cons, List.not_mem_nil, or_false] at hmem
  rcases hmem with rfl | rfl | rfl | rfl <;>
    simp [Node.Section.Timely, SessionCall.Timely, register_call, transition_call]

open sample in
/-- Without a trusted time, the node refuses a link before it has looked at it, and a leader after that: to a link that
is none for an upgrade, the answers differ. -/
theorem refusals_differ_without_time :
    let call := transition_call (.error "NSM unavailable") { raft.sample.upgrade_link with kind := .Boot }
    (machine.results (Node.enter raft.sample.link_library ⟨false, false⟩) .new (Node.dispatch call)).filterMap id =
      [.Err .Unavailable] ∧
    machine.results (dispatch_on_leader raft.sample.link_library ⟨false, false⟩) .new [call] =
      [.Err .TransitionRejected] :=
  ⟨rfl, rfl⟩

end enclavia.synchronizer
