import Enclavia.Synchronizer.Raft.Serve

open interaction enclavia.protocol enclavia.synchronizer.wire

namespace enclavia.synchronizer.raft

def MeshPayload.decode_forward_reply : MeshPayload → Option ForwardedClientResponse
  | .forward_reply reply => some reply
  | _ => none

def ForwardedClientResponse.into (resp : ForwardedClientResponse) : Answered := ⟨resp.response, resp.timed_out⟩

def Answered.into (answered : Answered) : ForwardedClientResponse := ⟨answered.response, answered.timed_out⟩

def FORWARD_MAX_RETRIES : Nat := 60

def FORWARD_RETRY_DELAY : Nat := 50

def FORWARD_CALL_TIMEOUT : Nat := COMMIT_TIMEOUT + 1

inductive CallOutcome where
  | reply (body : MeshPayload)
  | failed
  | elapsed

inductive RouteEffect where
  | is_leader
  | leader_name
  | serve (effect : ServeEffect)
  | call (leader : String) (message : MeshMessage) (timeout : Nat)
  | sleep (delay : Nat)

@[reducible] def RouteAnswer : RouteEffect → Type
  | .is_leader => Bool
  | .leader_name => Option String
  | .serve effect => ServeAnswer effect
  | .call _ _ _ => CallOutcome
  | .sleep _ => Unit

abbrev RouteProc := Program RouteEffect RouteAnswer

abbrev RouteEvent := Event RouteAnswer

def locally (program : ServeProc Answered) : RouteProc Answered := program.embed .serve fun _ answer => answer

def is_retryable (answered : Answered) : Bool :=
  !answered.timed_out && decide (answered.response = .Err .Unavailable)

inductive Forwarded where
  | Answer (answered : Answered)
  | Failed
  | TimedOut

def forward_to (leader : String) (session_key : PcrKey) (control_pubkey : ControlPubkey) (request : Request) :
    RouteProc Forwarded :=
  .act (.call leader (.ForwardClient ⟨session_key, control_pubkey, request⟩) FORWARD_CALL_TIMEOUT) fun
    | .reply body =>
      match body.decode_forward_reply with
      | some resp => .ret (.Answer resp.into)
      | none => .ret .Failed
    | .failed => .ret .Failed
    | .elapsed => .ret .TimedOut

variable {DateTime : Type} (lib : LinkLibrary DateTime) (build : Build)

def route_with_retries (session_key : PcrKey) (control_pubkey : ControlPubkey) (request : Request) :
    Nat → RouteProc Answered
  | 0 => .ret (.new (.Err .Unavailable))
  | attempts + 1 =>
    let retry : RouteProc Answered := .act (.sleep FORWARD_RETRY_DELAY) fun _ =>
      route_with_retries session_key control_pubkey request attempts
    .act .is_leader fun
      | true =>
        (locally (handle_on_leader lib build session_key control_pubkey request)).bind fun answered =>
          if !is_retryable answered then .ret answered else retry
      | false => .act .leader_name fun
        | none => retry
        | some leader =>
          (forward_to leader session_key control_pubkey request).bind fun
            | .Answer answered => if !is_retryable answered then .ret answered else retry
            | .Failed => retry
            | .TimedOut => .ret .deadline_elapsed

variable {lib build}

def request_op (lib : LinkLibrary DateTime) (session_key : PcrKey) (control_pubkey : ControlPubkey) :
    Request → Option ReplicatedOp
  | .Get _ => none
  | .Register key commitment => some (.Register key commitment control_pubkey)
  | .Pin key expected_version commitment => some (.Pin key expected_version commitment)
  | .Transition link commitment =>
    match decode_transition_link lib link, decode_canonical lib.upgrades link.payload with
    | .ok decoded, .ok payload =>
      some (.Transition decoded.old_key decoded.new_key control_pubkey (upgrade_link_hash link.payload)
        (lib.chrono.timestamp_millis payload.valid_until) commitment)
    | _, _ => none
  | .Revoke link =>
    match decode_canonical lib.revocations link.payload with
    | .ok payload => some (.Revoke session_key payload.revokes_link)
    | .error _ => none

def Acknowledges : Response → Prop
  | .RegisterOk => True
  | .PinOk _ => True
  | .TransitionOk _ => True
  | _ => False

def Grants : Request → Response → KeyState → Prop
  | .Register _ _, .RegisterOk, _ => True
  | .Pin _ _ _, .PinOk version, state => version = state.version
  | .Transition _ _, .TransitionOk version, state => version = state.version
  | _, _, _ => False

def ServeElapsed : ServeEvent → Prop
  | ⟨.client_write _, .elapsed⟩ => True
  | ⟨.ensure_linearizable, .elapsed⟩ => True
  | _ => False

def ServeRelies (applied : KeyState → Prop) (effect : ServeEffect) (answer : ServeAnswer effect) : Prop :=
  ∀ op state, (⟨effect, answer⟩ : ServeEvent) = ⟨.client_write op, .committed (.Applied state)⟩ → applied state

/-- What a handler promises: it submits `op` only, it acknowledges its request only by a state in which
`op` was applied, and it is over with a timed-out answer once a deadline has elapsed. -/
structure Serves (op : Option ReplicatedOp) (request : Request) (program : ServeProc Answered) : Prop where
  submits : program.Obeys (fun _ _ => True) fun
    | .client_write submitted => op = some submitted
    | _ => True
  grants : ∀ applied : KeyState → Prop, program.Yields (ServeRelies applied) fun answered =>
    Acknowledges answered.response → ∃ state, applied state ∧ Grants request answered.response state
  stops : program.Stops ServeElapsed fun answered => answered.timed_out = true

variable {op : Option ReplicatedOp} {request : Request} {answered : Answered} {fwd : ForwardedClientRequest}
  {effect : RouteEffect}

theorem Serves.ret
    (h : ¬Acknowledges answered.response) : Serves op request (.ret answered) :=
  ⟨trivial, fun _ hok => absurd hok h, trivial⟩

theorem Serves.read {effect : ServeEffect}
    {next : ServeAnswer effect → ServeProc Answered} (hread : effect = .now_ms ∨ ∃ key, effect = .get key)
    (hnext : ∀ answer, Serves op request (next answer)) : Serves op request (.act effect next) := by
  refine ⟨⟨?_, fun answer _ => (hnext answer).submits⟩, fun applied answer _ => (hnext answer).grants applied,
    fun answer => ⟨?_, (hnext answer).stops⟩⟩
  · obtain rfl | ⟨key, rfl⟩ := hread <;> trivial
  · obtain rfl | ⟨key, rfl⟩ := hread <;> exact False.elim

theorem Serves.client_write {op : ReplicatedOp}
    {next : Except RaftHandleError KeyState → ServeProc Answered}
    (hok : ∀ state, ∃ answered, next (.ok state) = .ret answered ∧
      (Acknowledges answered.response → Grants request answered.response state))
    (herror : ∀ error, ∃ answered, next (.error error) = .ret answered ∧ ¬Acknowledges answered.response ∧
      ∀ timeout, error = .CommitTimeout timeout → answered.timed_out = true) :
    Serves (some op) request ((RaftHandle.client_write op).bind next) := by
  choose granted hgranted hgrants using hok
  choose refused hrefused hrefusal htimeout using herror
  obtain rfl : next = fun
      | .ok state => .ret (granted state)
      | .error error => .ret (refused error) := by
    funext result
    cases result with
    | ok state => exact hgranted state
    | error error => exact hrefused error
  refine ⟨⟨rfl, ?_⟩, fun applied => ?_, ?_⟩
  · intro outcome _
    match outcome with
    | .committed (.Applied state) => trivial
    | .committed (.Rejected error) => trivial
    | .failed message => trivial
    | .elapsed => trivial
  · intro outcome hrely
    match outcome with
    | .committed (.Applied state) => exact fun hacknowledges => ⟨state, hrely op state rfl, hgrants state hacknowledges⟩
    | .committed (.Rejected error) => exact fun hacknowledges => absurd hacknowledges (hrefusal _)
    | .failed message => exact fun hacknowledges => absurd hacknowledges (hrefusal _)
    | .elapsed => exact fun hacknowledges => absurd hacknowledges (hrefusal _)
  · intro outcome
    match outcome with
    | .committed (.Applied state) => exact ⟨False.elim, trivial⟩
    | .committed (.Rejected error) => exact ⟨False.elim, trivial⟩
    | .failed message => exact ⟨False.elim, trivial⟩
    | .elapsed => exact ⟨fun _ => ⟨_, rfl, htimeout _ _ rfl⟩, trivial⟩

theorem handle_get_serves (op : Option ReplicatedOp) (session_key key : PcrKey) :
    Serves op (.Get key) (handle_get session_key key) := by
  unfold handle_get
  split
  · exact .ret id
  refine ⟨⟨trivial, ?_⟩, fun applied => ?_, ?_⟩
  · intro outcome _
    match outcome with
    | .linearizable => exact ⟨trivial, fun state _ => by cases state <;> trivial⟩
    | .failed message => trivial
    | .elapsed => trivial
  · intro outcome _
    match outcome with
    | .linearizable => exact fun state _ => by cases state <;> exact False.elim
    | .failed message => exact False.elim
    | .elapsed => exact False.elim
  · intro outcome
    match outcome with
    | .linearizable => exact ⟨False.elim, fun state => ⟨False.elim, by cases state <;> trivial⟩⟩
    | .failed message => exact ⟨False.elim, trivial⟩
    | .elapsed => exact ⟨fun _ => ⟨_, rfl, rfl⟩, trivial⟩

theorem handle_transition_serves (session_key : PcrKey) (control_pubkey : ControlPubkey) (link : ChainLink)
    (commitment : Commitment) :
    Serves (request_op lib session_key control_pubkey (.Transition link commitment)) (.Transition link commitment)
      (handle_transition lib build session_key control_pubkey link commitment) := by
  unfold handle_transition
  cases hdecoded : decode_transition_link lib link with
  | error error => exact .ret id
  | ok decoded =>
    refine .read (.inr ⟨_, rfl⟩) fun answer => ?_
    cases answer with
    | none => exact .ret id
    | some state =>
      refine .read (.inl rfl) fun answer => ?_
      cases answer with
      | error message => exact .ret id
      | ok now_ms =>
        dsimp only
        cases hverified : verify_transition_link lib build link decoded session_key state.control_pubkey now_ms with
        | error error => exact .ret id
        | ok verified =>
          obtain ⟨payload, hauthorizes, -, rfl⟩ := verify_transition_link_ok hdecoded hverified
          have hop : request_op lib session_key control_pubkey (.Transition link commitment) =
              some (.Transition decoded.old_key decoded.new_key control_pubkey (upgrade_link_hash link.payload)
                (lib.chrono.timestamp_millis payload.valid_until) commitment) := by
            simp only [request_op, hdecoded,
              decode_canonical_ok.mpr ⟨hauthorizes.decodes, hauthorizes.canonical.symm⟩]
          rw [hop]
          refine .client_write (fun state => ⟨_, rfl, fun _ => rfl⟩) fun error => ?_
          cases error with
          | Rejected error => cases error <;> exact ⟨_, rfl, id, nofun⟩
          | CommitTimeout timeout => exact ⟨_, rfl, id, fun _ _ => rfl⟩
          | _ => exact ⟨_, rfl, id, nofun⟩

theorem handle_revoke_serves (session_key : PcrKey) (control_pubkey : ControlPubkey) (link : ChainLink) :
    Serves (request_op lib session_key control_pubkey (.Revoke link)) (.Revoke link)
      (handle_revoke lib session_key link) := by
  refine .read (.inr ⟨_, rfl⟩) fun answer => ?_
  cases answer with
  | none => exact .ret id
  | some state =>
    dsimp only
    cases hverified : verify_revocation_link lib link state.control_pubkey with
    | error error => exact .ret id
    | ok verified =>
      obtain ⟨payload, hdecoded, rfl⟩ := verify_revocation_link_ok hverified
      have hop : request_op lib session_key control_pubkey (.Revoke link) =
          some (.Revoke session_key payload.revokes_link) := by
        simp only [request_op, hdecoded]
      rw [hop]
      refine .client_write (fun state => ⟨_, rfl, False.elim⟩) fun error => ?_
      cases error with
      | CommitTimeout timeout => exact ⟨_, rfl, id, fun _ _ => rfl⟩
      | _ => exact ⟨_, rfl, id, nofun⟩

theorem handle_on_leader_serves (session_key : PcrKey) (control_pubkey : ControlPubkey) (request : Request) :
    Serves (request_op lib session_key control_pubkey request) request
      (handle_on_leader lib build session_key control_pubkey request) := by
  cases request with
  | Get key => exact handle_get_serves _ session_key key
  | Register key commitment =>
    simp only [handle_on_leader, handle_register]
    split
    · exact .ret id
    · refine .client_write (fun state => ⟨_, rfl, fun _ => trivial⟩) fun error => ?_
      cases error with
      | CommitTimeout timeout => exact ⟨_, rfl, id, fun _ _ => rfl⟩
      | _ => exact ⟨_, rfl, id, nofun⟩
  | Pin key expected_version commitment =>
    simp only [handle_on_leader, handle_pin]
    split
    · exact .ret id
    · refine .client_write (fun state => ⟨_, rfl, fun _ => rfl⟩) fun error => ?_
      cases error with
      | CommitTimeout timeout => exact ⟨_, rfl, id, fun _ _ => rfl⟩
      | _ => exact ⟨_, rfl, id, nofun⟩
  | Transition link commitment => exact handle_transition_serves session_key control_pubkey link commitment
  | Revoke link => exact handle_revoke_serves session_key control_pubkey link

def RouteTimedOut : RouteEvent → Prop
  | ⟨.serve effect, answer⟩ => ServeElapsed ⟨effect, answer⟩
  | ⟨.call _ _ _, .reply body⟩ => ∃ resp, body.decode_forward_reply = some resp ∧ resp.timed_out = true
  | ⟨.call _ _ _, .elapsed⟩ => True
  | _ => False

/-- A write is reported as applied, or a reply acknowledges the request, only with a state of `applied`. -/
structure RouteRelies (request : Request) (applied : KeyState → Prop) (effect : RouteEffect)
    (answer : RouteAnswer effect) : Prop where
  write : ∀ op state, (⟨effect, answer⟩ : RouteEvent) = ⟨.serve (.client_write op), .committed (.Applied state)⟩ →
    applied state
  reply : ∀ leader message timeout resp,
    (⟨effect, answer⟩ : RouteEvent) = ⟨.call leader message timeout, .reply (.forward_reply resp)⟩ →
    Acknowledges resp.response → ∃ state, applied state ∧ Grants request resp.response state

theorem RouteRelies.mono {applied applied' : KeyState → Prop} (hmono : ∀ state, applied state → applied' state)
    {answer : RouteAnswer effect} (h : RouteRelies request applied effect answer) :
    RouteRelies request applied' effect answer where
  write op state hevent := hmono state (h.write op state hevent)
  reply leader message timeout resp hevent hacknowledges := by
    obtain ⟨state, happlied, hgrants⟩ := h.reply leader message timeout resp hevent hacknowledges
    exact ⟨state, hmono state happlied, hgrants⟩

/-- What the routing of a request promises: it submits and forwards nothing else, it acknowledges the
request only by a state in which its entry was applied, and it makes no further attempt once one has
timed out. -/
structure Routes (op : Option ReplicatedOp) (fwd : ForwardedClientRequest) (program : RouteProc Answered) :
    Prop where
  submits : program.Obeys (fun _ _ => True) fun
    | .serve (.client_write submitted) => op = some submitted
    | .call _ message _ => message = .ForwardClient fwd
    | _ => True
  grants : ∀ applied : KeyState → Prop, program.Yields (RouteRelies fwd.request applied) fun answered =>
    Acknowledges answered.response → ∃ state, applied state ∧ Grants fwd.request answered.response state
  stops : program.Stops RouteTimedOut fun answered => answered.timed_out = true

theorem Serves.routes {program : ServeProc Answered}
    (h : Serves op fwd.request program) : Routes op fwd (locally program) where
  submits := h.submits.embed fun effect hsubmits => by cases effect <;> exact hsubmits
  grants applied := by
    refine Program.Yields.embed (f := RouteEffect.serve) ?_ (h.grants applied)
    rintro effect answer hrely op state ⟨⟩
    exact hrely.write op state rfl
  stops := Program.Stops.embed (f := RouteEffect.serve) (fun _ _ hfinal => hfinal) h.stops

theorem Routes.ret
    (h : ¬Acknowledges answered.response) : Routes op fwd (.ret answered) :=
  ⟨trivial, fun _ hok => absurd hok h, trivial⟩

theorem Routes.act {next : RouteAnswer effect → RouteProc Answered}
    (heffect : effect = .is_leader ∨ effect = .leader_name ∨ ∃ delay, effect = .sleep delay)
    (hnext : ∀ answer, Routes op fwd (next answer)) : Routes op fwd (.act effect next) := by
  refine ⟨⟨?_, fun answer _ => (hnext answer).submits⟩, fun applied answer _ => (hnext answer).grants applied,
    fun answer => ⟨?_, (hnext answer).stops⟩⟩
  · obtain rfl | rfl | ⟨delay, rfl⟩ := heffect <;> trivial
  · obtain rfl | rfl | ⟨delay, rfl⟩ := heffect <;> exact False.elim

theorem is_retryable_of_timed_out (h : answered.timed_out = true) :
    is_retryable answered = false := by
  simp [is_retryable, h]

theorem Routes.attempt
    {program retry : RouteProc Answered} (hprogram : Routes op fwd program) (hretry : Routes op fwd retry) :
    Routes op fwd (program.bind fun answered => if !is_retryable answered then .ret answered else retry) where
  submits := hprogram.submits.bind fun answered => by
    split
    · trivial
    · exact hretry.submits
  grants applied := (hprogram.grants applied).bind fun answered hanswered => by
    split
    · exact hanswered
    · exact hretry.grants applied
  stops := by
    refine hprogram.stops.bind (fun answered htimed => ⟨answered, ?_, htimed⟩) fun answered => ?_
    · simp only [is_retryable_of_timed_out htimed, Bool.not_false, if_true]
    · split
      · trivial
      · exact hretry.stops

def Forwarded.Over : Forwarded → Prop
  | .Answer answered => answered.timed_out = true
  | .Failed => False
  | .TimedOut => True

/-- An answer that acknowledges the request does so by a state of `applied`. -/
def Forwarded.Sound (request : Request) (applied : KeyState → Prop) : Forwarded → Prop
  | .Answer answered => Acknowledges answered.response →
    ∃ state, applied state ∧ Grants request answered.response state
  | _ => True

section ForwardTo

variable (leader : String) (fwd : ForwardedClientRequest)

theorem forward_to_sound (applied : KeyState → Prop) :
    (forward_to leader fwd.session_key fwd.control_pubkey fwd.request).Yields (RouteRelies fwd.request applied)
      (Forwarded.Sound fwd.request applied) := by
  intro outcome hrely
  match outcome with
  | .reply (.forward_reply resp) => exact hrely.reply _ _ _ resp rfl
  | .reply (.request _) => trivial
  | .reply (.raft_reply _) => trivial
  | .reply (.join_reply _) => trivial
  | .reply (.undecodable _) => trivial
  | .failed => trivial
  | .elapsed => trivial

theorem forward_to_over :
    (forward_to leader fwd.session_key fwd.control_pubkey fwd.request).Stops RouteTimedOut Forwarded.Over := by
  intro outcome
  match outcome with
  | .reply (.forward_reply resp) =>
    refine ⟨?_, trivial⟩
    rintro ⟨resp', hresp, htimed⟩
    cases hresp
    exact ⟨_, rfl, htimed⟩
  | .reply (.request _) => exact ⟨nofun, trivial⟩
  | .reply (.raft_reply _) => exact ⟨nofun, trivial⟩
  | .reply (.join_reply _) => exact ⟨nofun, trivial⟩
  | .reply (.undecodable _) => exact ⟨nofun, trivial⟩
  | .failed => exact ⟨nofun, trivial⟩
  | .elapsed => exact ⟨fun _ => ⟨_, rfl, trivial⟩, trivial⟩

end ForwardTo

theorem Routes.forward {op : Option ReplicatedOp} {fwd : ForwardedClientRequest} {leader : String}
    {retry : RouteProc Answered} (hretry : Routes op fwd retry) :
    Routes op fwd ((forward_to leader fwd.session_key fwd.control_pubkey fwd.request).bind fun
      | .Answer answered => if !is_retryable answered then .ret answered else retry
      | .Failed => retry
      | .TimedOut => .ret .deadline_elapsed) := by
  have hanswer : ∀ {answered : Answered} {P : RouteProc Answered → Prop}, P (.ret answered) → P retry →
      P (if !is_retryable answered then .ret answered else retry) := by
    intro answered P hret hretry
    split
    · exact hret
    · exact hretry
  refine ⟨Program.Obeys.bind ⟨rfl, fun outcome _ => ?_⟩ fun forwarded => ?_, fun applied =>
    (forward_to_sound leader fwd applied).bind fun forwarded hsound => ?_,
    (forward_to_over leader fwd).bind (fun forwarded hover => ?_) fun forwarded => ?_⟩
  · cases outcome with
    | reply body => cases body <;> trivial
    | failed | elapsed => trivial
  · cases forwarded with
    | Answer answered => exact hanswer trivial hretry.submits
    | Failed => exact hretry.submits
    | TimedOut => trivial
  · cases forwarded with
    | Answer answered => exact hanswer hsound (hretry.grants applied)
    | Failed => exact hretry.grants applied
    | TimedOut => exact False.elim
  · cases forwarded with
    | Answer answered =>
      refine ⟨answered, ?_, hover⟩
      simp only [is_retryable_of_timed_out hover, Bool.not_false, if_true]
    | Failed => exact hover.elim
    | TimedOut => exact ⟨_, rfl, rfl⟩
  · cases forwarded with
    | Answer answered => exact hanswer trivial hretry.stops
    | Failed => exact hretry.stops
    | TimedOut => trivial

theorem route_with_retries_routes (session_key : PcrKey) (control_pubkey : ControlPubkey) (request : Request)
    (attempts : Nat) :
    Routes (request_op lib session_key control_pubkey request) ⟨session_key, control_pubkey, request⟩
      (route_with_retries lib build session_key control_pubkey request attempts) := by
  induction attempts with
  | zero => exact .ret id
  | succ attempts ih =>
    have hretry : Routes (request_op lib session_key control_pubkey request) ⟨session_key, control_pubkey, request⟩
        (.act (.sleep FORWARD_RETRY_DELAY) fun _ =>
          route_with_retries lib build session_key control_pubkey request attempts) :=
      .act (.inr (.inr ⟨_, rfl⟩)) fun _ => ih
    refine .act (.inl rfl) fun leads => ?_
    cases leads with
    | true => exact .attempt (handle_on_leader_serves session_key control_pubkey request).routes hretry
    | false =>
      refine .act (.inr (.inl rfl)) fun leader => ?_
      cases leader with
      | none => exact hretry
      | some leader => exact .forward hretry

end enclavia.synchronizer.raft
