import Enclavia.Synchronizer.Raft.Network
import Enclavia.Synchronizer.Raft.ViewSteps

open interaction enclavia.synchronizer enclavia.synchronizer.wire

namespace enclavia.nbd_client

def SYNC_RPC_TIMEOUT : String := "30s"

inductive SessionError where
  | Io (error : String)
  | ConnectionClosed
  | Transport (text : String)

inductive ClientError where
  | Io (error : String)
  | ConnectionClosed
  | Transport (text : String)
  | Rpc (error : RpcError)
  | UnexpectedResponse (expected : String)

def ClientError.of_session : SessionError → ClientError
  | .Io error => .Io error
  | .ConnectionClosed => .ConnectionClosed
  | .Transport text => .Transport text

def rpc_error_text : RpcError → String
  | .Unauthorized => "session is not authorized for this key"
  | .NotFound => "key not found"
  | .AlreadyRegistered => "key already registered"
  | .TransitionRejected => "transition rejected"
  | .OperationRejected => "operation rejected"
  | .VersionConflict => "pin version conflict"
  | .Unavailable => "synchronizer cluster unavailable"
  | .TransitionRevoked => "transition link revoked"
  | .RevocationRejected => "revocation rejected"
  | .TransitionCommitmentMismatch => "transition commitment does not match the pinned state"

def ClientError.message : ClientError → String
  | .Io error => s!"io: {error}"
  | .ConnectionClosed => "connection closed by server"
  | .Rpc error => s!"rpc error: {rpc_error_text error}"
  | .UnexpectedResponse expected => s!"unexpected response variant: {expected}"
  | .Transport text => text

inductive SessionEffect where
  | rpc (request : Request)
  | upgrade_link
  | now (since : Nat)
  | sleep (since delay : Nat)
  | reconnect

@[reducible] def SessionAnswer : SessionEffect → Type
  | .rpc _ => Option (Except SessionError Response)
  | .upgrade_link => Option ChainLink
  | .now since => { time : Nat // since ≤ time }
  | .sleep since delay => { time : Nat // since + delay ≤ time }
  | .reconnect => Except String PcrKey

abbrev SessionProc := Program SessionEffect SessionAnswer

abbrev SessionEvent := Event SessionAnswer

variable {answer : Option (Except SessionError Response)}

namespace Client

def result {α : Type} (expected : String) (accept : Response → Option α) :
    Option (Except SessionError Response) → Option (Except ClientError α)
  | none => none
  | some (.error error) => some (.error (.of_session error))
  | some (.ok (.Err error)) => some (.error (.Rpc error))
  | some (.ok response) =>
    match accept response with
    | some value => some (.ok value)
    | none => some (.error (.UnexpectedResponse expected))

def call {α : Type} (request : Request) (expected : String) (accept : Response → Option α) :
    SessionProc (Option (Except ClientError α)) :=
  .act (.rpc request) fun answer => .ret (result expected accept answer)

def get (key : PcrKey) : SessionProc (Option (Except ClientError (Commitment × Version))) :=
  call (.Get key) "expected GetOk" fun
    | .GetOk commitment version => some (commitment, version)
    | _ => none

def register (key : PcrKey) (commitment : Commitment) : SessionProc (Option (Except ClientError Unit)) :=
  call (.Register key commitment) "expected RegisterOk" fun
    | .RegisterOk => some ()
    | _ => none

def pin (key : PcrKey) (expected_version : Version) (commitment : Commitment) :
    SessionProc (Option (Except ClientError Version)) :=
  call (.Pin key expected_version commitment) "expected PinOk" fun
    | .PinOk version => some version
    | _ => none

def transition (link : ChainLink) (commitment : Commitment) : SessionProc (Option (Except ClientError Version)) :=
  call (.Transition link commitment) "expected TransitionOk" fun
    | .TransitionOk version => some version
    | _ => none

variable {trace : List SessionEvent}

section Calls

variable {α : Type} {request : Request} {expected : String} {accept : Response → Option α} {error : RpcError}

theorem result_ok {value : α} :
    result expected accept answer = some (.ok value) ↔
      ∃ response, answer = some (.ok response) ∧ (∀ error, response ≠ .Err error) ∧ accept response = some value := by
  constructor
  · intro h
    match answer with
    | none => cases h
    | some (.error error) => cases h
    | some (.ok response) =>
      cases response with
      | Err error => cases h
      | _ =>
        refine ⟨_, rfl, nofun, ?_⟩
        simp only [result] at h
        split at h
        · cases h
          assumption
        · cases h
  · rintro ⟨response, rfl, herr, haccept⟩
    cases response with
    | Err error => exact absurd rfl (herr error)
    | _ => simp only [result, haccept]

theorem result_rpc :
    result expected accept answer = some (.error (.Rpc error)) ↔ answer = some (.ok (.Err error)) := by
  constructor
  · intro h
    match answer with
    | none => cases h
    | some (.error error) => cases error <;> cases h
    | some (.ok response) =>
      cases response with
      | Err error =>
        cases h
        rfl
      | _ =>
        simp only [result] at h
        split at h <;> cases h
  · rintro rfl
    rfl

theorem call_returns {value : Option (Except ClientError α)} :
    (call request expected accept).Returns trace value ↔
      ∃ answer, trace = [⟨.rpc request, answer⟩] ∧ result expected accept answer = value := by
  rw [call, Program.returns_act]
  constructor
  · rintro ⟨answer, rest, rfl, hrest⟩
    obtain ⟨rfl, hvalue⟩ := Program.returns_ret.mp hrest
    exact ⟨answer, rfl, hvalue⟩
  · rintro ⟨answer, rfl, rfl⟩
    exact ⟨answer, [], rfl, .nil _⟩

theorem call_returns_rpc :
    (call request expected accept).Returns trace (some (.error (.Rpc error))) ↔
      trace = [⟨.rpc request, some (.ok (.Err error))⟩] := by
  simp only [call_returns, result_rpc]
  constructor
  · rintro ⟨answer, rfl, rfl⟩
    rfl
  · intro h
    exact ⟨_, h, rfl⟩

theorem get_returns_ok {key : PcrKey} {commitment : Commitment} {version : Version} :
    (get key).Returns trace (some (.ok (commitment, version))) ↔
      trace = [⟨.rpc (.Get key), some (.ok (.GetOk commitment version))⟩] := by
  simp only [get, call_returns, result_ok]
  constructor
  · rintro ⟨_, rfl, response, rfl, -, haccept⟩
    cases response <;> cases haccept
    rfl
  · intro h
    exact ⟨_, h, _, rfl, nofun, rfl⟩

end Calls

end Client

inductive PinFailure where
  | Fatal
  | Session
  | Unavailable

def pin_error_is_retryable : ClientError → Bool
  | .Io _ => true
  | .ConnectionClosed => true
  | _ => false

def pin_error_is_unavailable : ClientError → Bool
  | .Rpc .Unavailable => true
  | _ => false

def classify_pin_error (error : ClientError) : PinFailure :=
  if pin_error_is_unavailable error then .Unavailable
  else if pin_error_is_retryable error then .Session
  else .Fatal

def disambiguate_conflict (key : PcrKey) (commitment : Bytes32) : SessionProc (Except (PinFailure × String) Version) :=
  (Client.get key).bind fun
    | some (.ok (current, version)) =>
      if current = ⟨commitment⟩ then .ret (.ok version)
      else .ret (.error (.Fatal, (s!"pin version conflict and the cluster holds a DIFFERENT commitment (version " ++
        s!"{version.val}): a second live writer is pinning this key — volume fork detected, refusing to serve")))
    | some (.error error) =>
      .ret (.error (classify_pin_error error, s!"conflict-disambiguation Get failed: {error.message}"))
    | none => .ret (.error (.Session, "conflict-disambiguation Get timed out (synchronizer unreachable)"))

def pin_once_on (key : PcrKey) (expected : Version) (commitment : Bytes32) :
    SessionProc (Except (PinFailure × String) Version) :=
  (Client.pin key expected ⟨commitment⟩).bind fun
    | some (.ok version) =>
      if version.val = expected.val + 1 then .ret (.ok version)
      else .ret (.error (.Fatal, (s!"pin from version {expected.val} answered version {version.val}: not the " ++
        s!"compare-and-swap this client sent; refusing to keep serving")))
    | some (.error (.Rpc .NotFound)) =>
      .ret (.error (.Fatal, ("pin answered NotFound: the synchronizer does not know this enclave's key (its state " ++
        "is lost, or this is another cluster); refusing to keep serving")))
    | some (.error (.Rpc .VersionConflict)) => disambiguate_conflict key commitment
    | some (.error error) => .ret (.error (classify_pin_error error, s!"pin rpc failed: {error.message}"))
    | none =>
      .ret (.error (.Session, s!"pin rpc timed out after {SYNC_RPC_TIMEOUT} (synchronizer unreachable)"))

section Linearizable

open raft

def HeldSince (log : List ReplicatedOp) (since : Nat) (key : PcrKey) (state : Option KeyState) : Prop :=
  ∃ n, since ≤ n ∧ n ≤ log.length ∧ (replay (log.take n)).get key = state

def AppliedSince (log : List ReplicatedOp) (since : Nat) (op : ReplicatedOp) (state : KeyState) : Prop :=
  ∃ pos, since ≤ pos ∧ log[pos]? = some op ∧ (apply_one (replay (log.take pos)) op).1 = .Applied state

def Linearizable (log : List ReplicatedOp) (since : Nat) : (effect : SessionEffect) → SessionAnswer effect → Prop
  | .rpc (.Get key), some (.ok (.GetOk commitment version)) =>
    ∃ control_pubkey, HeldSince log since key (some ⟨commitment, version, control_pubkey⟩)
  | .rpc (.Get key), some (.ok (.Err .NotFound)) => HeldSince log since key none
  | .rpc (.Register key commitment), some (.ok .RegisterOk) =>
    ∃ control_pubkey state, AppliedSince log since (.Register key commitment control_pubkey) state
  | .rpc (.Pin key expected_version commitment), some (.ok (.PinOk version)) =>
    ∃ state, AppliedSince log since (.Pin key expected_version commitment) state ∧ state.version = version
  | _, _ => True

variable {log log' : List ReplicatedOp} {since : Nat} {key : PcrKey} {op : ReplicatedOp} {state : KeyState}

theorem HeldSince.grow {state : Option KeyState} (h : HeldSince log since key state) (hlog : log <+: log') :
    HeldSince log' since key state := by
  obtain ⟨n, hsince, hle, hget⟩ := h
  obtain ⟨more, rfl⟩ := hlog
  refine ⟨n, hsince, ?_, ?_⟩
  · rw [List.length_append]
    exact Nat.le_add_right_of_le hle
  · rw [List.take_append_of_le_length hle]
    exact hget

theorem AppliedSince.grow (h : AppliedSince log since op state) (hlog : log <+: log') :
    AppliedSince log' since op state := by
  obtain ⟨pos, hsince, hentry, happlied⟩ := h
  obtain ⟨more, rfl⟩ := hlog
  obtain ⟨hlt, -⟩ := List.getElem?_eq_some_iff.mp hentry
  refine ⟨pos, hsince, ?_, ?_⟩
  · rw [List.getElem?_append_left hlt, hentry]
  · rw [List.take_append_of_le_length (Nat.le_of_lt hlt)]
    exact happlied

theorem Linearizable.grow {effect : SessionEffect} {answer : SessionAnswer effect}
    (h : Linearizable log since effect answer) (hlog : log <+: log') : Linearizable log' since effect answer := by
  unfold Linearizable at h ⊢
  split at h
  · obtain ⟨control_pubkey, hheld⟩ := h
    exact ⟨control_pubkey, hheld.grow hlog⟩
  · exact h.grow hlog
  · obtain ⟨control_pubkey, state, happlied⟩ := h
    exact ⟨control_pubkey, state, happlied.grow hlog⟩
  · obtain ⟨state, happlied, hversion⟩ := h
    exact ⟨state, happlied.grow hlog, hversion⟩
  · trivial

theorem AppliedSince.held (h : AppliedSince log since op state)
    (hop : (∃ commitment control_pubkey, op = .Register key commitment control_pubkey) ∨ ∃ expected_version commitment,
      op = .Pin key expected_version commitment) :
    HeldSince log since key (some state) := by
  obtain ⟨pos, hsince, hentry, happlied⟩ := h
  obtain ⟨hlt, hop_eq⟩ := List.getElem?_eq_some_iff.mp hentry
  refine ⟨pos + 1, Nat.le_succ_of_le hsince, hlt, ?_⟩
  rw [← List.take_concat_get hlt, hop_eq, List.concat_eq_append, replay_concat]
  rw [apply_one_result] at happlied
  have happlies := View.apply_applied happlied
  rw [← apply_one_next] at happlies
  change (view (apply_one (replay (log.take pos)) op).2).state[key]? = some state
  generalize view (apply_one (replay (log.take pos)) op).2 = after at happlies
  rcases hop with ⟨commitment, control_pubkey, rfl⟩ | ⟨expected_version, commitment, rfl⟩
  · cases happlies with
    | register => exact Std.ExtTreeMap.getElem?_insert_self
  · cases happlies with
    | pin => exact Std.ExtTreeMap.getElem?_insert_self

end Linearizable

end enclavia.nbd_client
