import Enclavia.Synchronizer.ChainLinks

open interaction enclavia.synchronizer.wire

namespace enclavia.synchronizer.raft

/-- How openraft resolves a write: with the result of the entry once it is committed and applied, with
an error, or not before the deadline. -/
inductive WriteOutcome where
  | committed (result : ReplicatedOpResult)
  | failed (message : String)
  | elapsed

inductive ReadOutcome where
  | linearizable
  | failed (message : String)
  | elapsed

inductive ServeEffect where
  | get (key : PcrKey)
  | now_ms
  | client_write (op : ReplicatedOp)
  | ensure_linearizable

@[reducible] def ServeAnswer : ServeEffect → Type
  | .get _ => Option KeyState
  | .now_ms => Except String UInt64
  | .client_write _ => WriteOutcome
  | .ensure_linearizable => ReadOutcome

abbrev ServeProc := Program ServeEffect ServeAnswer

abbrev ServeEvent := Event ServeAnswer

structure Answered where
  response : Response
  timed_out : Bool

def Answered.new (response : Response) : Answered := ⟨response, false⟩

def Answered.deadline_elapsed : Answered := ⟨.Err .Unavailable, true⟩

def RaftHandle.client_write (op : ReplicatedOp) : ServeProc (Except RaftHandleError KeyState) :=
  .act (.client_write op) fun
    | .committed (.Applied state) => .ret (.ok state)
    | .committed (.Rejected error) => .ret (.error (.Rejected error))
    | .failed message => .ret (.error (.Raft s!"client_write failed: {message}"))
    | .elapsed => .ret (.error (.CommitTimeout COMMIT_TIMEOUT))

def RaftHandle.linearizable_get (key : PcrKey) : ServeProc (Except RaftHandleError (Option KeyState)) :=
  .act .ensure_linearizable fun
    | .linearizable => .act (.get key) fun state => .ret (.ok state)
    | .failed message => .ret (.error (.NotLinearizable message))
    | .elapsed => .ret (.error (.CommitTimeout COMMIT_TIMEOUT))

def rpc_error : ValidationError → RpcError
  | .NotAttested => .TransitionRejected
  | .NewKeyNotAttested => .TransitionRejected
  | .NoTransitionAuthorization => .TransitionRejected
  | .NewKeyAlreadyExists => .TransitionRejected
  | .OldKeyEqualsNew => .TransitionRejected
  | .TransitionRevoked => .TransitionRevoked
  | .CommitmentMismatch => .TransitionCommitmentMismatch
  | .KeyNotCurrent => .NotFound
  | .StalePin _ _ => .VersionConflict
  | .AlreadyRegistered => .AlreadyRegistered
  | .KeyRetired => .OperationRejected

def err (error : RpcError) : Answered := .new (.Err error)

def timed_out : Answered := .deadline_elapsed

variable {DateTime : Type} (lib : LinkLibrary DateTime) (build : Build)

def handle_get (session_key key : PcrKey) : ServeProc Answered :=
  if key ≠ session_key then .ret (err .Unauthorized)
  else (RaftHandle.linearizable_get key).bind fun
    | .ok (some state) => .ret (.new (.GetOk state.commitment state.version))
    | .ok none => .ret (err .NotFound)
    | .error (.CommitTimeout _) => .ret timed_out
    | .error _ => .ret (err .Unavailable)

def handle_register (session_key key : PcrKey) (commitment : Commitment) (control_pubkey : ControlPubkey) :
    ServeProc Answered :=
  if key ≠ session_key then .ret (err .Unauthorized)
  else (RaftHandle.client_write (.Register key commitment control_pubkey)).bind fun
    | .ok _ => .ret (.new .RegisterOk)
    | .error (.Rejected error) => .ret (err (rpc_error error))
    | .error (.CommitTimeout _) => .ret timed_out
    | .error _ => .ret (err .Unavailable)

def handle_pin (session_key key : PcrKey) (expected_version : Version) (commitment : Commitment) :
    ServeProc Answered :=
  if key ≠ session_key then .ret (err .Unauthorized)
  else (RaftHandle.client_write (.Pin key expected_version commitment)).bind fun
    | .ok state => .ret (.new (.PinOk state.version))
    | .error (.Rejected error) => .ret (err (rpc_error error))
    | .error (.CommitTimeout _) => .ret timed_out
    | .error _ => .ret (err .Unavailable)

def handle_transition (session_key : PcrKey) (control_pubkey : ControlPubkey) (link : ChainLink)
    (commitment : Commitment) : ServeProc Answered :=
  match decode_transition_link lib link with
  | .error _ => .ret (err .TransitionRejected)
  | .ok decoded => .act (.get decoded.old_key) fun
    | none => .ret (err .TransitionRejected)
    | some state => .act .now_ms fun
      | .error _ => .ret (err .Unavailable)
      | .ok now_ms =>
        match verify_transition_link lib build link decoded session_key state.control_pubkey now_ms with
        | .error _ => .ret (err .TransitionRejected)
        | .ok verified =>
          (RaftHandle.client_write (.Transition verified.old_key verified.new_key control_pubkey
            verified.link_hash verified.valid_until_ms commitment)).bind fun
            | .ok state => .ret (.new (.TransitionOk state.version))
            | .error (.Rejected .KeyNotCurrent) => .ret (err .TransitionRejected)
            | .error (.Rejected error) => .ret (err (rpc_error error))
            | .error (.CommitTimeout _) => .ret timed_out
            | .error _ => .ret (err .Unavailable)

def handle_revoke (session_key : PcrKey) (link : ChainLink) : ServeProc Answered :=
  .act (.get session_key) fun
    | none => .ret (err .RevocationRejected)
    | some state =>
      match verify_revocation_link lib link state.control_pubkey with
      | .error _ => .ret (err .RevocationRejected)
      | .ok verified => (RaftHandle.client_write (.Revoke session_key verified.link_hash)).bind fun
        | .ok _ => .ret (.new .RevokeOk)
        | .error (.Rejected _) => .ret (err .RevocationRejected)
        | .error (.CommitTimeout _) => .ret timed_out
        | .error _ => .ret (err .Unavailable)

def handle_on_leader (session_key : PcrKey) (control_pubkey : ControlPubkey) : Request → ServeProc Answered
  | .Get key => handle_get session_key key
  | .Register key commitment => handle_register session_key key commitment control_pubkey
  | .Pin key expected_version commitment => handle_pin session_key key expected_version commitment
  | .Transition link commitment => handle_transition lib build session_key control_pubkey link commitment
  | .Revoke link => handle_revoke lib session_key link

end enclavia.synchronizer.raft
