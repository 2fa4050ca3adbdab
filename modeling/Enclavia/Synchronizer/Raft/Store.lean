import Enclavia.Machine.Run
import Enclavia.Synchronizer.Apply

namespace enclavia.synchronizer.raft

/-- A log entry's payload: an operation together with the facts the leader verified for it. -/
inductive ReplicatedOp where
  | Register (key : PcrKey) (commitment : Commitment) (control_pubkey : ControlPubkey)
  | Pin (key : PcrKey) (expected_version : Version) (commitment : Commitment)
  | Transition (old_key new_key : PcrKey) (new_control_pubkey : ControlPubkey)
      (link_hash : Bytes32) (valid_until_ms : Int64) (commitment : Commitment)
  | Revoke (key : PcrKey) (link_hash : Bytes32)

inductive ReplicatedOpResult where
  | Applied (state : KeyState)
  | Rejected (error : ValidationError)
deriving DecidableEq

def ReplicatedOpResult.of_result : Except ValidationError KeyState → ReplicatedOpResult
  | .ok state => .Applied state
  | .error e => .Rejected e

/-- Record the facts an entry carries, then apply its operation. -/
def apply_one (sm : StateMachine) (op : ReplicatedOp) : ReplicatedOpResult × StateMachine :=
  let result := match op with
    | .Register key commitment control_pubkey =>
      (sm.observe_attestation key control_pubkey).apply (.Register key commitment)
    | .Pin key expected_version commitment => sm.apply (.Pin key expected_version commitment)
    | .Transition old_key new_key new_control_pubkey link_hash _ commitment =>
      ((sm.observe_attestation new_key new_control_pubkey).observe_transition old_key new_key).apply
        (.Transition old_key new_key link_hash commitment)
    | .Revoke key link_hash => sm.apply (.Revoke key link_hash)
  (.of_result result.1, result.2)

def replay (log : List ReplicatedOp) : StateMachine := machine.run apply_one StateMachine.new log

def replay_results (log : List ReplicatedOp) : List ReplicatedOpResult :=
  machine.results apply_one StateMachine.new log

theorem replay_concat (log : List ReplicatedOp) (op : ReplicatedOp) :
    replay (log ++ [op]) = (apply_one (replay log) op).2 :=
  machine.run_concat apply_one StateMachine.new log op

def ReplicatedOp.is_pin : ReplicatedOp → Bool
  | .Pin .. => true
  | _ => false

def ReplicatedOp.keys : ReplicatedOp → List PcrKey
  | .Register key _ _ => [key]
  | .Pin key _ _ => [key]
  | .Transition old_key new_key _ _ _ _ => [old_key, new_key]
  | .Revoke key _ => [key]

def pins (log : List ReplicatedOp) : Nat := log.countP ReplicatedOp.is_pin

theorem pins_append (log more : List ReplicatedOp) : pins (log ++ more) = pins log + pins more :=
  List.countP_append

end enclavia.synchronizer.raft
