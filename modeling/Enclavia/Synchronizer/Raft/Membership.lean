import Enclavia.Crypto.Sha256
import Enclavia.Synchronizer.Types

namespace enclavia.synchronizer.raft

abbrev RaftNodeId := UInt64

def instance_node_id (pubkey : ControlPubkey) : RaftNodeId :=
  ((crypto.sha256 pubkey.toList).toList.take 8).foldl (fun id byte => id * 256 + byte.toUInt64) 0

structure MemberRecord where
  name : String
  pubkey : ControlPubkey
deriving DecidableEq

abbrev Voters := Std.ExtTreeMap RaftNodeId MemberRecord

inductive AdmissionError where
  | UnknownSlot (name : String)
  | IdCollision (name : String)
  | CorruptMembership (holders : Nat) (name : String)
  | IdMismatch (id : RaftNodeId)
  | UnconfiguredVoter (name : String)
  | OversizedMembership (voters slots : Nat)
deriving DecidableEq

namespace AdmissionError

def message : AdmissionError → String
  | .UnknownSlot name => s!"name {name.quote} is not a configured member slot"
  | .IdCollision name => s!"candidate id collides with live member of slot {name.quote}"
  | .CorruptMembership holders name => s!"committed membership holds {holders} voters for slot {name.quote}"
  | .IdMismatch id => s!"committed voter {id} id does not match its recorded pubkey"
  | .UnconfiguredVoter name => s!"committed voter holds unconfigured slot {name.quote}"
  | .OversizedMembership voters slots =>
    s!"resulting membership has {voters} voters but only {slots} slots are configured"

end AdmissionError

/-- The outcome of an admission: whom to add, whom to evict, and the voter set to commit. -/
structure AdmissionPlan where
  added_id : RaftNodeId
  added : MemberRecord
  evicted_id : Option RaftNodeId
  new_voter_ids : Std.ExtTreeSet RaftNodeId
  already_member : Bool

def check_membership (configured_names : Std.ExtTreeSet String) (voters : Voters) :
    Except AdmissionError Unit := do
  voters.values.forM fun member =>
    if !configured_names.contains member.name then .error (.UnconfiguredVoter member.name) else .ok ()
  configured_names.toList.forM fun name =>
    let holders := voters.values.countP fun member => member.name == name
    if holders > 1 then .error (.CorruptMembership holders name) else .ok ()
  voters.toList.forM fun (id, member) =>
    if id ≠ instance_node_id member.pubkey then .error (.IdMismatch id) else .ok ()

def plan_admission (configured_names : Std.ExtTreeSet String) (voters : Voters) (candidate_name : String)
    (candidate_pubkey : ControlPubkey) : Except AdmissionError AdmissionPlan :=
  if !configured_names.contains candidate_name then .error (.UnknownSlot candidate_name)
  else
    match check_membership configured_names voters with
    | .error error => .error error
    | .ok () =>
      let added_id := instance_node_id candidate_pubkey
      let added : MemberRecord := { name := candidate_name, pubkey := candidate_pubkey }
      let slot_holder := (voters.toList.find? fun (_, member) => member.name == candidate_name).map Prod.fst
      let current : Std.ExtTreeSet RaftNodeId := .ofList voters.keys
      if slot_holder = some added_id then
        .ok { added_id, added, evicted_id := none, new_voter_ids := current, already_member := true }
      else
        match voters[added_id]? with
        | some collided => .error (.IdCollision collided.name)
        | none =>
          let kept := match slot_holder with
            | some evicted => current.erase evicted
            | none => current
          let new_voter_ids := kept.insert added_id
          if new_voter_ids.size > configured_names.size then
            .error (.OversizedMembership new_voter_ids.size configured_names.size)
          else .ok { added_id, added, evicted_id := slot_holder, new_voter_ids, already_member := false }

end enclavia.synchronizer.raft
