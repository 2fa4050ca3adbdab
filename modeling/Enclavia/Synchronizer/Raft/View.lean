import Enclavia.Synchronizer.Raft.Store

namespace enclavia.synchronizer.raft

/-- The committed part of a replica: the head view, the retired set and the revoked links. The
observation sets of the state machine are left out. -/
@[ext]
structure View where
  state : Std.ExtTreeMap PcrKey KeyState
  retired : Std.ExtTreeSet PcrKey
  revoked_links : Std.ExtTreeMap PcrKey (Std.ExtTreeSet Bytes32)

def view (sm : StateMachine) : View := ⟨sm.state, sm.retired, sm.revoked_links⟩

namespace View

def empty : View := ⟨∅, ∅, ∅⟩

def is_revoked (v : View) (key : PcrKey) (link_hash : Bytes32) : Bool :=
  match v.revoked_links[key]? with
  | some hashes => hashes.contains link_hash
  | none => false

/-- The specification of one log entry on the committed part alone. -/
def apply (v : View) : ReplicatedOp → ReplicatedOpResult × View
  | .Register key commitment control_pubkey =>
    if v.state.contains key then (.Rejected .AlreadyRegistered, v)
    else if v.retired.contains key then (.Rejected .KeyRetired, v)
    else
      let entry : KeyState := ⟨commitment, ⟨0⟩, control_pubkey⟩
      (.Applied entry, { v with state := v.state.insert key entry })
  | .Pin key expected_version commitment =>
    match v.state[key]? with
    | none => (.Rejected .KeyNotCurrent, v)
    | some entry =>
      if entry.version ≠ expected_version then
        (.Rejected (.StalePin expected_version entry.version), v)
      else
        let entry := { entry with commitment := commitment, version := ⟨entry.version.val + 1⟩ }
        (.Applied entry, { v with state := v.state.insert key entry })
  | .Transition old_key new_key new_control_pubkey link_hash _ commitment =>
    if old_key = new_key then (.Rejected .OldKeyEqualsNew, v)
    else match v.state[old_key]? with
    | none => (.Rejected .KeyNotCurrent, v)
    | some entry =>
      if v.is_revoked old_key link_hash then (.Rejected .TransitionRevoked, v)
      else if v.state.contains new_key then (.Rejected .NewKeyAlreadyExists, v)
      else if v.retired.contains new_key then (.Rejected .KeyRetired, v)
      else if entry.commitment ≠ commitment then (.Rejected .CommitmentMismatch, v)
      else
        let carried := { entry with control_pubkey := new_control_pubkey }
        (.Applied carried,
          { v with
            state := (v.state.erase old_key).insert new_key carried
            retired := v.retired.insert old_key })
  | .Revoke key link_hash =>
    if v.retired.contains key then (.Rejected .KeyRetired, v)
    else match v.state[key]? with
    | none => (.Rejected .KeyNotCurrent, v)
    | some entry =>
      let hashes := (v.revoked_links[key]?.getD ∅).insert link_hash
      (.Applied entry, { v with revoked_links := v.revoked_links.insert key hashes })

end View

@[simp] theorem view_frame (sm : StateMachine) : (view sm).state = sm.state ∧ (view sm).retired = sm.retired ∧
    (view sm).is_revoked = sm.is_revoked := ⟨rfl, rfl, rfl⟩

private theorem apply_register_view (sm : StateMachine) (key : PcrKey) (commitment : Commitment)
    (control_pubkey : ControlPubkey) :
    ((apply_one sm (.Register key commitment control_pubkey)).1,
      view (apply_one sm (.Register key commitment control_pubkey)).2) =
      (view sm).apply (.Register key commitment control_pubkey) := by
  simp only [apply_one, StateMachine.apply, StateMachine.apply_register, View.apply, view_frame,
    StateMachine.observe_attestation_attested, StateMachine.observe_attestation_frame]
  by_cases hlive : sm.state.contains key
  · simp only [hlive, if_true]
    rfl
  by_cases hretired : sm.retired.contains key
  · simp only [hlive, hretired, if_true]
    rfl
  · simp only [hlive, hretired]
    rfl

private theorem apply_pin_view (sm : StateMachine) (key : PcrKey) (expected_version : Version)
    (commitment : Commitment) :
    ((apply_one sm (.Pin key expected_version commitment)).1,
      view (apply_one sm (.Pin key expected_version commitment)).2) =
      (view sm).apply (.Pin key expected_version commitment) := by
  simp only [apply_one, StateMachine.apply, StateMachine.apply_pin, View.apply, view_frame]
  cases hlive : sm.state[key]? with
  | none => rfl
  | some entry =>
    by_cases hversion : entry.version = expected_version
    · simp only [hversion, ne_eq, not_true_eq_false, if_false]
      rfl
    · simp only [hversion, ne_eq, not_false_eq_true, if_true]
      rfl

private theorem apply_revoke_view (sm : StateMachine) (key : PcrKey) (link_hash : Bytes32) :
    ((apply_one sm (.Revoke key link_hash)).1, view (apply_one sm (.Revoke key link_hash)).2) =
      (view sm).apply (.Revoke key link_hash) := by
  simp only [apply_one, StateMachine.apply, StateMachine.apply_revoke, View.apply, view_frame]
  by_cases hretired : sm.retired.contains key
  · simp only [hretired, if_true]
    rfl
  · simp only [hretired]
    cases hlive : sm.state[key]? with
    | none | some entry => rfl

private theorem apply_transition_view (sm : StateMachine) (old_key new_key : PcrKey)
    (new_control_pubkey : ControlPubkey) (link_hash : Bytes32) (valid_until_ms : Int64)
    (commitment : Commitment) :
    ((apply_one sm
        (.Transition old_key new_key new_control_pubkey link_hash valid_until_ms commitment)).1,
      view (apply_one sm
        (.Transition old_key new_key new_control_pubkey link_hash valid_until_ms commitment)).2) =
      (view sm).apply
        (.Transition old_key new_key new_control_pubkey link_hash valid_until_ms commitment) := by
  simp only [apply_one, StateMachine.apply, StateMachine.apply_transition, View.apply, view_frame,
    StateMachine.observe_transition_frame, StateMachine.observe_transition_attested,
    StateMachine.observe_transition_authorized,
    StateMachine.observe_attestation_frame, StateMachine.observe_attestation_attested]
  by_cases hne : old_key = new_key
  · simp only [hne, if_true]
    rfl
  obtain hlive | ⟨entry, hlive⟩ := Option.eq_none_or_eq_some sm.state[old_key]?
  · have hcontains : sm.state.contains old_key = false := by
      rw [Std.ExtTreeMap.contains_eq_isSome_getElem?, hlive]
      rfl
    simp only [hne, hlive, hcontains, Bool.not_false, if_true, if_false]
    rfl
  have hcontains : sm.state.contains old_key = true := by
    rw [Std.ExtTreeMap.contains_eq_isSome_getElem?, hlive]
    rfl
  simp only [hne, hlive, hcontains, Bool.not_true, Bool.false_eq_true, if_false, Option.map_some,
    ne_eq, Option.some.injEq]
  by_cases hrevoked : sm.is_revoked old_key link_hash
  · simp only [hrevoked, if_true]
    rfl
  by_cases hnew : sm.state.contains new_key
  · simp only [hrevoked, hnew, if_true]
    rfl
  by_cases hretired : sm.retired.contains new_key
  · simp only [hrevoked, hnew, hretired, if_true]
    rfl
  by_cases hcommitment : entry.commitment = commitment
  · simp only [hrevoked, hnew, hretired, hcommitment, not_true_eq_false, if_false]
    rfl
  · simp only [hrevoked, hnew, hretired, hcommitment, not_false_eq_true, if_true]
    rfl

theorem apply_one_view (sm : StateMachine) (op : ReplicatedOp) :
    ((apply_one sm op).1, view (apply_one sm op).2) = (view sm).apply op := by
  cases op with
  | Register key commitment control_pubkey =>
    exact apply_register_view sm key commitment control_pubkey
  | Pin key expected_version commitment => exact apply_pin_view sm key expected_version commitment
  | Transition old_key new_key new_control_pubkey link_hash valid_until_ms commitment =>
    exact apply_transition_view sm old_key new_key new_control_pubkey link_hash valid_until_ms commitment
  | Revoke key link_hash => exact apply_revoke_view sm key link_hash

theorem apply_one_result (sm : StateMachine) (op : ReplicatedOp) :
    (apply_one sm op).1 = ((view sm).apply op).1 := congrArg Prod.fst (apply_one_view sm op)

theorem apply_one_next (sm : StateMachine) (op : ReplicatedOp) :
    view (apply_one sm op).2 = ((view sm).apply op).2 := congrArg Prod.snd (apply_one_view sm op)

end enclavia.synchronizer.raft
