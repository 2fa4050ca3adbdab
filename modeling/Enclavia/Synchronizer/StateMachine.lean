import Enclavia.Synchronizer.Types

namespace enclavia.synchronizer

/-- The synchronizer state machine with all its fields: the committed projection, the two
observation sets that `apply` consults, the retirement set and the revoked links. -/
structure StateMachine where
  state : Std.ExtTreeMap PcrKey KeyState
  attested : Std.ExtTreeMap PcrKey ControlPubkey
  transition_authorizations : Std.ExtTreeSet (PcrKey × PcrKey) compare_pair
  retired : Std.ExtTreeSet PcrKey
  revoked_links : Std.ExtTreeMap PcrKey (Std.ExtTreeSet Bytes32)

namespace StateMachine

def new : StateMachine := ⟨∅, ∅, ∅, ∅, ∅⟩

def observe_attestation (self : StateMachine) (key : PcrKey) (control_pubkey : ControlPubkey) :
    StateMachine :=
  { self with attested := self.attested.insert key control_pubkey }

def observe_transition (self : StateMachine) (old_key new_key : PcrKey) : StateMachine :=
  { self with transition_authorizations := self.transition_authorizations.insert (old_key, new_key) }

def is_revoked (self : StateMachine) (key : PcrKey) (link_hash : Bytes32) : Bool :=
  match self.revoked_links[key]? with
  | some hashes => hashes.contains link_hash
  | none => false

def get (self : StateMachine) (key : PcrKey) : Option KeyState := self.state[key]?

def apply_register (self : StateMachine) (key : PcrKey) (commitment : Commitment) :
    Except ValidationError KeyState × StateMachine :=
  match self.attested[key]? with
  | none => (.error .NotAttested, self)
  | some control_pubkey =>
    if self.state.contains key then (.error .AlreadyRegistered, self)
    else if self.retired.contains key then (.error .KeyRetired, self)
    else
      let entry : KeyState := ⟨commitment, ⟨0⟩, control_pubkey⟩
      (.ok entry, { self with state := self.state.insert key entry })

def apply_pin (self : StateMachine) (key : PcrKey) (expected_version : Version)
    (commitment : Commitment) : Except ValidationError KeyState × StateMachine :=
  match self.state[key]? with
  | none => (.error .KeyNotCurrent, self)
  | some entry =>
    if entry.version ≠ expected_version then
      (.error (.StalePin expected_version entry.version), self)
    else
      let entry := { entry with commitment := commitment, version := ⟨entry.version.val + 1⟩ }
      (.ok entry, { self with state := self.state.insert key entry })

def apply_transition (self : StateMachine) (old_key new_key : PcrKey) (link_hash : Bytes32)
    (commitment : Commitment) : Except ValidationError KeyState × StateMachine :=
  if old_key = new_key then (.error .OldKeyEqualsNew, self)
  else if !self.state.contains old_key then (.error .KeyNotCurrent, self)
  else if self.is_revoked old_key link_hash then (.error .TransitionRevoked, self)
  else if self.state.contains new_key then (.error .NewKeyAlreadyExists, self)
  else if self.retired.contains new_key then (.error .KeyRetired, self)
  else match self.attested[new_key]? with
  | none => (.error .NewKeyNotAttested, self)
  | some new_pubkey =>
    if !self.transition_authorizations.contains (old_key, new_key) then
      (.error .NoTransitionAuthorization, self)
    else if self.state[old_key]?.map (·.commitment) ≠ some commitment then
      (.error .CommitmentMismatch, self)
    else match self.state[old_key]? with
    -- `expect("checked above")`: the second guard has excluded this branch.
    | none => (.error .KeyNotCurrent, self)
    | some carried =>
      let carried := { carried with control_pubkey := new_pubkey }
      (.ok carried,
        { self with
          state := (self.state.erase old_key).insert new_key carried
          retired := self.retired.insert old_key })

def apply_revoke (self : StateMachine) (key : PcrKey) (link_hash : Bytes32) :
    Except ValidationError KeyState × StateMachine :=
  if self.retired.contains key then (.error .KeyRetired, self)
  else match self.state[key]? with
  | none => (.error .KeyNotCurrent, self)
  | some state =>
    let hashes := (self.revoked_links[key]?.getD ∅).insert link_hash
    (.ok state, { self with revoked_links := self.revoked_links.insert key hashes })

def apply (self : StateMachine) : Op → Except ValidationError KeyState × StateMachine
  | .Register key commitment => self.apply_register key commitment
  | .Pin key expected_version commitment => self.apply_pin key expected_version commitment
  | .Transition old_key new_key link_hash commitment =>
    self.apply_transition old_key new_key link_hash commitment
  | .Revoke key link_hash => self.apply_revoke key link_hash

section observe

variable (sm : StateMachine) (key old_key new_key : PcrKey) (pubkey : ControlPubkey)

@[simp] theorem observe_attestation_frame : (sm.observe_attestation key pubkey).state = sm.state ∧
    (sm.observe_attestation key pubkey).retired = sm.retired ∧
    (sm.observe_attestation key pubkey).is_revoked = sm.is_revoked := ⟨rfl, rfl, rfl⟩

theorem observe_attestation_attested :
    (sm.observe_attestation key pubkey).attested[key]? = some pubkey :=
  Std.ExtTreeMap.getElem?_insert_self

@[simp] theorem observe_transition_frame : (sm.observe_transition old_key new_key).state = sm.state ∧
    (sm.observe_transition old_key new_key).retired = sm.retired ∧
    (sm.observe_transition old_key new_key).is_revoked = sm.is_revoked := ⟨rfl, rfl, rfl⟩

@[simp] theorem observe_transition_attested : (sm.observe_transition old_key new_key).attested = sm.attested := rfl

theorem observe_transition_authorized :
    (sm.observe_transition old_key new_key).transition_authorizations.contains (old_key, new_key) =
      true :=
  Std.ExtTreeSet.contains_insert_self

end observe

end StateMachine

end enclavia.synchronizer
