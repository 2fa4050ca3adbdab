import Enclavia.Synchronizer.StateMachine

namespace enclavia.synchronizer

namespace StateMachine

inductive Applies (sm : StateMachine) : Op → KeyState → StateMachine → Prop
  | register {key : PcrKey} {commitment : Commitment} {control_pubkey : ControlPubkey}
      (hattested : sm.attested[key]? = some control_pubkey)
      (hfree : sm.state[key]? = none) (hretired : key ∉ sm.retired) :
      Applies sm (.Register key commitment) ⟨commitment, ⟨0⟩, control_pubkey⟩
        { sm with state := sm.state.insert key ⟨commitment, ⟨0⟩, control_pubkey⟩ }
  | pin {key : PcrKey} {commitment : Commitment} {entry : KeyState}
      (hlive : sm.state[key]? = some entry) :
      Applies sm (.Pin key entry.version commitment)
        ⟨commitment, ⟨entry.version.val + 1⟩, entry.control_pubkey⟩
        { sm with
          state := sm.state.insert key ⟨commitment, ⟨entry.version.val + 1⟩, entry.control_pubkey⟩ }
  | transition {old_key new_key : PcrKey} {link_hash : Bytes32} {entry : KeyState}
      {new_pubkey : ControlPubkey}
      (hne : old_key ≠ new_key) (hlive : sm.state[old_key]? = some entry)
      (hrevoked : sm.is_revoked old_key link_hash = false)
      (hfree : sm.state[new_key]? = none) (hretired : new_key ∉ sm.retired)
      (hattested : sm.attested[new_key]? = some new_pubkey)
      (hauthorized : (old_key, new_key) ∈ sm.transition_authorizations) :
      Applies sm (.Transition old_key new_key link_hash entry.commitment)
        { entry with control_pubkey := new_pubkey }
        { sm with
          state := (sm.state.erase old_key).insert new_key { entry with control_pubkey := new_pubkey }
          retired := sm.retired.insert old_key }
  | revoke {key : PcrKey} {link_hash : Bytes32} {entry : KeyState}
      (hretired : key ∉ sm.retired) (hlive : sm.state[key]? = some entry) :
      Applies sm (.Revoke key link_hash) entry
        { sm with
          revoked_links :=
            sm.revoked_links.insert key ((sm.revoked_links[key]?.getD ∅).insert link_hash) }

private theorem apply_register_cases (sm : StateMachine) (key : PcrKey) (commitment : Commitment) :
    (∃ e, sm.apply_register key commitment = (.error e, sm)) ∨
      ∃ entry after, sm.apply_register key commitment = (.ok entry, after) ∧
        sm.Applies (.Register key commitment) entry after := by
  unfold apply_register
  cases hattested : sm.attested[key]? with
  | none => exact .inl ⟨_, rfl⟩
  | some control_pubkey =>
    by_cases hlive : sm.state.contains key
    · simp only [hlive, if_true]
      exact .inl ⟨_, rfl⟩
    · by_cases hretired : sm.retired.contains key
      · simp only [hlive, hretired, if_true]
        exact .inl ⟨_, rfl⟩
      · simp only [hlive, hretired]
        have hfree : sm.state[key]? = none := by simpa using hlive
        exact .inr ⟨_, _, rfl, .register hattested hfree (by simpa using hretired)⟩

private theorem apply_pin_cases (sm : StateMachine) (key : PcrKey) (expected_version : Version)
    (commitment : Commitment) :
    (∃ e, sm.apply_pin key expected_version commitment = (.error e, sm)) ∨
      ∃ entry after, sm.apply_pin key expected_version commitment = (.ok entry, after) ∧
        sm.Applies (.Pin key expected_version commitment) entry after := by
  unfold apply_pin
  cases hlive : sm.state[key]? with
  | none => exact .inl ⟨_, rfl⟩
  | some entry =>
    by_cases hversion : entry.version = expected_version
    · subst hversion
      simp only [ne_eq, not_true_eq_false, if_false]
      exact .inr ⟨_, _, rfl, .pin hlive⟩
    · simp only [ne_eq, hversion, not_false_eq_true, if_true]
      exact .inl ⟨_, rfl⟩

private theorem apply_revoke_cases (sm : StateMachine) (key : PcrKey) (link_hash : Bytes32) :
    (∃ e, sm.apply_revoke key link_hash = (.error e, sm)) ∨
      ∃ entry after, sm.apply_revoke key link_hash = (.ok entry, after) ∧
        sm.Applies (.Revoke key link_hash) entry after := by
  unfold apply_revoke
  by_cases hretired : sm.retired.contains key
  · simp only [hretired, if_true]
    exact .inl ⟨_, rfl⟩
  · simp only [hretired]
    cases hlive : sm.state[key]? with
    | none => exact .inl ⟨_, rfl⟩
    | some entry => exact .inr ⟨_, _, rfl, .revoke (by simpa using hretired) hlive⟩

private theorem apply_transition_cases (sm : StateMachine) (old_key new_key : PcrKey)
    (link_hash : Bytes32) (commitment : Commitment) :
    (∃ e, sm.apply_transition old_key new_key link_hash commitment = (.error e, sm)) ∨
      ∃ entry after, sm.apply_transition old_key new_key link_hash commitment = (.ok entry, after) ∧
        sm.Applies (.Transition old_key new_key link_hash commitment) entry after := by
  unfold apply_transition
  by_cases hne : old_key = new_key
  · simp only [hne, if_true]
    exact .inl ⟨_, rfl⟩
  simp only [hne, if_false]
  cases hlive : sm.state[old_key]? with
  | none =>
    have hcontains : sm.state.contains old_key = false := by
      rw [Std.ExtTreeMap.contains_eq_isSome_getElem?, hlive]
      rfl
    simp only [hcontains, Bool.not_false, if_true]
    exact .inl ⟨_, rfl⟩
  | some entry =>
    have hcontains : sm.state.contains old_key = true := by
      rw [Std.ExtTreeMap.contains_eq_isSome_getElem?, hlive]
      rfl
    simp only [hcontains, Bool.not_true, Bool.false_eq_true, if_false]
    by_cases hrevoked : sm.is_revoked old_key link_hash
    · simp only [hrevoked, if_true]
      exact .inl ⟨_, rfl⟩
    by_cases hnew : sm.state.contains new_key
    · simp only [hrevoked, hnew, if_true]
      exact .inl ⟨_, rfl⟩
    by_cases hretired : sm.retired.contains new_key
    · simp only [hrevoked, hnew, hretired, if_true]
      exact .inl ⟨_, rfl⟩
    simp only [hrevoked, hnew, hretired, Bool.false_eq_true, if_false]
    cases hattested : sm.attested[new_key]? with
    | none => exact .inl ⟨_, rfl⟩
    | some new_pubkey =>
      by_cases hauthorized : sm.transition_authorizations.contains (old_key, new_key)
      · by_cases hcommitment : entry.commitment = commitment
        · subst hcommitment
          simp only [hauthorized, Bool.not_true, Bool.false_eq_true, if_false, Option.map_some,
            ne_eq, not_true_eq_false]
          exact .inr ⟨_, _, rfl, .transition hne hlive (by simpa using hrevoked)
            (by simpa using hnew) (by simpa using hretired) hattested (by simpa using hauthorized)⟩
        · simp only [hauthorized, Bool.not_true, Bool.false_eq_true, if_false, Option.map_some,
            ne_eq, Option.some.injEq, hcommitment, not_false_eq_true, if_true]
          exact .inl ⟨_, rfl⟩
      · simp only [hauthorized, Bool.not_false, if_true]
        exact .inl ⟨_, rfl⟩

theorem apply_cases (sm : StateMachine) (op : Op) :
    (∃ e, sm.apply op = (.error e, sm)) ∨
      ∃ entry after, sm.apply op = (.ok entry, after) ∧ sm.Applies op entry after := by
  cases op with
  | Register key commitment => exact apply_register_cases sm key commitment
  | Pin key expected_version commitment => exact apply_pin_cases sm key expected_version commitment
  | Transition old_key new_key link_hash commitment =>
    exact apply_transition_cases sm old_key new_key link_hash commitment
  | Revoke key link_hash => exact apply_revoke_cases sm key link_hash

end StateMachine

end enclavia.synchronizer
