import Enclavia.Synchronizer.Raft.View

namespace enclavia.synchronizer.raft

namespace View

inductive Applies (v : View) : ReplicatedOp → KeyState → View → Prop
  | register {key : PcrKey} {commitment : Commitment} {control_pubkey : ControlPubkey}
      (hfree : v.state[key]? = none) (hretired : key ∉ v.retired) :
      Applies v (.Register key commitment control_pubkey) ⟨commitment, ⟨0⟩, control_pubkey⟩
        { v with state := v.state.insert key ⟨commitment, ⟨0⟩, control_pubkey⟩ }
  | pin {key : PcrKey} {commitment : Commitment} {entry : KeyState}
      (hlive : v.state[key]? = some entry) :
      Applies v (.Pin key entry.version commitment)
        ⟨commitment, ⟨entry.version.val + 1⟩, entry.control_pubkey⟩
        { v with
          state := v.state.insert key ⟨commitment, ⟨entry.version.val + 1⟩, entry.control_pubkey⟩ }
  | transition {old_key new_key : PcrKey} {link_hash : Bytes32} {valid_until_ms : Int64}
      {entry : KeyState} {new_control_pubkey : ControlPubkey}
      (hne : old_key ≠ new_key) (hlive : v.state[old_key]? = some entry)
      (hrevoked : v.is_revoked old_key link_hash = false)
      (hfree : v.state[new_key]? = none) (hretired : new_key ∉ v.retired) :
      Applies v
        (.Transition old_key new_key new_control_pubkey link_hash valid_until_ms entry.commitment)
        { entry with control_pubkey := new_control_pubkey }
        { v with
          state :=
            (v.state.erase old_key).insert new_key { entry with control_pubkey := new_control_pubkey }
          retired := v.retired.insert old_key }
  | revoke {key : PcrKey} {link_hash : Bytes32} {entry : KeyState}
      (hretired : key ∉ v.retired) (hlive : v.state[key]? = some entry) :
      Applies v (.Revoke key link_hash) entry
        { v with
          revoked_links :=
            v.revoked_links.insert key ((v.revoked_links[key]?.getD ∅).insert link_hash) }

private def toStateMachine (v : View) : StateMachine := ⟨v.state, ∅, ∅, v.retired, v.revoked_links⟩

theorem apply_cases (v : View) (op : ReplicatedOp) :
    (∃ e, v.apply op = (.Rejected e, v)) ∨
      ∃ entry after, v.apply op = (.Applied entry, after) ∧ v.Applies op entry after := by
  have hsim : _ = v.apply op := apply_one_view v.toStateMachine op
  rw [← hsim]
  cases op with
  | Register key commitment control_pubkey =>
    obtain ⟨e, happly⟩ | ⟨entry, after, happly, happlies⟩ := StateMachine.apply_cases
      (v.toStateMachine.observe_attestation key control_pubkey) (.Register key commitment)
    · simp only [apply_one, happly]
      exact .inl ⟨e, rfl⟩
    · simp only [apply_one, happly]
      cases happlies with
      | register hattested hfree hretired =>
        rw [StateMachine.observe_attestation_attested, Option.some.injEq] at hattested
        subst hattested
        exact .inr ⟨_, _, rfl, .register hfree hretired⟩
  | Pin key expected_version commitment =>
    obtain ⟨e, happly⟩ | ⟨entry, after, happly, happlies⟩ := StateMachine.apply_cases
      v.toStateMachine (.Pin key expected_version commitment)
    · simp only [apply_one, happly]
      exact .inl ⟨e, rfl⟩
    · simp only [apply_one, happly]
      cases happlies with
      | pin hlive => exact .inr ⟨_, _, rfl, .pin hlive⟩
  | Transition old_key new_key new_control_pubkey link_hash valid_until_ms commitment =>
    obtain ⟨e, happly⟩ | ⟨entry, after, happly, happlies⟩ := StateMachine.apply_cases
      ((v.toStateMachine.observe_attestation new_key new_control_pubkey).observe_transition
        old_key new_key) (.Transition old_key new_key link_hash commitment)
    · simp only [apply_one, happly]
      exact .inl ⟨e, rfl⟩
    · simp only [apply_one, happly]
      cases happlies with
      | transition hne hlive hrevoked hfree hretired hattested hauthorized =>
        rw [StateMachine.observe_transition_attested, StateMachine.observe_attestation_attested,
          Option.some.injEq] at hattested
        subst hattested
        exact .inr ⟨_, _, rfl, .transition hne hlive hrevoked hfree hretired⟩
  | Revoke key link_hash =>
    obtain ⟨e, happly⟩ | ⟨entry, after, happly, happlies⟩ := StateMachine.apply_cases
      v.toStateMachine (.Revoke key link_hash)
    · simp only [apply_one, happly]
      exact .inl ⟨e, rfl⟩
    · simp only [apply_one, happly]
      cases happlies with
      | revoke hretired hlive => exact .inr ⟨_, _, rfl, .revoke hretired hlive⟩

variable {v : View} {op : ReplicatedOp}

theorem apply_applied {entry : KeyState} (happly : (v.apply op).1 = .Applied entry) :
    v.Applies op entry (v.apply op).2 := by
  obtain ⟨e, h⟩ | ⟨entry', after, h, happlies⟩ := apply_cases v op
  · rw [h] at happly
    cases happly
  · rw [h] at happly ⊢
    cases happly
    exact happlies

theorem apply_rejected {e : ValidationError} (happly : (v.apply op).1 = .Rejected e) : (v.apply op).2 = v := by
  obtain ⟨e', h⟩ | ⟨entry, after, h, -⟩ := apply_cases v op
  · rw [h]
  · rw [h] at happly
    cases happly

theorem apply_state_of_not_named (v : View) {key : PcrKey} (hkey : key ∉ op.keys) :
    (v.apply op).2.state[key]? = v.state[key]? := by
  obtain ⟨e, happly⟩ | ⟨entry, after, happly, happlies⟩ := apply_cases v op
  · rw [happly]
  · rw [happly]
    cases happlies with
    | register hfree hretired =>
      rw [getElem?_insert_key, if_neg (Ne.symm (List.ne_of_not_mem_cons hkey))]
    | pin hlive => rw [getElem?_insert_key, if_neg (Ne.symm (List.ne_of_not_mem_cons hkey))]
    | transition hne hlive hrevoked hfree hretired =>
      have hnew := List.ne_of_not_mem_cons (List.not_mem_of_not_mem_cons hkey)
      rw [getElem?_insert_key, if_neg (Ne.symm hnew), getElem?_erase_key,
        if_neg (Ne.symm (List.ne_of_not_mem_cons hkey))]
    | revoke hretired hlive => rfl

def Disjoint (v : View) : Prop := ∀ key, v.state[key]?.isSome → key ∉ v.retired

theorem Disjoint.state_eq_none (hdisjoint : v.Disjoint) {key : PcrKey} (hretired : key ∈ v.retired) :
    v.state[key]? = none := by
  rw [← Option.not_isSome_iff_eq_none]
  exact fun hlive => hdisjoint key hlive hretired

theorem Disjoint.apply (hdisjoint : v.Disjoint) (op : ReplicatedOp) :
    (v.apply op).2.Disjoint := by
  obtain ⟨e, happly⟩ | ⟨entry, after, happly, happlies⟩ := apply_cases v op
  · rw [happly]
    exact hdisjoint
  rw [happly]
  cases happlies with
  | register hfree hretired =>
    intro other hlive
    rw [getElem?_insert_key] at hlive
    split at hlive
    · next heq => exact heq ▸ hretired
    · exact hdisjoint other hlive
  | pin hpinned =>
    intro other hlive
    rw [getElem?_insert_key] at hlive
    split at hlive
    · next heq =>
      subst heq
      exact hdisjoint _ (by rw [hpinned]; rfl)
    · exact hdisjoint other hlive
  | transition hne hold hrevoked hfree hretired =>
    intro other hlive
    rw [getElem?_insert_key, getElem?_erase_key] at hlive
    rw [mem_insert_key]
    rintro (rfl | hdead)
    · rw [if_neg (Ne.symm hne), if_pos rfl] at hlive
      cases hlive
    · split at hlive
      · next heq => exact hretired (heq ▸ hdead)
      · split at hlive
        · cases hlive
        · exact hdisjoint other hlive hdead
  | revoke hretired hlive => exact hdisjoint

end View

theorem replay_view (log : List ReplicatedOp) :
    view (replay log) = machine.run View.apply View.empty log :=
  (machine.run_simulates apply_one apply_one_view StateMachine.new log).1

theorem replay_concat_view (log : List ReplicatedOp) (op : ReplicatedOp) :
    view (replay (log ++ [op])) = ((view (replay log)).apply op).2 := by
  rw [replay_concat, apply_one_next]

theorem replay_disjoint (log : List ReplicatedOp) : (view (replay log)).Disjoint := by
  rw [replay_view]
  refine machine.run_preserves View.apply (fun v op hdisjoint => hdisjoint.apply op) ?_ log
  intro key hlive
  simp [View.empty] at hlive

end enclavia.synchronizer.raft
