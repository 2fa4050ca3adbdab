import Mathlib.Data.List.Nodup
import Mathlib.Data.List.ReduceOption
import Enclavia.Machine.Run
import Enclavia.Synchronizer.Apply

namespace enclavia.synchronizer

inductive Call where
  | observe_attestation (key : PcrKey) (control_pubkey : ControlPubkey)
  | observe_transition (old_key new_key : PcrKey)
  | apply (op : Op)

def Op.born : Op → Option PcrKey
  | .Register key _ => some key
  | .Transition _ new_key _ _ => some new_key
  | .Pin .. => none
  | .Revoke .. => none

abbrev Birth := PcrKey × Option ControlPubkey

def call_step (sm : StateMachine) : Call → Option Birth × StateMachine
  | .observe_attestation key control_pubkey => (none, sm.observe_attestation key control_pubkey)
  | .observe_transition old_key new_key => (none, sm.observe_transition old_key new_key)
  | .apply op =>
    match sm.apply op with
    | (.ok _, after) => (op.born.map fun key => (key, sm.attested[key]?), after)
    | (.error _, after) => (none, after)

def births (sm : StateMachine) (calls : List Call) : List Birth :=
  (machine.results call_step sm calls).reduceOption

theorem births_append (sm : StateMachine) (calls more : List Call) :
    births sm (calls ++ more) = births sm calls ++ births (machine.run call_step sm calls) more := by
  rw [births, machine.results_append, List.reduceOption_append]
  rfl

/-- The ghost history against the state: a key was born exactly when it is live or retired, and
a live key still carries the pubkey of its birth. -/
structure BirthInv (history : List Birth) (sm : StateMachine) : Prop where
  nodup : (history.map Prod.fst).Nodup
  frozen : ∀ key entry, sm.state[key]? = some entry → (key, some entry.control_pubkey) ∈ history
  retired : ∀ key, key ∈ sm.retired → key ∈ history.map Prod.fst
  accounted : ∀ key, key ∈ history.map Prod.fst → sm.state[key]?.isSome ∨ key ∈ sm.retired

theorem BirthInv.empty : BirthInv [] StateMachine.new where
  nodup := List.nodup_nil
  frozen key entry hlive := by simp [StateMachine.new] at hlive
  retired key hretired := by simp [StateMachine.new] at hretired
  accounted key hborn := by cases hborn

variable {sm : StateMachine} {history : List Birth} {key : PcrKey}

theorem BirthInv.unborn (hinv : BirthInv history sm) (hfree : sm.state[key]? = none) (hretired : key ∉ sm.retired) :
    key ∉ history.map Prod.fst := by
  intro hborn
  rcases hinv.accounted key hborn with hlive | hdead
  · rw [hfree] at hlive
    cases hlive
  · exact hretired hdead

private theorem nodup_keys_concat {pubkey : Option ControlPubkey}
    (hnodup : (history.map Prod.fst).Nodup) (hkey : key ∉ history.map Prod.fst) :
    ((history ++ [(key, pubkey)]).map Prod.fst).Nodup := by
  rw [List.map_append, List.map_singleton, ← List.concat_eq_append]
  exact hnodup.concat hkey

private theorem BirthInv.register
    (hinv : BirthInv history sm) (entry : KeyState) (hfree : sm.state[key]? = none)
    (hretired : key ∉ sm.retired) :
    BirthInv (history ++ [(key, some entry.control_pubkey)])
      { sm with state := sm.state.insert key entry } where
  nodup := nodup_keys_concat hinv.nodup (hinv.unborn hfree hretired)
  frozen other held hlive := by
    rw [getElem?_insert_key] at hlive
    by_cases hother : key = other
    · rw [if_pos hother, Option.some.injEq] at hlive
      subst hother hlive
      exact List.mem_append_right _ List.mem_cons_self
    · rw [if_neg hother] at hlive
      exact List.mem_append_left _ (hinv.frozen other held hlive)
  retired other hdead := by
    rw [List.map_append]
    exact List.mem_append_left _ (hinv.retired other hdead)
  accounted other hborn := by
    rw [List.map_append, List.mem_append, List.map_singleton, List.mem_singleton] at hborn
    rw [getElem?_insert_key]
    by_cases hother : key = other
    · rw [if_pos hother]
      exact .inl rfl
    · rw [if_neg hother]
      rcases hborn with hborn | hborn
      · exact hinv.accounted other hborn
      · exact absurd hborn.symm hother

private theorem BirthInv.pin
    (hinv : BirthInv history sm) {entry pinned : KeyState}
    (hlive : sm.state[key]? = some entry) (hpubkey : pinned.control_pubkey = entry.control_pubkey) :
    BirthInv history { sm with state := sm.state.insert key pinned } where
  nodup := hinv.nodup
  frozen other held hother := by
    rw [getElem?_insert_key] at hother
    by_cases heq : key = other
    · rw [if_pos heq, Option.some.injEq] at hother
      subst heq hother
      rw [hpubkey]
      exact hinv.frozen key entry hlive
    · rw [if_neg heq] at hother
      exact hinv.frozen other held hother
  retired := hinv.retired
  accounted other hborn := by
    rw [getElem?_insert_key]
    by_cases heq : key = other
    · rw [if_pos heq]
      exact .inl rfl
    · rw [if_neg heq]
      exact hinv.accounted other hborn

private theorem BirthInv.transition
    (hinv : BirthInv history sm) {old_key new_key : PcrKey} {entry : KeyState} (carried : KeyState)
    (hlive : sm.state[old_key]? = some entry) (hfree : sm.state[new_key]? = none)
    (hretired : new_key ∉ sm.retired) :
    BirthInv (history ++ [(new_key, some carried.control_pubkey)])
      { sm with
        state := (sm.state.erase old_key).insert new_key carried
        retired := sm.retired.insert old_key } where
  nodup := nodup_keys_concat hinv.nodup (hinv.unborn hfree hretired)
  frozen other held hother := by
    rw [getElem?_insert_key, getElem?_erase_key] at hother
    by_cases hnew : new_key = other
    · rw [if_pos hnew, Option.some.injEq] at hother
      subst hnew hother
      exact List.mem_append_right _ List.mem_cons_self
    · rw [if_neg hnew] at hother
      by_cases hold : old_key = other
      · rw [if_pos hold] at hother
        cases hother
      · rw [if_neg hold] at hother
        exact List.mem_append_left _ (hinv.frozen other held hother)
  retired other hdead := by
    rw [List.map_append]
    rcases (mem_insert_key _ _ _).mp hdead with rfl | hdead
    · exact List.mem_append_left _ (List.mem_map_of_mem (hinv.frozen old_key entry hlive))
    · exact List.mem_append_left _ (hinv.retired other hdead)
  accounted other hborn := by
    rw [List.map_append, List.mem_append, List.map_singleton, List.mem_singleton] at hborn
    rw [getElem?_insert_key, getElem?_erase_key, mem_insert_key]
    by_cases hnew : new_key = other
    · rw [if_pos hnew]
      exact .inl rfl
    · by_cases hold : old_key = other
      · exact .inr (.inl hold)
      · rw [if_neg hnew, if_neg hold]
        rcases hborn with hborn | hborn
        · rcases hinv.accounted other hborn with hsome | hdead
          · exact .inl hsome
          · exact .inr (.inr hdead)
        · exact absurd hborn.symm hnew

theorem BirthInv.step (hinv : BirthInv history sm)
    (call : Call) : BirthInv (history ++ (call_step sm call).1.toList) (call_step sm call).2 := by
  cases call with
  | observe_attestation key control_pubkey | observe_transition old_key new_key =>
    simp only [call_step, Option.toList_none, List.append_nil]
    exact ⟨hinv.nodup, hinv.frozen, hinv.retired, hinv.accounted⟩
  | apply op =>
    obtain ⟨e, happly⟩ | ⟨applied, after, happly, happlies⟩ := StateMachine.apply_cases sm op
    · simp only [call_step, happly, Option.toList_none, List.append_nil]
      exact hinv
    · simp only [call_step, happly]
      cases happlies with
      | register hattested hfree hretired =>
        simp only [Op.born, Option.map_some, Option.toList_some, hattested]
        exact hinv.register ⟨_, _, _⟩ hfree hretired
      | pin hlive =>
        simp only [Op.born, Option.map_none, Option.toList_none, List.append_nil]
        exact hinv.pin hlive rfl
      | transition hne hlive hrevoked hfree hretired hattested hauthorized =>
        simp only [Op.born, Option.map_some, Option.toList_some, hattested]
        exact hinv.transition ⟨_, _, _⟩ hlive hfree hretired
      | revoke hretired hlive =>
        simp only [Op.born, Option.map_none, Option.toList_none, List.append_nil]
        exact ⟨hinv.nodup, hinv.frozen, hinv.retired, hinv.accounted⟩

theorem BirthInv.run (hinv : BirthInv history sm)
    (calls : List Call) :
    BirthInv (history ++ births sm calls) (machine.run call_step sm calls) := by
  induction calls generalizing history sm with
  | nil =>
    simp only [births, machine.results_nil, List.reduceOption_nil, List.append_nil]
    exact hinv
  | cons call calls ih =>
    have hnext := ih (hinv.step call)
    have hbirths : births sm (call :: calls) =
        (call_step sm call).1.toList ++ births (call_step sm call).2 calls := by
      rw [births, machine.results_cons]
      cases (call_step sm call).1 with
      | none => rw [List.reduceOption_cons_of_none]; rfl
      | some birth => rw [List.reduceOption_cons_of_some]; rfl
    rw [hbirths, ← List.append_assoc]
    exact hnext

theorem births_inv (calls : List Call) :
    BirthInv (births StateMachine.new calls) (machine.run call_step StateMachine.new calls) :=
  BirthInv.empty.run calls

theorem BirthInv.retired_not_reborn
    (hinv : BirthInv history sm) (hretired : key ∈ sm.retired) (calls : List Call) :
    key ∉ (births sm calls).map Prod.fst := by
  intro hborn
  have hnodup := (hinv.run calls).nodup
  rw [List.map_append] at hnodup
  exact List.disjoint_of_nodup_append hnodup (hinv.retired key hretired) hborn

theorem BirthInv.birth_unique (hinv : BirthInv history sm) {pubkey pubkey' : Option ControlPubkey}
    (hbirth : (key, pubkey) ∈ history)
    (hbirth' : (key, pubkey') ∈ history) : pubkey = pubkey' := by
  have hinj := List.inj_on_of_nodup_map hinv.nodup hbirth hbirth' rfl
  exact congrArg Prod.snd hinj

end enclavia.synchronizer
