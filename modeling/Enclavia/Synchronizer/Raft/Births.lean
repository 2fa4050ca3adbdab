import Enclavia.Synchronizer.Births
import Enclavia.Synchronizer.Raft.Store

namespace enclavia.synchronizer.raft

def ReplicatedOp.calls : ReplicatedOp → List Call
  | .Register key commitment control_pubkey =>
    [.observe_attestation key control_pubkey, .apply (.Register key commitment)]
  | .Pin key expected_version commitment => [.apply (.Pin key expected_version commitment)]
  | .Transition old_key new_key new_control_pubkey link_hash _ commitment =>
    [.observe_attestation new_key new_control_pubkey, .observe_transition old_key new_key,
      .apply (.Transition old_key new_key link_hash commitment)]
  | .Revoke key link_hash => [.apply (.Revoke key link_hash)]

def ReplicatedOp.born : ReplicatedOp → Option (PcrKey × ControlPubkey)
  | .Register key _ control_pubkey => some (key, control_pubkey)
  | .Transition _ new_key new_control_pubkey _ _ _ => some (new_key, new_control_pubkey)
  | .Pin .. => none
  | .Revoke .. => none

private theorem call_apply_step (sm : StateMachine) (op : Op) :
    (call_step sm (.apply op)).2 = (sm.apply op).2 := by
  rw [call_step]
  split
  · next happly => rw [happly]
  · next happly => rw [happly]

theorem run_calls (sm : StateMachine) (op : ReplicatedOp) :
    machine.run call_step sm op.calls = (apply_one sm op).2 := by
  cases op <;> exact call_apply_step _ _

theorem run_flatMap_calls (log : List ReplicatedOp) :
    machine.run call_step StateMachine.new (log.flatMap ReplicatedOp.calls) = replay log := by
  induction log using List.reverseRecOn with
  | nil => rfl
  | append_singleton log op ih =>
    rw [List.flatMap_append, machine.run_append, ih, List.flatMap_singleton, run_calls,
      replay_concat]

private theorem mem_births_apply {sm : StateMachine} {op : Op} {birth : Birth}
    (hbirth : birth ∈ births sm [.apply op]) :
    ∃ key state, op.born = some key ∧ birth = (key, sm.attested[key]?) ∧
      (sm.apply op).1 = .ok state := by
  rw [births, machine.results_cons, machine.results_nil, List.reduceOption_mem_iff,
    List.mem_singleton, call_step] at hbirth
  cases happly : sm.apply op with
  | mk result after =>
    rw [happly] at hbirth
    cases result with
    | error e => cases hbirth
    | ok state =>
      obtain ⟨key, hborn, hkey⟩ := Option.map_eq_some_iff.mp hbirth.symm
      exact ⟨key, state, hborn, hkey.symm, rfl⟩

variable {key : PcrKey} {pubkey : Option ControlPubkey} {log : List ReplicatedOp}

theorem mem_births_calls {sm : StateMachine} {op : ReplicatedOp} (hbirth : (key, pubkey) ∈ births sm op.calls) :
    ∃ control_pubkey, pubkey = some control_pubkey ∧ op.born = some (key, control_pubkey) ∧
      ∃ state, (apply_one sm op).1 = .Applied state := by
  cases op with
  | Register named commitment control_pubkey =>
    have hsingle : (key, pubkey) ∈ births (sm.observe_attestation named control_pubkey)
        [.apply (.Register named commitment)] := hbirth
    obtain ⟨born, state, hborn, heq, happly⟩ := mem_births_apply hsingle
    cases hborn
    cases heq
    refine ⟨control_pubkey, StateMachine.observe_attestation_attested _ _ _, rfl, state, ?_⟩
    rw [apply_one, happly]
    rfl
  | Pin named expected_version commitment | Revoke named link_hash =>
    obtain ⟨born, state, hborn, -⟩ := mem_births_apply hbirth
    cases hborn
  | Transition old_key new_key new_control_pubkey link_hash valid_until_ms commitment =>
    have hsingle : (key, pubkey) ∈ births
        ((sm.observe_attestation new_key new_control_pubkey).observe_transition old_key new_key)
        [.apply (.Transition old_key new_key link_hash commitment)] := hbirth
    obtain ⟨born, state, hborn, heq, happly⟩ := mem_births_apply hsingle
    cases hborn
    cases heq
    refine ⟨new_control_pubkey, StateMachine.observe_attestation_attested _ _ _, rfl, state, ?_⟩
    rw [apply_one, happly]
    rfl

def log_births (log : List ReplicatedOp) : List Birth :=
  births StateMachine.new (log.flatMap ReplicatedOp.calls)

theorem log_births_append (log more : List ReplicatedOp) :
    log_births (log ++ more) =
      log_births log ++ births (replay log) (more.flatMap ReplicatedOp.calls) := by
  rw [log_births, List.flatMap_append, births_append, run_flatMap_calls]
  rfl

theorem log_births_inv (log : List ReplicatedOp) : BirthInv (log_births log) (replay log) := by
  rw [← run_flatMap_calls]
  exact births_inv _

theorem mem_log_births (hbirth : (key, pubkey) ∈ log_births log) :
    ∃ earlier op later control_pubkey, log = earlier ++ op :: later ∧
      pubkey = some control_pubkey ∧ op.born = some (key, control_pubkey) ∧
      ∃ state, (apply_one (replay earlier) op).1 = .Applied state := by
  induction log using List.reverseRecOn with
  | nil => cases hbirth
  | append_singleton log op ih =>
    rw [log_births_append, List.mem_append, List.flatMap_singleton] at hbirth
    rcases hbirth with hbirth | hbirth
    · obtain ⟨earlier, entry, later, control_pubkey, hlog, hrest⟩ := ih hbirth
      exact ⟨earlier, entry, later ++ [op], control_pubkey, by rw [hlog]; simp, hrest⟩
    · obtain ⟨control_pubkey, hpubkey, hborn, happlied⟩ := mem_births_calls hbirth
      exact ⟨log, op, [], control_pubkey, rfl, hpubkey, hborn, happlied⟩

theorem born_of_live {entry : KeyState} (hlive : (replay log).get key = some entry) :
    ∃ earlier op later, log = earlier ++ op :: later ∧ op.born = some (key, entry.control_pubkey) ∧
      ∃ state, (apply_one (replay earlier) op).1 = .Applied state := by
  have hbirth := (log_births_inv log).frozen key entry hlive
  obtain ⟨earlier, op, later, control_pubkey, hsplit, hpubkey, hborn, happlied⟩ := mem_log_births hbirth
  cases hpubkey
  exact ⟨earlier, op, later, hsplit, hborn, happlied⟩

theorem control_pubkey_frozen {before more : List ReplicatedOp} {entry entry' : KeyState}
    (hread : (replay before).get key = some entry) (hlater : (replay (before ++ more)).get key = some entry') :
    entry'.control_pubkey = entry.control_pubkey := by
  have hbirth := (log_births_inv before).frozen key entry hread
  have hinv := log_births_inv (before ++ more)
  have hbirth' := hinv.frozen key entry' hlater
  have hmem : (key, some entry.control_pubkey) ∈ log_births (before ++ more) := by
    rw [log_births_append]
    exact List.mem_append_left _ hbirth
  exact Option.some.inj (hinv.birth_unique hbirth' hmem)

/-- Over any interleaving of calls a key becomes live at most once and never after retirement, and while it is live its
control pubkey is the one attested at that birth. -/
theorem key_born_at_most_once (calls : List Call) (log : List ReplicatedOp) :
    ((births StateMachine.new calls).map Prod.fst).Nodup ∧
      (∀ before after, calls = before ++ after →
        let sm := machine.run call_step StateMachine.new before
        (∀ key, key ∈ sm.retired → key ∉ (births sm after).map Prod.fst) ∧
        ∀ key entry, sm.get key = some entry →
          (key, some entry.control_pubkey) ∈ births StateMachine.new before ∧
          ∀ pubkey, (key, pubkey) ∈ births StateMachine.new calls →
            pubkey = some entry.control_pubkey) ∧
      (∀ before after, log = before ++ after → ∀ key entry, (replay before).get key = some entry →
        (∃ earlier op later, before = earlier ++ op :: later ∧
          op.born = some (key, entry.control_pubkey) ∧
          ∃ state, (apply_one (replay earlier) op).1 = .Applied state) ∧
        ∀ more rest, after = more ++ rest → ∀ entry', (replay (before ++ more)).get key = some entry' →
          entry'.control_pubkey = entry.control_pubkey) := by
  refine ⟨(births_inv calls).nodup, ?_, ?_⟩
  · rintro before after rfl
    refine ⟨fun key hretired => (births_inv before).retired_not_reborn hretired after, ?_⟩
    intro key entry hget
    have hbirth := (births_inv before).frozen key entry hget
    refine ⟨hbirth, ?_⟩
    intro pubkey hother
    refine (births_inv (before ++ after)).birth_unique hother ?_
    rw [births_append]
    exact List.mem_append_left _ hbirth
  · rintro before after rfl key entry hget
    refine ⟨born_of_live hget, ?_⟩
    intro more rest _ entry' hlater
    exact control_pubkey_frozen hget hlater

/-- A re-attestation with another pubkey does not rotate the pubkey of a live key. -/
theorem key_born_at_most_once_reattested :
    let key : PcrKey := ⟨Vector.replicate 32 1⟩
    let commitment : Commitment := ⟨Vector.replicate 32 7⟩
    let calls := [Call.observe_attestation key (Vector.replicate 65 4),
      .apply (.Register key commitment), .observe_attestation key (Vector.replicate 65 5)]
    let entry : KeyState := ⟨commitment, ⟨0⟩, Vector.replicate 65 4⟩
    (machine.run call_step StateMachine.new calls).get key = some entry ∧
      (key, some (Vector.replicate 65 4)) ∈ births StateMachine.new calls := by
  intro key commitment calls entry
  have hget : (machine.run call_step StateMachine.new calls).get key = some entry := by
    decide +kernel
  have hborn := (key_born_at_most_once calls []).2.1 calls [] (List.append_nil calls).symm
  exact ⟨hget, (hborn.2 key entry hget).1⟩

end enclavia.synchronizer.raft
