import Enclavia.Ledger.Lineage
import Enclavia.Synchronizer.Raft.ViewSteps

open ledger

namespace enclavia.synchronizer.raft

/-- What the synchronizer is for: append-only commitment histories, each owned by the one live
key of its enclave, and the keys that gave their history away. -/
structure LineageSpec where
  lineages : Ledger PcrKey Commitment
  retired : List PcrKey

namespace LineageSpec

def empty : LineageSpec := ⟨[], []⟩

/-- The abstract effect of an entry with its result. -/
def step (spec : LineageSpec) : ReplicatedOp → ReplicatedOpResult → LineageSpec
  | .Register key commitment _, .Applied _ =>
    { spec with lineages := spec.lineages.create key commitment }
  | .Pin key _ commitment, .Applied _ =>
    { spec with lineages := spec.lineages.append key commitment }
  | .Transition old_key new_key _ _ _ _, .Applied _ =>
    ⟨spec.lineages.hand_over old_key new_key, spec.retired ++ [old_key]⟩
  | .Revoke _ _, .Applied _ => spec
  | _, .Rejected _ => spec

def of_log (log : List ReplicatedOp) : LineageSpec :=
  (log.zip (replay_results log)).foldl (fun spec entry => spec.step entry.1 entry.2) empty

theorem of_log_concat (log : List ReplicatedOp) (op : ReplicatedOp) :
    of_log (log ++ [op]) = (of_log log).step op ((view (replay log)).apply op).1 := by
  have hresult : replay_results (log ++ [op]) =
      replay_results log ++ [((view (replay log)).apply op).1] := by
    rw [replay_results, machine.results_append, ← apply_one_view]
    rfl
  have hlength : log.length = (replay_results log).length :=
    (machine.results_length apply_one StateMachine.new log).symm
  rw [of_log, hresult, List.zip_append hlength, List.foldl_append]
  rfl

theorem step_extends (spec : LineageSpec) (op : ReplicatedOp) (result : ReplicatedOpResult) :
    spec.lineages.Extends (spec.step op result).lineages := by
  cases result with
  | Rejected e => cases op <;> exact Ledger.Extends.refl _
  | Applied entry =>
    cases op with
    | Register key commitment _ => exact Ledger.extends_create _ key commitment
    | Pin key _ commitment => exact Ledger.extends_append _ key commitment
    | Transition old_key new_key _ _ _ _ => exact Ledger.extends_hand_over _ old_key new_key
    | Revoke _ _ => exact Ledger.Extends.refl _

theorem step_sameOf (spec : LineageSpec) {op : ReplicatedOp} (result : ReplicatedOpResult)
    {key : PcrKey} (hkey : key ∉ op.keys) :
    Ledger.SameOf key spec.lineages (spec.step op result).lineages := by
  cases result with
  | Rejected e => cases op <;> exact Ledger.SameOf.refl key _
  | Applied entry =>
    cases op with
    | Register named commitment _ =>
      exact Ledger.sameOf_create (List.ne_of_not_mem_cons hkey) _ commitment
    | Pin named _ commitment =>
      exact Ledger.sameOf_append (List.ne_of_not_mem_cons hkey) _ commitment
    | Transition old_key new_key _ _ _ _ =>
      have hnew : key ∉ [new_key] := List.not_mem_of_not_mem_cons hkey
      exact Ledger.sameOf_hand_over (List.ne_of_not_mem_cons hkey) (List.ne_of_not_mem_cons hnew) _
    | Revoke _ _ => exact Ledger.SameOf.refl key _

theorem of_log_extends (log more : List ReplicatedOp) :
    (of_log log).lineages.Extends (of_log (log ++ more)).lineages := by
  induction more using List.reverseRecOn with
  | nil =>
    rw [List.append_nil]
    exact Ledger.Extends.refl _
  | append_singleton more op ih =>
    rw [← List.append_assoc, of_log_concat]
    exact ih.trans (step_extends _ op _)

end LineageSpec

def Holds (lineage : Lineage PcrKey Commitment) (entry : KeyState) : Prop :=
  lineage.items.getLast? = some entry.commitment ∧
    entry.version.val.toNat + 1 = lineage.items.length

/-- The inductive invariant between the ledger and the committed part. -/
structure LineageInv (spec : LineageSpec) (v : View) (bound : Nat) : Prop where
  owners_nodup : spec.lineages.owners.Nodup
  live_owner : ∀ key, v.state[key]?.isSome → key ∈ spec.lineages.owners
  owner_holds : ∀ lineage ∈ spec.lineages, ∃ entry, v.state[lineage.owner]? = some entry ∧
    Holds lineage entry
  length_le : ∀ lineage ∈ spec.lineages, lineage.items.length ≤ bound + 1
  retired_iff : ∀ key, key ∈ v.retired ↔ key ∈ spec.retired

end enclavia.synchronizer.raft
