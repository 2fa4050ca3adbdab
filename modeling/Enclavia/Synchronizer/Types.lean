import Std.Data.ExtTreeMap
import Std.Data.ExtTreeSet
import Mathlib.Tactic.Common
import Mathlib.Algebra.Ring.Nat

namespace enclavia.synchronizer

def CONTROL_PUBKEY_LEN : Nat := 65

def MIN_CLUSTER_NODES : Nat := 3

abbrev Bytes32 := Vector UInt8 32

instance : Std.TransOrd Bytes32 := Vector.instTransOrd

abbrev ControlPubkey := Vector UInt8 CONTROL_PUBKEY_LEN

structure PcrKey where
  bytes : Bytes32
deriving DecidableEq

structure Commitment where
  bytes : Bytes32
deriving DecidableEq

/-- Per-key version counter. -/
structure Version where
  val : UInt64
deriving DecidableEq

theorem Version.toNat_succ {version : Version} (hroom : version.val.toNat + 1 < 2 ^ 64) :
    (version.val + 1).toNat = version.val.toNat + 1 := by
  rw [UInt64.toNat_add]
  exact Nat.mod_eq_of_lt hroom

instance : Ord PcrKey := ⟨compareOn PcrKey.bytes⟩

instance : Std.TransOrd PcrKey := inferInstanceAs (Std.TransCmp (compareOn PcrKey.bytes))

instance : Std.LawfulEqOrd PcrKey where
  eq_of_compare {a b} h := by
    obtain ⟨a⟩ := a
    obtain ⟨b⟩ := b
    exact congrArg PcrKey.mk (Std.LawfulEqOrd.eq_of_compare (α := Bytes32) h)

theorem getElem?_insert_key {V : Type} (map : Std.ExtTreeMap PcrKey V) (key other : PcrKey) (value : V) :
    (map.insert key value)[other]? = if key = other then some value else map[other]? := by
  simp only [Std.ExtTreeMap.getElem?_insert, Std.LawfulEqCmp.compare_eq_iff_eq]

theorem getElem?_erase_key {V : Type} (map : Std.ExtTreeMap PcrKey V) (key other : PcrKey) :
    (map.erase key)[other]? = if key = other then none else map[other]? := by
  simp only [Std.ExtTreeMap.getElem?_erase, Std.LawfulEqCmp.compare_eq_iff_eq]

theorem mem_insert_key (set : Std.ExtTreeSet PcrKey) (key other : PcrKey) :
    other ∈ set.insert key ↔ key = other ∨ other ∈ set := by
  simp only [Std.ExtTreeSet.mem_insert, Std.LawfulEqCmp.compare_eq_iff_eq]

def compare_pair : PcrKey × PcrKey → PcrKey × PcrKey → Ordering :=
  compareLex (compareOn Prod.fst) (compareOn Prod.snd)

instance : Std.TransCmp compare_pair :=
  inferInstanceAs (Std.TransCmp (compareLex (compareOn Prod.fst) (compareOn Prod.snd)))

instance : Std.LawfulEqCmp compare_pair where
  eq_of_compare {a b} h := by
    obtain ⟨hfst, hsnd⟩ := Ordering.then_eq_eq.mp h
    exact Prod.ext (Std.LawfulEqOrd.eq_of_compare hfst) (Std.LawfulEqOrd.eq_of_compare hsnd)

inductive Op where
  | Register (key : PcrKey) (commitment : Commitment)
  | Pin (key : PcrKey) (expected_version : Version) (commitment : Commitment)
  | Transition (old_key new_key : PcrKey) (link_hash : Bytes32) (commitment : Commitment)
  | Revoke (key : PcrKey) (link_hash : Bytes32)

structure KeyState where
  commitment : Commitment
  version : Version
  control_pubkey : ControlPubkey
deriving DecidableEq

inductive ValidationError where
  | NotAttested
  | AlreadyRegistered
  | KeyRetired
  | KeyNotCurrent
  | StalePin (expected current : Version)
  | NewKeyAlreadyExists
  | NewKeyNotAttested
  | NoTransitionAuthorization
  | OldKeyEqualsNew
  | TransitionRevoked
  | CommitmentMismatch
deriving DecidableEq

def ValidationError.message : ValidationError → String
  | .NotAttested => "PCR key has not produced a hardware attestation"
  | .AlreadyRegistered => "PCR key is already registered"
  | .KeyRetired => "PCR key has been retired"
  | .KeyNotCurrent => "PCR key is not currently registered"
  | .StalePin expected current =>
    s!"pin version conflict: expected Version({expected.val}), current is Version({current.val})"
  | .NewKeyAlreadyExists => "transition target key is already registered"
  | .NewKeyNotAttested => "transition target key has not produced an attestation"
  | .NoTransitionAuthorization => "no verified transition authorization observed for (old_key, new_key)"
  | .OldKeyEqualsNew => "transition old_key equals new_key"
  | .TransitionRevoked => "the upgrade link authorizing this transition has been revoked"
  | .CommitmentMismatch => "transition commitment does not match the old key's latest commitment"

end enclavia.synchronizer
