import Enclavia.Crypto.Sha256
import Std.Data.ExtTreeMap

namespace enclavia.protocol

def PCR_LEN : Nat := 48

def MAX_PCRS : Nat := 32

def USER_PCR_FIRST : Nat := 16

def USER_PCR_COUNT : Nat := MAX_PCRS - USER_PCR_FIRST

def PIN_IDENTITY_DST : List UInt8 := "enclavia/synchronizer/pin-identity/v1".toUTF8.toList

abbrev Pcr := Vector UInt8 PCR_LEN

def ZERO_USER_PCRS : Vector Pcr USER_PCR_COUNT := Vector.replicate _ (Vector.replicate _ 0)

inductive PinIdentityError where
  | MissingImagePcr (index : Nat)
  | BadLength (index len : Nat)
  | IndexOutOfRange (index : Nat)
deriving DecidableEq

structure PinIdentity where
  image : Vector Pcr 3
  user : Vector Pcr USER_PCR_COUNT
deriving DecidableEq

abbrev DocPcrs := Std.ExtTreeMap Nat (List UInt8)

namespace PinIdentity

def fixed (index : Nat) (value : List UInt8) : Except PinIdentityError Pcr :=
  if h : value.length = PCR_LEN then .ok ⟨value.toArray, h⟩
  else .error (.BadLength index value.length)

def check_entries : List (Nat × List UInt8) → Except PinIdentityError Unit
  | [] => .ok ()
  | (index, value) :: rest =>
    if MAX_PCRS ≤ index then .error (.IndexOutOfRange index)
    else if value.length ≠ PCR_LEN then .error (.BadLength index value.length)
    else check_entries rest

def image_pcr (pcrs : DocPcrs) (index : Nat) : Except PinIdentityError Pcr :=
  match pcrs[index]? with
  | none => .error (.MissingImagePcr index)
  | some value => fixed index value

def user_pcr (pcrs : DocPcrs) (slot : Nat) : Except PinIdentityError Pcr :=
  match pcrs[USER_PCR_FIRST + slot]? with
  | none => .ok (Vector.replicate _ 0)
  | some value => fixed (USER_PCR_FIRST + slot) value

def from_doc_pcrs (pcrs : DocPcrs) : Except PinIdentityError PinIdentity := do
  check_entries pcrs.toList
  let image := #v[← image_pcr pcrs 0, ← image_pcr pcrs 1, ← image_pcr pcrs 2]
  let user ← (Vector.range USER_PCR_COUNT).mapM (user_pcr pcrs)
  return { image, user }

def canonical_bytes (identity : PinIdentity) : List UInt8 :=
  PIN_IDENTITY_DST ++ (identity.image.toList ++ identity.user.toList).flatMap Vector.toList

def key (identity : PinIdentity) : Vector UInt8 32 := crypto.sha256 identity.canonical_bytes

theorem flatMap_toList_inj {n : Nat} (hn : 0 < n) {l l' : List (Vector UInt8 n)}
    (h : l.flatMap Vector.toList = l'.flatMap Vector.toList) : l = l' := by
  induction l generalizing l' with
  | nil =>
    cases l' with
    | nil => rfl
    | cons v l' =>
      have hlen := congrArg List.length h
      simp only [List.flatMap_nil, List.flatMap_cons, List.length_append, List.length_nil,
        Vector.length_toList] at hlen
      omega
  | cons v l ih =>
    cases l' with
    | nil =>
      have hlen := congrArg List.length h
      simp only [List.flatMap_nil, List.flatMap_cons, List.length_append, List.length_nil,
        Vector.length_toList] at hlen
      omega
    | cons v' l' =>
      simp only [List.flatMap_cons] at h
      obtain ⟨hhead, htail⟩ := List.append_inj h (by simp)
      rw [Vector.toList_inj.mp hhead, ih htail]

theorem canonical_bytes_injective {a b : PinIdentity} (h : a.canonical_bytes = b.canonical_bytes) :
    a = b := by
  have hpcrs := flatMap_toList_inj (by decide) (List.append_cancel_left h)
  obtain ⟨himage, huser⟩ := List.append_inj hpcrs (by simp)
  cases a
  cases b
  rw [PinIdentity.mk.injEq]
  exact ⟨Vector.toList_inj.mp himage, Vector.toList_inj.mp huser⟩

def uniform (byte : UInt8) : PinIdentity := ⟨Vector.replicate _ (Vector.replicate _ byte), ZERO_USER_PCRS⟩

theorem uniform_one_key : (uniform 1).key =
    #v[180, 214, 198, 179, 197, 1, 203, 168, 120, 102, 71, 166, 62, 135, 186, 59, 51, 167, 9, 208, 128, 229, 196,
      169, 175, 159, 20, 147, 103, 226, 122, 223] := by
  decide +kernel

theorem uniform_two_key : (uniform 2).key =
    #v[233, 4, 136, 203, 38, 27, 217, 225, 32, 44, 158, 169, 180, 181, 121, 102, 184, 98, 88, 17, 53, 251, 127, 178,
      46, 38, 124, 1, 225, 4, 48, 12] := by
  decide +kernel

end PinIdentity

end enclavia.protocol
