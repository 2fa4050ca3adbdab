import Enclavia.Crypto.Sha256
import Enclavia.Synchronizer.Types

open enclavia.synchronizer

namespace enclavia.nbd_client

def SB_PRIMARY_FS_OFFSET : UInt64 := 0x10000

def SB_REGION_LEN : Nat := 4096

inductive SbOverlap where
  | None
  | Full (payload_offset : Nat)
  | Partial
deriving DecidableEq

def saturating_add (a b : UInt64) : UInt64 :=
  if a.toNat + b.toNat < UInt64.size then a + b else UInt64.ofNat (UInt64.size - 1)

def primary_sb_overlap (offset : UInt64) (length : UInt32) (data_offset : UInt64) : SbOverlap :=
  let region_start := data_offset + SB_PRIMARY_FS_OFFSET
  let region_end := region_start + UInt64.ofNat SB_REGION_LEN
  let write_end := saturating_add offset length.toUInt64
  if write_end ≤ region_start || offset ≥ region_end then .None
  else if offset ≤ region_start && write_end ≥ region_end then .Full (region_start - offset).toNat
  else .Partial

theorem toNat_saturating_add (a b : UInt64) :
    (saturating_add a b).toNat = min (a.toNat + b.toNat) (UInt64.size - 1) := by
  rw [saturating_add]
  split
  · next h =>
    rw [UInt64.toNat_add, Nat.mod_eq_of_lt h]
    omega
  · next h =>
    rw [UInt64.toNat_ofNat']
    simp only [UInt64.size] at h ⊢
    omega

theorem toNat_region_end (region_start : UInt64) :
    (region_start + UInt64.ofNat SB_REGION_LEN).toNat = (region_start.toNat + 4096) % 2 ^ 64 := by
  rw [UInt64.toNat_add]
  rfl

theorem primary_sb_overlap_full {offset data_offset : UInt64} {length : UInt32} {payload_offset : Nat}
    (h : primary_sb_overlap offset length data_offset = .Full payload_offset) :
    offset.toNat + payload_offset = (data_offset + SB_PRIMARY_FS_OFFSET).toNat ∧
      (data_offset + SB_PRIMARY_FS_OFFSET).toNat + SB_REGION_LEN < 2 ^ 64 ∧
      payload_offset + SB_REGION_LEN ≤ length.toNat := by
  have hoffset := offset.toNat_lt
  have hlength := length.toNat_lt
  rw [primary_sb_overlap] at h
  generalize data_offset + SB_PRIMARY_FS_OFFSET = region_start at h ⊢
  have hstart := region_start.toNat_lt
  simp only [UInt64.le_iff_toNat_le, toNat_saturating_add, UInt32.toNat_toUInt64, ge_iff_le, toNat_region_end,
    Bool.or_eq_true,
    Bool.and_eq_true, decide_eq_true_eq, UInt64.size] at h
  split at h
  · cases h
  split at h
  · next hfull =>
    cases h
    rw [UInt64.toNat_sub_of_le _ _ (UInt64.le_iff_toNat_le.mpr hfull.1)]
    simp only [SB_REGION_LEN]
    omega
  · cases h

def window (payload_offset : Nat) (payload : List UInt8) : List UInt8 :=
  (payload.drop payload_offset).take SB_REGION_LEN

def commitment_of_region (region : List UInt8) : Bytes32 := crypto.sha256 region

def region_is_blank (region : List UInt8) : Bool := region.all (· == 0)

end enclavia.nbd_client
