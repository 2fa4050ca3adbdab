import Mathlib.Data.List.Basic
import Mathlib.Algebra.Ring.Nat

namespace bytes

def be : (width : Nat) → Nat → List UInt8
  | 0, _ => []
  | width + 1, n => be width (n / 256) ++ [UInt8.ofNat n]

def of_be (bytes : List UInt8) : Nat := bytes.foldl (fun n byte => n * 256 + byte.toNat) 0

def field (bytes : List UInt8) (start width : Nat) : Nat := of_be ((bytes.drop start).take width)

@[simp] theorem length_be (width n : Nat) : (be width n).length = width := by
  induction width generalizing n with
  | zero => rfl
  | succ width ih => rw [be, List.length_append, ih, List.length_singleton]

theorem of_be_concat (bytes : List UInt8) (byte : UInt8) :
    of_be (bytes ++ [byte]) = of_be bytes * 256 + byte.toNat := by
  rw [of_be, List.foldl_append]
  rfl

theorem of_be_be {width n : Nat} (hn : n < 256 ^ width) : of_be (be width n) = n := by
  induction width generalizing n with
  | zero =>
    rw [Nat.pow_zero, Nat.lt_one_iff] at hn
    rw [hn]
    rfl
  | succ width ih =>
    have hdiv : n / 256 < 256 ^ width := by
      rw [Nat.div_lt_iff_lt_mul (by decide), ← Nat.pow_succ]
      exact hn
    rw [be, of_be_concat, ih hdiv, UInt8.toNat_ofNat']
    exact Nat.div_add_mod' n 256

theorem field_be_append {width n : Nat} (hn : n < 256 ^ width) (rest : List UInt8) :
    field (be width n ++ rest) 0 width = n := by
  rw [field, List.drop_zero, List.take_left' (length_be width n), of_be_be hn]

theorem field_append_add {before : List UInt8} {skipped : Nat} (hbefore : before.length = skipped) (rest : List UInt8)
    (start width : Nat) : field (before ++ rest) (skipped + start) width = field rest start width := by
  rw [field, ← hbefore, List.drop_append, List.drop_eq_nil_of_le (Nat.le_add_right _ _), List.nil_append,
    Nat.add_sub_cancel_left, field]

end bytes
