import Mathlib.Data.List.Basic
import Mathlib.Tactic.Linarith

/-! Reading text as Rust does: white space, splitting and decimal numbers. -/

namespace text

/-- `char::is_whitespace`. -/
def is_whitespace (c : Char) : Bool :=
  c = ' ' || ('\t' ≤ c && c ≤ '\r') || c.toNat = 0x85 || c.toNat = 0xa0 || c.toNat = 0x1680 ||
    (0x2000 ≤ c.toNat && c.toNat ≤ 0x200a) || c.toNat = 0x2028 || c.toNat = 0x2029 || c.toNat = 0x202f ||
    c.toNat = 0x205f || c.toNat = 0x3000

def trim_start (chars : List Char) : List Char := chars.dropWhile is_whitespace

def trim_end (chars : List Char) : List Char := (chars.reverse.dropWhile is_whitespace).reverse

def split_once (c : Char) (chars : List Char) : Option (List Char × List Char) :=
  if c ∈ chars then some (chars.takeWhile (· ≠ c), (chars.dropWhile (· ≠ c)).drop 1) else none

def parse_digits (value : Nat) : List Char → Option Nat
  | [] => some value
  | c :: rest => if c.isDigit then parse_digits (value * 10 + (c.toNat - '0'.toNat)) rest else none

/-- The number that decimal digits stand for, behind the digits of `value`. -/
def decimal (value : Nat) (digits : List Char) : Nat :=
  digits.foldl (fun value c => value * 10 + (c.toNat - '0'.toNat)) value

theorem parse_digits_eq_some {value n : Nat} {digits : List Char} :
    parse_digits value digits = some n ↔ (∀ c ∈ digits, c.isDigit = true) ∧ decimal value digits = n := by
  induction digits generalizing value with
  | nil => simp [parse_digits, decimal]
  | cons c rest ih => simp [parse_digits, decimal, ih, and_assoc]

end text
