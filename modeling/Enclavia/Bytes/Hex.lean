import Mathlib.Data.List.Basic

namespace bytes

def hex_digit (c : Char) : Option Nat :=
  if '0' ≤ c ∧ c ≤ '9' then some (c.toNat - '0'.toNat)
  else if 'a' ≤ c ∧ c ≤ 'f' then some (c.toNat - 'a'.toNat + 10)
  else if 'A' ≤ c ∧ c ≤ 'F' then some (c.toNat - 'A'.toNat + 10)
  else none

def hex_pairs : List Char → Option (List UInt8)
  | [] => some []
  | [_] => none
  | high :: low :: rest => do
    let high ← hex_digit high
    let low ← hex_digit low
    let rest ← hex_pairs rest
    return UInt8.ofNat (high * 16 + low) :: rest

def hex_decode (text : String) : Option (List UInt8) := hex_pairs text.toList

def hex_encode (bytes : List UInt8) : String :=
  String.ofList (bytes.flatMap fun byte => [Nat.digitChar (byte.toNat / 16), Nat.digitChar (byte.toNat % 16)])

theorem hex_digit_digitChar {n : Nat} (hn : n < 16) : hex_digit (Nat.digitChar n) = some n := by
  have hall : ∀ n ∈ List.range 16, hex_digit (Nat.digitChar n) = some n := by decide
  exact hall n (List.mem_range.mpr hn)

theorem hex_pairs_flatMap (bytes : List UInt8) :
    hex_pairs (bytes.flatMap fun byte => [Nat.digitChar (byte.toNat / 16), Nat.digitChar (byte.toNat % 16)]) =
      some bytes := by
  induction bytes with
  | nil => rfl
  | cons byte rest ih =>
    have hbyte : byte.toNat < 256 := byte.toNat_lt
    have hhigh := hex_digit_digitChar (n := byte.toNat / 16) (by omega)
    have hlow := hex_digit_digitChar (n := byte.toNat % 16) (by omega)
    have hsum : byte.toNat / 16 * 16 + byte.toNat % 16 = byte.toNat := by omega
    simp only [List.flatMap_cons, List.cons_append, List.nil_append, hex_pairs, hhigh, hlow, ih, hsum,
      UInt8.ofNat_toNat, Option.bind_eq_bind, Option.bind_some, Option.pure_def]

@[simp] theorem hex_decode_encode (bytes : List UInt8) : hex_decode (hex_encode bytes) = some bytes := by
  simp [hex_decode, hex_encode, hex_pairs_flatMap]

def to_ascii_lowercase (text : String) : String := String.ofList (text.toList.map Char.toLower)

def eq_ignore_ascii_case (text other : String) : Bool := text.toList.map Char.toLower = other.toList.map Char.toLower

theorem hex_digit_toLower (c : Char) : hex_digit c.toLower = hex_digit c := by
  by_cases hupper : c.toNat - 65 < 26 ∧ 65 ≤ c.toNat
  · have hall : ∀ n ∈ List.range 26, hex_digit (Char.ofNat (n + 65)).toLower = hex_digit (Char.ofNat (n + 65)) := by
      decide
    have h := hall (c.toNat - 65) (List.mem_range.mpr hupper.1)
    rwa [Nat.sub_add_cancel hupper.2, Char.ofNat_toNat] at h
  · have hlower : c.toLower = c := by
      unfold Char.toLower
      refine dif_neg fun h => hupper ?_
      have h1 : (65 : Nat) ≤ c.toNat := h.1
      have h2 : c.toNat ≤ 90 := h.2
      omega
    rw [hlower]

theorem hex_pairs_map_toLower (text : List Char) : hex_pairs (text.map Char.toLower) = hex_pairs text := by
  induction text using hex_pairs.induct with
  | case1 | case2 c => rfl
  | case3 high low rest ih => simp only [List.map_cons, hex_pairs, hex_digit_toLower, ih]

theorem hex_decode_of_eq_ignore_ascii_case {text other : String} (h : eq_ignore_ascii_case text other = true) :
    hex_decode text = hex_decode other := by
  rw [hex_decode, hex_decode, ← hex_pairs_map_toLower text.toList, of_decide_eq_true h, hex_pairs_map_toLower]

variable {decoded : List UInt8}

end bytes
