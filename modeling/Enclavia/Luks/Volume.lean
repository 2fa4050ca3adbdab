import Mathlib.Logic.Function.Basic

/-! A LUKS2 volume, as far as its keyslots go: what `cryptsetup` does to them, and what a dump of the header says. -/

namespace luks

def KEYSLOTS_MAX : Nat := 32

abbrev Slots (Key : Type) := Nat → Option Key

variable {Key : Type} {slots : Slots Key} {key other : Key} {n m : Nat}

def Opens (slots : Slots Key) (key : Key) : Prop := ∃ n, slots n = some key

def CanAdd (slots : Slots Key) (n : Nat) (key : Key) : Prop := n < KEYSLOTS_MAX ∧ slots n = none ∧ Opens slots key

def CanKill (slots : Slots Key) (n : Nat) (key : Key) : Prop := slots n ≠ none ∧ ∃ m, m ≠ n ∧ slots m = some key

def add_key (slots : Slots Key) (n : Nat) (key : Key) : Slots Key := Function.update slots n (some key)

def kill_slot (slots : Slots Key) (n : Nat) : Slots Key := Function.update slots n none

@[simp] theorem add_key_self : add_key slots n key n = some key := Function.update_self ..

@[simp] theorem kill_slot_self : kill_slot slots n n = none := Function.update_self ..

theorem add_key_of_ne (h : m ≠ n) : add_key slots n key m = slots m := Function.update_of_ne h ..

theorem kill_slot_of_ne (h : m ≠ n) : kill_slot slots n m = slots m := Function.update_of_ne h ..

theorem kill_slot_add_key (h : slots n = none) : kill_slot (add_key slots n key) n = slots := by
  rw [kill_slot, add_key, Function.update_idem, ← h, Function.update_eq_self]

theorem ne_of_free (hfree : slots n = none) (hlive : slots m = some key) : m ≠ n := by
  rintro rfl
  rw [hfree] at hlive
  cases hlive

theorem add_key_live (hfree : slots n = none) (hlive : slots m = some key) : add_key slots n other m = some key := by
  rw [add_key_of_ne (ne_of_free hfree hlive), hlive]

structure Entry where
  index : Nat
  attributes : List (List Char)

def Entry.lines (entry : Entry) : List (List Char) :=
  ("  ".toList ++ (Nat.repr entry.index).toList ++ ": luks2".toList) :: entry.attributes

def Indented (line : List Char) : Prop := line.head? = some ' ' ∨ line.head? = some '\t'

def IsAttribute (number : List Char → Bool) (line : List Char) : Prop :=
  Indented line ∧ number line = false

def IsHeading (line : List Char) : Prop := line ≠ [] ∧ ¬Indented line

/-- The lines of a dump of the volume: one section lists the keyslots, those that are live. -/
structure Dumps (number : List Char → Bool) (isKeyslots : List Char → Bool) (dump : List (List Char))
    (slots : Slots Key) : Prop where
  sections : ∃ before heading entries after,
    dump = before ++ heading :: (List.flatMap Entry.lines entries ++ after) ∧
    isKeyslots heading = true ∧ IsHeading heading ∧
    (∀ line ∈ before ++ after, isKeyslots line = false) ∧
    (∀ line, after.head? = some line → IsHeading line) ∧
    (∀ entry ∈ entries, entry.index < KEYSLOTS_MAX ∧ ∀ line ∈ entry.attributes, IsAttribute number line) ∧
    ∀ n, slots n ≠ none ↔ n ∈ entries.map Entry.index

end luks
