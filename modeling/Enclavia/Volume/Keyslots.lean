import Enclavia.Bytes.Text
import Enclavia.Luks.Volume
import Mathlib.Data.List.Basic
import Mathlib.Tactic.Linarith

open text

namespace enclavia.crypto

def parse_u32 (text : List Char) : Option Nat :=
  let digits := match text with
    | '+' :: rest => rest
    | _ => text
  match digits with
  | [] => none
  | _ => (parse_digits 0 digits).filter (· < 2 ^ 32)

def strip_cr (line : List Char) : List Char := if line.getLast? = some '\r' then line.dropLast else line

def lines_from (line : List Char) : List Char → List (List Char)
  | [] => if line = [] then [] else [line]
  | c :: rest => if c = '\n' then strip_cr line :: lines_from [] rest else lines_from (line ++ [c]) rest

def lines (text : String) : List (List Char) := lines_from [] text.toList

def slot_of_line (line : List Char) : Option Nat :=
  match split_once ':' (trim_start line) with
  | some (idx, _) => parse_u32 idx
  | none => none

def starts_indented (line : List Char) : Bool := line.head? = some ' ' || line.head? = some '\t'

def is_keyslots (line : List Char) : Bool := trim_end line = "Keyslots:".toList

def scan_lines (in_keyslots seen_section : Bool) (slots : List Nat) : List (List Char) → Option (List Nat)
  | [] => if seen_section then some slots else none
  | line :: rest =>
    if line ≠ [] ∧ ¬starts_indented line then
      scan_lines (is_keyslots line) (seen_section || is_keyslots line) slots rest
    else if !in_keyslots then scan_lines in_keyslots seen_section slots rest
    else
      match slot_of_line line with
      | some n => scan_lines in_keyslots seen_section (slots ++ [n]) rest
      | none => scan_lines in_keyslots seen_section slots rest

def parse_occupied_keyslots (dump : String) : Option (List Nat) := scan_lines false false [] (lines dump)

def first_free_from (occupied : List Nat) (n : Nat) : (bound : Nat) → Nat
  | 0 => n
  | bound + 1 => if n ∈ occupied then first_free_from occupied (n + 1) bound else n

def first_free_from_occupied (occupied : List Nat) : Nat := first_free_from occupied 0 (occupied.length + 1)

abbrev IsDump {Key : Type} (dump : String) (slots : luks.Slots Key) : Prop :=
  luks.Dumps (fun line => (slot_of_line line).isSome) (fun line => !starts_indented line && is_keyslots line)
    (lines dump) slots

theorem starts_indented_iff {line : List Char} : starts_indented line = true ↔ luks.Indented line := by
  simp only [starts_indented, luks.Indented, Bool.or_eq_true, decide_eq_true_eq]

theorem first_free_from_not_mem {occupied : List Nat} {n bound : Nat}
    (hbound : (occupied.filter (n ≤ ·)).length < bound) : first_free_from occupied n bound ∉ occupied := by
  induction bound generalizing n with
  | zero => omega
  | succ bound ih =>
    rw [first_free_from]
    split
    · next hmem =>
      apply ih
      have hlt : (occupied.filter (n + 1 ≤ ·)).length < (occupied.filter (n ≤ ·)).length := by
        have hsub : occupied.filter (n + 1 ≤ ·) = (occupied.filter (n ≤ ·)).filter (n + 1 ≤ ·) := by
          rw [List.filter_filter]
          refine List.filter_congr fun x _ => ?_
          by_cases h : n + 1 ≤ x
          · have : n ≤ x := by omega
            simp [h, this]
          · simp [h]
        rw [hsub, List.length_filter_lt_length_iff_exists]
        exact ⟨n, List.mem_filter.mpr ⟨hmem, by simp⟩, by simp⟩
      omega
    · assumption

theorem first_free_from_occupied_not_mem (occupied : List Nat) :
    first_free_from_occupied occupied ∉ occupied := by
  refine first_free_from_not_mem ?_
  have := List.length_filter_le (fun x => decide (0 ≤ x)) occupied
  omega

theorem slot_of_entry {n : Nat} (hn : n < luks.KEYSLOTS_MAX) :
    slot_of_line ("  ".toList ++ (Nat.repr n).toList ++ ": luks2".toList) = some n := by
  have hall : ∀ n ∈ List.range 32, slot_of_line ("  ".toList ++ (Nat.repr n).toList ++ ": luks2".toList) = some n := by
    decide +kernel
  exact hall n (List.mem_range.mpr hn)

section Scan

variable {seen : Bool} {slots : List Nat} {rest : List (List Char)}

theorem scan_before {before : List (List Char)}
    (h : ∀ line ∈ before, (!starts_indented line && is_keyslots line) = false) :
    scan_lines false seen slots (before ++ rest) = scan_lines false seen slots rest := by
  induction before with
  | nil => rfl
  | cons line before ih =>
    obtain ⟨hline, hbefore⟩ := List.forall_mem_cons.mp h
    rw [List.cons_append, scan_lines]
    by_cases hheading : line ≠ [] ∧ ¬starts_indented line
    · have hno : is_keyslots line = false := by simpa [hheading.2] using hline
      rw [if_pos hheading, hno, Bool.or_false, ih hbefore]
    · rw [if_neg hheading]
      exact ih hbefore

theorem scan_attributes {attributes : List (List Char)}
    (h : ∀ line ∈ attributes, luks.IsAttribute (fun line => (slot_of_line line).isSome) line) :
    scan_lines true seen slots (attributes ++ rest) = scan_lines true seen slots rest := by
  induction attributes with
  | nil => rfl
  | cons line attributes ih =>
    obtain ⟨⟨hindented, hnumber⟩, hattributes⟩ := List.forall_mem_cons.mp h
    have hslot : slot_of_line line = none := by simpa using hnumber
    rw [List.cons_append, scan_lines, if_neg (fun hheading => hheading.2 (starts_indented_iff.mpr hindented))]
    simp only [hslot]
    exact ih hattributes

theorem scan_entries {entries : List luks.Entry}
    (h : ∀ entry ∈ entries, entry.index < luks.KEYSLOTS_MAX ∧
      ∀ line ∈ entry.attributes, luks.IsAttribute (fun line => (slot_of_line line).isSome) line) :
    scan_lines true seen slots (List.flatMap luks.Entry.lines entries ++ rest) =
      scan_lines true seen (slots ++ entries.map luks.Entry.index) rest := by
  induction entries generalizing slots with
  | nil => simp
  | cons entry entries ih =>
    obtain ⟨⟨hindex, hattributes⟩, hentries⟩ := List.forall_mem_cons.mp h
    rw [List.flatMap_cons, luks.Entry.lines, List.cons_append, List.cons_append, scan_lines,
      if_neg (fun hheading => hheading.2 rfl)]
    simp only [slot_of_entry hindex, Bool.not_true, Bool.false_eq_true, if_false]
    rw [List.append_assoc, scan_attributes hattributes, ih hentries, List.map_cons, List.append_assoc,
      List.singleton_append]

theorem scan_after {after : List (List Char)} (hhead : ∀ line, after.head? = some line → luks.IsHeading line)
    (h : ∀ line ∈ after, (!starts_indented line && is_keyslots line) = false) :
    scan_lines true true slots after = some slots := by
  cases after with
  | nil => rfl
  | cons line after =>
    obtain ⟨hline, hafter⟩ := List.forall_mem_cons.mp h
    obtain ⟨hne, hindented⟩ := hhead line rfl
    rw [← starts_indented_iff] at hindented
    have hno : is_keyslots line = false := by simpa [hindented] using hline
    rw [scan_lines, if_pos ⟨hne, hindented⟩, hno, ← List.append_nil after, Bool.or_false, scan_before hafter]
    rfl

end Scan

theorem parse_occupied_keyslots_dump {Key : Type} {dump : String} {slots : luks.Slots Key} (h : IsDump dump slots) :
    ∃ occupied, parse_occupied_keyslots dump = some occupied ∧ ∀ n, n ∈ occupied ↔ slots n ≠ none := by
  obtain ⟨before, heading, entries, after, hlines, hkeyslots, hheading, hother, hafter, hentries, hlive⟩ := h.sections
  obtain ⟨hbefore, hrest⟩ := List.forall_mem_append.mp hother
  have hindented : ¬starts_indented heading = true := fun h => hheading.2 (starts_indented_iff.mp h)
  have hopens : is_keyslots heading = true := by simpa [hindented] using hkeyslots
  refine ⟨entries.map luks.Entry.index, ?_, fun n => (hlive n).symm⟩
  rw [parse_occupied_keyslots, hlines, scan_before hbefore, scan_lines, if_pos ⟨hheading.1, hindented⟩, hopens,
    Bool.or_true, scan_entries hentries, scan_after hafter hrest, List.nil_append]

end enclavia.crypto
