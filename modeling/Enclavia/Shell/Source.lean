import Mathlib.Data.List.Basic
import Mathlib.Logic.Function.Basic

/-! The part of a POSIX shell that reads a file of assignments: words with their quoting, one simple command a line.
Reading fails at a character that would start any other construct. -/

namespace shell

abbrev Word := List (Char × Bool)

inductive Mode where
  | unquoted
  | escaped
  | quoted
deriving DecidableEq

/-- What has been read: the word and the line that are not over yet, and the lines before. -/
structure Reader where
  mode : Mode
  word : Option Word
  words : List Word
  lines : List (List Word)

def QUOTE : Char := '\x27'

def plain (c : Char) : Bool := c.isAlphanum || c == '_' || c == '=' || c == '-' || c == '.' || c == '/' || c == ':'

def is_name_char (c : Char) : Bool := c.isAlphanum || c == '_'

def is_name : List Char → Bool
  | [] => false
  | first :: rest => (first.isAlpha || first == '_') && rest.all is_name_char

namespace Reader

def start : Reader := ⟨.unquoted, none, [], []⟩

def push (r : Reader) (c : Char) (quoted : Bool) : Reader := { r with word := some (r.word.getD [] ++ [(c, quoted)]) }

def end_word (r : Reader) : Reader := { r with word := none, words := r.words ++ r.word.toList }

def end_line (r : Reader) : Reader :=
  { r with word := none, words := [], lines := r.lines ++ [r.words ++ r.word.toList] }

def read (r : Reader) (c : Char) : Option Reader :=
  if c = '\x00' then some r
  else match r.mode with
  | .quoted => if c = QUOTE then some { r with mode := .unquoted } else some (r.push c true)
  | .escaped =>
    -- an escaped newline continues the line
    if c = '\n' then some { r with mode := .unquoted } else some { r.push c true with mode := .unquoted }
  | .unquoted =>
    if c = QUOTE then some { r with mode := .quoted, word := some (r.word.getD []) }
    else if c = '\\' then some { r with mode := .escaped }
    else if c = '\n' then some r.end_line
    else if c = ' ' ∨ c = '\t' then some r.end_word
    else if plain c then some (r.push c false)
    else none

end Reader

def assignment (w : Word) : Option (String × String) :=
  let name := w.takeWhile (· ≠ ('=', false))
  match w.dropWhile (· ≠ ('=', false)) with
  | [] => none
  | _ :: value =>
    if is_name (name.map (·.1)) && name.all (!·.2) then
      some (String.ofList (name.map (·.1)), String.ofList (value.map (·.1)))
    else none

structure State where
  vars : String → Option String
  ran : List (List Word)

def assign (vars : String → Option String) (assigned : String × String) : String → Option String :=
  Function.update vars assigned.1 (some assigned.2)

def State.execute (s : State) (line : List Word) : State :=
  match line.mapM assignment with
  | some assigned => { s with vars := assigned.foldl assign s.vars }
  | none => { s with ran := s.ran ++ [line] }

def source (text : List Char) (vars : String → Option String) : Option State :=
  match text.foldlM Reader.read .start with
  | some r => if r.mode = .unquoted then some (r.end_line.lines.foldl State.execute ⟨vars, []⟩) else none
  | none => none

def quote : List Char → List Char
  | [] => []
  | c :: rest => if c = QUOTE then QUOTE :: '\\' :: QUOTE :: QUOTE :: quote rest else c :: quote rest

def visible (text : List Char) : List Char := text.filter (· ≠ '\x00')

variable {assigned : List (String × String)}

theorem foldl_assign_of_not_mem {name : String} (h : name ∉ assigned.map (·.1)) (vars : String → Option String) :
    assigned.foldl assign vars name = vars name := by
  induction assigned generalizing vars with
  | nil => rfl
  | cons first rest ih =>
    simp only [List.map_cons, List.mem_cons, not_or] at h
    rw [List.foldl_cons, ih h.2, assign, Function.update_of_ne h.1]

theorem foldl_assign_of_mem {name value : String} (hdistinct : (assigned.map (·.1)).Nodup)
    (hmem : (name, value) ∈ assigned) (vars : String → Option String) :
    assigned.foldl assign vars name = some value := by
  induction assigned generalizing vars with
  | nil => cases hmem
  | cons first rest ih =>
    simp only [List.map_cons, List.nodup_cons] at hdistinct
    rw [List.foldl_cons]
    rcases List.mem_cons.mp hmem with rfl | hmem
    · rw [foldl_assign_of_not_mem hdistinct.1, assign, Function.update_self]
    · exact ih hdistinct.2 hmem _

section Lines

variable {r : Reader} {name value : List Char} {w : Word} {words : List Word} {lines : List (List Word)}

theorem plain_of_name_char {c : Char} (h : is_name_char c) : plain c := by
  simp only [is_name_char, Bool.or_eq_true] at h
  simp only [plain, Bool.or_eq_true]
  tauto

theorem name_chars (h : is_name name) : ∀ c ∈ name, is_name_char c = true := by
  cases name with
  | nil => simp
  | cons first rest =>
    simp only [is_name, Bool.and_eq_true, Bool.or_eq_true, List.all_eq_true] at h
    intro c hc
    rcases List.mem_cons.mp hc with rfl | hc
    · simp only [is_name_char, Char.isAlphanum, Bool.or_eq_true]
      tauto
    · exact h.2 c hc

theorem read_plain {c : Char} (h : plain c) (hmode : r.mode = .unquoted) : r.read c = some (r.push c false) := by
  have hne : ∀ d, plain d = false → c ≠ d := by
    rintro d hd rfl
    exact Bool.false_ne_true (hd.symm.trans h)
  have hblank : ¬(c = ' ' ∨ c = '\t') := by
    rintro (rfl | rfl) <;> exact absurd h (by decide)
  unfold Reader.read
  rw [if_neg (hne _ (by decide)), hmode]
  simp only
  rw [if_neg (hne _ (by decide)), if_neg (hne _ (by decide)), if_neg (hne _ (by decide)), if_neg hblank, if_pos h]

theorem foldlM_plain (h : ∀ c ∈ name, plain c = true) :
    name.foldlM Reader.read ⟨.unquoted, some w, words, lines⟩ =
      some ⟨.unquoted, some (w ++ name.map (·, false)), words, lines⟩ := by
  induction name generalizing w with
  | nil => simp
  | cons c rest ih =>
    rw [List.foldlM_cons, read_plain (h c List.mem_cons_self) rfl]
    refine (ih fun d hd => h d (List.mem_cons_of_mem _ hd)).trans ?_
    simp

theorem foldlM_quote :
    (quote value).foldlM Reader.read ⟨.quoted, some w, words, lines⟩ =
      some ⟨.quoted, some (w ++ (visible value).map (·, true)), words, lines⟩ := by
  induction value generalizing w with
  | nil => simp [quote, visible]
  | cons c rest ih =>
    by_cases hquote : c = QUOTE
    · subst hquote
      have hread : ∀ tail, (QUOTE :: '\\' :: QUOTE :: QUOTE :: tail).foldlM Reader.read
        ⟨.quoted, some w, words, lines⟩ =
          tail.foldlM Reader.read ⟨.quoted, some (w ++ [(QUOTE, true)]), words, lines⟩ := fun tail => rfl
      have hvisible : visible (QUOTE :: rest) = QUOTE :: visible rest := rfl
      rw [quote, if_pos rfl, hread, ih, hvisible]
      simp
    · rw [quote, if_neg hquote, List.foldlM_cons]
      by_cases hnul : c = '\x00'
      · subst hnul
        have hvisible : visible ('\x00' :: rest) = visible rest := rfl
        rw [hvisible]
        exact ih
      · have hread : Reader.read ⟨.quoted, some w, words, lines⟩ c =
            some ⟨.quoted, some (w ++ [(c, true)]), words, lines⟩ := by
          simp [Reader.read, hnul, hquote, Reader.push]
        have hvisible : visible (c :: rest) = c :: visible rest := by simp [visible, hnul]
        rw [hread, hvisible]
        refine ih.trans ?_
        simp

def assignment_line (name value : List Char) : List Char := name ++ '=' :: QUOTE :: quote value ++ [QUOTE, '\n']

def assignment_word (name value : List Char) : Word :=
  name.map (·, false) ++ ('=', false) :: (visible value).map (·, true)

theorem foldlM_assignment_line (h : is_name name) :
    (assignment_line name value).foldlM Reader.read ⟨.unquoted, none, [], lines⟩ =
      some ⟨.unquoted, none, [], lines ++ [[assignment_word name value]]⟩ := by
  obtain ⟨first, rest, rfl⟩ := List.exists_cons_of_ne_nil (l := name) (by rintro rfl; cases h)
  have hplain : ∀ c ∈ first :: rest, plain c = true := fun c hc => plain_of_name_char (name_chars h c hc)
  have hfirst : Reader.read ⟨.unquoted, none, [], lines⟩ first = some ⟨.unquoted, some [(first, false)], [], lines⟩ :=
    read_plain (hplain first List.mem_cons_self) rfl
  have hequals : ∀ w tail, ('=' :: QUOTE :: tail).foldlM Reader.read ⟨.unquoted, some w, [], lines⟩ =
      tail.foldlM Reader.read ⟨.quoted, some (w ++ [('=', false)]), [], lines⟩ := fun _ _ => rfl
  have hend : ∀ w, [QUOTE, '\n'].foldlM Reader.read ⟨.quoted, some w, [], lines⟩ =
      some ⟨.unquoted, none, [], lines ++ [[w]]⟩ := fun _ => rfl
  rw [assignment_line, List.cons_append, List.cons_append, List.foldlM_cons, hfirst]
  simp only [Option.bind_eq_bind, Option.bind_some, List.append_assoc, List.cons_append]
  rw [List.foldlM_append, foldlM_plain fun c hc => hplain c (List.mem_cons_of_mem _ hc)]
  simp only [Option.bind_eq_bind, Option.bind_some]
  rw [hequals, List.foldlM_append, foldlM_quote]
  simp only [Option.bind_eq_bind, Option.bind_some]
  rw [hend]
  simp [assignment_word]

theorem assignment_assignment_word (h : is_name name) :
    assignment (assignment_word name value) = some (String.ofList name, String.ofList (visible value)) := by
  have hne : ∀ m ∈ name.map (·, false), decide (m ≠ ('=', false)) = true := by
    intro m hm
    obtain ⟨c, hc, rfl⟩ := List.mem_map.mp hm
    have hchar := name_chars h c hc
    refine decide_eq_true ?_
    rintro heq
    cases heq
    exact absurd hchar (by decide)
  have htake : (assignment_word name value).takeWhile (· ≠ ('=', false)) = name.map (·, false) := by
    rw [assignment_word, List.takeWhile_append_of_pos hne, List.takeWhile_cons_of_neg (by simp), List.append_nil]
  have hdrop : (assignment_word name value).dropWhile (· ≠ ('=', false)) =
      ('=', false) :: (visible value).map (·, true) := by
    rw [assignment_word, List.dropWhile_append_of_pos hne, List.dropWhile_cons_of_neg (by simp)]
  have hname : (name.map (·, false)).map (·.1) = name := by
    rw [List.map_map]
    exact List.map_id name
  have hvalue : ((visible value).map (·, true)).map (·.1) = visible value := by
    rw [List.map_map]
    exact List.map_id _
  unfold assignment
  rw [htake, hdrop]
  simp only [hname, hvalue, h, Bool.true_and]
  rw [if_pos (by simp)]

theorem source_assignments {entries : List (List Char × List Char)} (h : ∀ entry ∈ entries, is_name entry.1)
    (vars : String → Option String) :
    source (entries.flatMap fun entry => assignment_line entry.1 entry.2) vars =
      some ⟨(entries.map fun entry => (String.ofList entry.1, String.ofList (visible entry.2))).foldl assign vars,
        []⟩ := by
  have hread : ∀ lines, (entries.flatMap fun entry => assignment_line entry.1 entry.2).foldlM Reader.read
      ⟨.unquoted, none, [], lines⟩ =
      some ⟨.unquoted, none, [], lines ++ entries.map fun entry => [assignment_word entry.1 entry.2]⟩ := by
    induction entries with
    | nil => simp
    | cons entry rest ih =>
      intro lines
      rw [List.flatMap_cons, List.foldlM_append, foldlM_assignment_line (h entry List.mem_cons_self)]
      refine (ih (fun e he => h e (List.mem_cons_of_mem _ he)) _).trans ?_
      simp
  have hexecute : ∀ vars, (entries.map fun entry => [assignment_word entry.1 entry.2]).foldl State.execute ⟨vars, []⟩ =
      ⟨(entries.map fun entry => (String.ofList entry.1, String.ofList (visible entry.2))).foldl assign vars, []⟩ := by
    clear hread
    induction entries with
    | nil => simp
    | cons entry rest ih =>
      intro vars
      have hline : State.execute ⟨vars, []⟩ [assignment_word entry.1 entry.2] =
          ⟨assign vars (String.ofList entry.1, String.ofList (visible entry.2)), []⟩ := by
        simp [State.execute, assignment_assignment_word (h entry List.mem_cons_self)]
      rw [List.map_cons, List.foldl_cons, hline, ih fun e he => h e (List.mem_cons_of_mem _ he)]
      simp
  have hlast : ∀ s : State, s.execute [] = s := fun _ => rfl
  unfold source
  rw [Reader.start, hread]
  simp only [if_true, Reader.end_line, List.nil_append, Option.toList_none, List.append_nil, List.foldl_append,
    hexecute,
    List.foldl_cons, List.foldl_nil, hlast]

end Lines

end shell
