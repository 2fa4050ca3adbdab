import Enclavia.Bytes.Hex

namespace json

inductive Value where
  | null
  | bool (value : Bool)
  | number (text : String)
  | string (text : String)
  | array (items : List Value)
  | object (fields : List (String × Value))

def Value.get (value : Value) (key : String) : Option Value :=
  match value with
  | .object fields => fields.lookup key
  | _ => none

def Value.as_str : Value → Option String
  | .string text => some text
  | _ => none

def Value.as_object : Value → Option (List (String × Value))
  | .object fields => some fields
  | _ => none

end json

/-! How a policy document grants requests. The names of actions and of condition keys are compared without regard to
case, an action may be named by a pattern. -/

namespace iam

open json bytes

inductive Glob : List Char → List Char → Prop
  | nil : Glob [] []
  | char {c : Char} {pattern text : List Char} (htail : Glob pattern text) : Glob (c :: pattern) (c :: text)
  | one {c : Char} {pattern text : List Char} (htail : Glob pattern text) : Glob ('?' :: pattern) (c :: text)
  | skip {pattern text : List Char} (htail : Glob pattern text) : Glob ('*' :: pattern) text
  | take {c : Char} {pattern text : List Char} (htail : Glob ('*' :: pattern) text) :
      Glob ('*' :: pattern) (c :: text)

theorem Glob.refl : (text : List Char) → Glob text text
  | [] => .nil
  | _ :: rest => .char (refl rest)

theorem Glob.eq_of_plain {pattern text : List Char} (h : Glob pattern text) (hstar : '*' ∉ pattern)
    (hquestion : '?' ∉ pattern) : pattern = text := by
  induction h with
  | nil => rfl
  | char htail ih =>
    rw [ih (fun h => hstar (List.mem_cons_of_mem _ h)) (fun h => hquestion (List.mem_cons_of_mem _ h))]
  | one htail ih => exact absurd List.mem_cons_self hquestion
  | skip htail ih | take htail ih => exact absurd List.mem_cons_self hstar

def NamesAction (pattern action : String) : Prop :=
  Glob (to_ascii_lowercase pattern).toList (to_ascii_lowercase action).toList

def texts : Option Value → List String
  | some (.string text) => [text]
  | some (.array items) => items.filterMap Value.as_str
  | _ => []

/-- What a policy is evaluated on: the action, and the context by the lower-case names of its keys. -/
structure Request where
  action : String
  context : String → Option String

def Covers (statement : Value) (action : String) : Prop :=
  (∃ pattern ∈ texts (statement.get "Action"), NamesAction pattern action) ∨
    (statement.get "NotAction").isSome ∧ ∀ pattern ∈ texts (statement.get "NotAction"), ¬NamesAction pattern action

def EqualityHolds (operator key : String) (values : Value) (request : Request) : Prop :=
  ∃ found, request.context (to_ascii_lowercase key) = some found ∧ ∃ value ∈ texts (some values),
    (operator = "StringEquals" → found = value) ∧
      (operator = "StringEqualsIgnoreCase" → eq_ignore_ascii_case found value = true)

def EqualitiesHold (statement : Value) (request : Request) : Prop :=
  ∀ condition, statement.get "Condition" = some (.object condition) →
    ∀ operator tests, (operator, Value.object tests) ∈ condition →
      operator = "StringEquals" ∨ operator = "StringEqualsIgnoreCase" →
        ∀ key values, (key, values) ∈ tests → EqualityHolds operator key values request

def statements (document : Value) : List Value :=
  match document.get "Statement" with
  | some (.array items) => items
  | some other => [other]
  | none => []

/-- A request is allowed only by a statement that allows its action and whose conditions hold. -/
def Allowed (admits : Value → Request → Prop) (document : Value) (request : Request) : Prop :=
  ∃ statement ∈ statements document, (statement.get "Effect").bind Value.as_str = some "Allow" ∧
    Covers statement request.action ∧ EqualitiesHold statement request ∧ admits statement request

end iam
