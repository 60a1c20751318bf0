import LibraryDetection.Json.Value

/-!
# Violations of a record's form

A record is checked field by field, and a fault of one field does not keep the others
from being checked: the violations of all of them are listed in order.
-/

namespace LibraryDetection.Validation

set_option autoImplicit false

inductive Rule
  | validJson
  | present
  | object
  | list
  | text
  | choice
  | whole
  | wholeText
  | wholeWithoutFraction
  | wholeSize
  | finite
  | truth
  | truthText
  | date
  | dateText
  | momentText
  | midnight
  deriving DecidableEq, Repr

def Rule.name : Rule → String
  | .validJson => "json_invalid"
  | .present => "missing"
  | .object => "model_type"
  | .list => "list_type"
  | .text => "string_type"
  | .choice => "literal_error"
  | .whole => "int_type"
  | .wholeText => "int_parsing"
  | .wholeWithoutFraction => "int_from_float"
  | .wholeSize => "int_parsing_size"
  | .finite => "finite_number"
  | .truth => "bool_type"
  | .truthText => "bool_parsing"
  | .date => "date_type"
  | .dateText => "date_parsing"
  | .momentText => "date_from_datetime_parsing"
  | .midnight => "date_from_datetime_inexact"

inductive Step
  | field (name : String)
  | item (index : Nat)
  deriving DecidableEq, Repr

structure Violation where
  rule : Rule
  place : List Step
  deriving DecidableEq, Repr

inductive Checked (α : Type)
  | valid (value : α)
  | invalid (violations : List Violation)

namespace Checked

variable {α β : Type}

def violates (rule : Rule) : Checked α := .invalid [⟨rule, []⟩]

def map (change : α → β) : Checked α → Checked β
  | .valid value => .valid (change value)
  | .invalid violations => .invalid violations

def apply : Checked (α → β) → Checked α → Checked β
  | .valid make, .valid value => .valid (make value)
  | .valid _, .invalid violations => .invalid violations
  | .invalid violations, .valid _ => .invalid violations
  | .invalid violations, .invalid others => .invalid (violations ++ others)

instance : Applicative Checked where
  pure := .valid
  map := Checked.map
  seq first second := first.apply (second ())

def within (step : Step) : Checked α → Checked α
  | .valid value => .valid value
  | .invalid violations =>
      .invalid (violations.map fun violation => ⟨violation.rule, step :: violation.place⟩)

def andThen (first : Checked α) (next : α → Checked β) : Checked β :=
  match first with
  | .valid value => next value
  | .invalid violations => .invalid violations

end Checked

def object : Json → Checked (List (String × Json))
  | .object fields => .valid fields
  | _ => .violates .object

def required {α : Type} (name : String) (check : Json → Checked α)
    (fields : List (String × Json)) : Checked α :=
  Checked.within (.field name) <| match Json.field? name fields with
    | some value => check value
    | none => .violates .present

def optional {α : Type} (name : String) (absent : α) (check : Json → Checked α)
    (fields : List (String × Json)) : Checked α :=
  Checked.within (.field name) <| match Json.field? name fields with
    | some value => check value
    | none => .valid absent

def itemsFrom {α : Type} (check : Json → Checked α) : Nat → List Json → Checked (List α)
  | _, [] => .valid []
  | index, item :: rest =>
      List.cons <$> Checked.within (.item index) (check item)
        <*> itemsFrom check (index + 1) rest

def list {α : Type} (check : Json → Checked α) : Json → Checked (List α)
  | .list items => itemsFrom check 0 items
  | _ => .violates .list

def nullable {α : Type} (check : Json → Checked α) : Json → Checked (Option α)
  | .null => .valid none
  | value => some <$> check value

def text : Json → Checked String
  | .text value => .valid value
  | _ => .violates .text

def choice {α : Type} (meaning? : String → Option α) : Json → Checked α
  | .text value =>
      match meaning? value with
      | some found => .valid found
      | none => .violates .choice
  | _ => .violates .choice

end LibraryDetection.Validation
