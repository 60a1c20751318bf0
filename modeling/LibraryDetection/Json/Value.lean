/-!
# JSON values

Numbers without a fraction and an exponent are whole numbers of any size, all others
are floats.  An object keeps its fields in the order of their first appearance.
-/

namespace LibraryDetection

set_option autoImplicit false

inductive Json
  | null
  | bool (value : Bool)
  | whole (value : Int)
  | real (value : Float)
  | text (value : String)
  | list (items : List Json)
  | object (fields : List (String × Json))
  deriving Inhabited

namespace Json

/-- Sets a field: an earlier field of the name takes the new value in its place, as the last one
of two equal names counts. -/
def putField (name : String) (value : Json) :
    List (String × Json) → List (String × Json)
  | [] => [(name, value)]
  | (other, old) :: rest =>
      if other = name then (name, value) :: rest
      else (other, old) :: putField name value rest

def field? (name : String) (fields : List (String × Json)) : Option Json :=
  fields.lookup name

def get? (name : String) : Json → Option Json
  | .object fields => field? name fields
  | _ => none

def isNull : Json → Bool
  | .null => true
  | _ => false

def truth : Json → Bool
  | .null => false
  | .bool value => value
  | .whole value => value ≠ 0
  | .real value => !(value == 0.0)
  | .text value => value ≠ ""
  | .list items => !items.isEmpty
  | .object fields => !fields.isEmpty

def ofOption {α : Type} (encode : α → Json) : Option α → Json
  | none => .null
  | some value => encode value

def texts (values : List String) : Json := .list (values.map .text)

theorem field?_put_field_same (name : String) (value : Json)
    (fields : List (String × Json)) :
    field? name (putField name value fields) = some value := by
  induction fields with
  | nil => simp [putField, field?]
  | cons entry rest ih =>
      obtain ⟨other, old⟩ := entry
      simp only [putField]
      split
      · simp [field?]
      · rename_i different
        simp only [field?, List.lookup_cons] at ih ⊢
        have : (name == other) = false := by simp [Ne.symm different]
        rw [this]
        exact ih

theorem field?_put_field_other {name other : String} (different : other ≠ name)
    (value : Json) (fields : List (String × Json)) :
    field? other (putField name value fields) = field? other fields := by
  induction fields with
  | nil => simp [putField, field?, different]
  | cons entry rest ih =>
      obtain ⟨head, old⟩ := entry
      simp only [putField]
      split
      · rename_i same
        have miss : (other == name) = false := by simp [different]
        simp only [field?, List.lookup_cons, same, miss]
      · simp only [field?, List.lookup_cons] at ih ⊢
        rw [ih]

end Json

end LibraryDetection
