import LibraryDetection.Validation.Violation

/-!
# Checks that find a value

A record whose fields all pass their checks has a value, and so has a list all of whose
items do.
-/

namespace LibraryDetection.Validation

set_option autoImplicit false

variable {α β : Type}

namespace Checked

@[simp]
theorem map_valid (change : α → β) (value : α) :
    change <$> Checked.valid value = .valid (change value) := rfl

@[simp]
theorem seq_valid (change : α → β) (value : α) :
    Checked.valid change <*> Checked.valid value = .valid (change value) := rfl

@[simp]
theorem within_valid (step : Step) (value : α) :
    Checked.within step (.valid value) = .valid value := rfl

@[simp]
theorem and_then_valid (value : α) (next : α → Checked β) :
    (Checked.valid value).andThen next = next value := rfl

end Checked

section Fields

variable {name : String} {check : Json → Checked α} {fields : List (String × Json)}
  {json : Json} {value : α}

theorem required_of_field? (check : Json → Checked α) (found : Json.field? name fields = some json)
    (passes : check json = .valid value) : required name check fields = .valid value := by
  rw [required, found]
  dsimp only
  rw [passes]
  rfl

theorem optional_of_field? (absent : α) (found : Json.field? name fields = some json)
    (passes : check json = .valid value) : optional name absent check fields = .valid value := by
  rw [optional, found]
  dsimp only
  rw [passes]
  rfl

end Fields

theorem items_from_map {check : Json → Checked α} {tell : α → Json} {values : List α}
    (passes : ∀ value ∈ values, check (tell value) = .valid value) (index : Nat) :
    itemsFrom check index (values.map tell) = .valid values := by
  induction values generalizing index with
  | nil => rfl
  | cons value rest ih =>
      have others := ih (fun other member => passes other (List.mem_cons_of_mem value member))
        (index + 1)
      rw [List.map_cons, itemsFrom, passes value List.mem_cons_self, others]
      rfl

theorem list_map {check : Json → Checked α} {tell : α → Json} {values : List α}
    (passes : ∀ value ∈ values, check (tell value) = .valid value) :
    list check (.list (values.map tell)) = .valid values :=
  items_from_map passes 0

theorem list_text_texts (values : List String) : list text (Json.texts values) = .valid values :=
  list_map fun _ _ => rfl

end LibraryDetection.Validation
