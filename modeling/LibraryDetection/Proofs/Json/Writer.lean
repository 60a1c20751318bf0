import LibraryDetection.Proofs.Json.Numeral
import LibraryDetection.Proofs.Json.Text

/-!
# Compact forms

A value on one line: the texts of its parts, joined by commas between their brackets.
-/

namespace LibraryDetection.Json

set_option autoImplicit false

open LibraryDetection.Text LibraryDetection.Number

@[induction_eliminator]
theorem induct {motive : Json → Prop} (null : motive .null) (bool : ∀ value, motive (.bool value))
    (whole : ∀ value, motive (.whole value)) (real : ∀ value, motive (.real value))
    (text : ∀ value, motive (.text value))
    (list : ∀ items, (∀ item ∈ items, motive item) → motive (.list items))
    (object : ∀ fields, (∀ field ∈ fields, motive field.2) → motive (.object fields)) :
    ∀ value, motive value
  | .null => null
  | .bool value => bool value
  | .whole value => whole value
  | .real value => real value
  | .text value => text value
  | .list items =>
      list items fun item _ => induct null bool whole real text list object item
  | .object fields =>
      object fields fun field _ => induct null bool whole real text list object field.2
termination_by value => value
decreasing_by
  · have smaller := List.sizeOf_lt_of_mem (by assumption : item ∈ items)
    simp only [Json.list.sizeOf_spec]
    omega
  · have smaller := List.sizeOf_lt_of_mem (by assumption : field ∈ fields)
    obtain ⟨name, value⟩ := field
    simp only [Prod.mk.sizeOf_spec, Json.object.sizeOf_spec] at smaller ⊢
    omega

def written (value : Json) : List Char := (write recordStyle value).toList

def writtenField (field : String × Json) : List Char :=
  (writeText false field.1).toList ++ ':' :: written field.2

theorem write_items_eq_map (style : Style) (depth : Nat) (items : List Json) :
    writeItems style depth items = items.map (writeAt style depth) := by
  induction items with
  | nil => rw [writeItems, List.map_nil]
  | cons item rest ih => rw [writeItems, ih, List.map_cons]

theorem write_fields_eq_map (style : Style) (depth : Nat) (fields : List (String × Json)) :
    writeFields style depth fields = fields.map fun field =>
      writeText style.asciiOnly field.1 ++ (if style.indented then ": " else ":")
        ++ writeAt style depth field.2 := by
  induction fields with
  | nil => rw [writeFields, List.map_nil]
  | cons field rest ih =>
      obtain ⟨name, value⟩ := field
      rw [writeFields, ih, List.map_cons]

theorem write_at_record_style (depth : Nat) (value : Json) :
    writeAt recordStyle depth value = write recordStyle value := by
  have compact : recordStyle.indented = false := rfl
  induction value generalizing depth with
  | null => rw [write, writeAt, writeAt]
  | bool value => rw [write, writeAt, writeAt]
  | whole value => rw [write, writeAt, writeAt]
  | real value => rw [write, writeAt, writeAt]
  | text value => rw [write, writeAt, writeAt]
  | list items ih =>
      have same : writeItems recordStyle (depth + 1) items = writeItems recordStyle 1 items := by
        rw [write_items_eq_map, write_items_eq_map]
        apply List.map_congr_left
        intro item member
        rw [ih item member (depth + 1), ih item member 1]
      rw [write, writeAt, writeAt, same, group, group, compact]
      rfl
  | object fields ih =>
      have same :
          writeFields recordStyle (depth + 1) fields = writeFields recordStyle 1 fields := by
        rw [write_fields_eq_map, write_fields_eq_map]
        apply List.map_congr_left
        intro field member
        rw [ih field member (depth + 1), ih field member 1]
      rw [write, writeAt, writeAt, same, group, group, compact]
      rfl

theorem toList_join_comma (pieces : List String) :
    (join "," pieces).toList = [','].intercalate (pieces.map String.toList) := by
  rw [join, String.toList_intercalate]
  rfl

theorem written_list (items : List Json) :
    written (.list items) = '[' :: ([','].intercalate (items.map written) ++ [']']) := by
  have entries : writeItems recordStyle 1 items = items.map (write recordStyle) := by
    rw [write_items_eq_map]
    apply List.map_congr_left
    intro item _
    exact write_at_record_style 1 item
  have chars : (items.map (write recordStyle)).map String.toList = items.map written := by
    rw [List.map_map]
    rfl
  rw [written, write, writeAt, entries, group]
  split
  · rename_i none
    have empty : items = [] := by simpa using none
    subst empty
    rfl
  · rw [if_neg (by decide), String.toList_append, String.toList_append, toList_join_comma, chars]
    rfl

theorem written_object (fields : List (String × Json)) :
    written (.object fields) =
      '\x7b' :: ([','].intercalate (fields.map writtenField) ++ ['\x7d']) := by
  have entries : writeFields recordStyle 1 fields = fields.map fun field =>
      writeText false field.1 ++ ":" ++ write recordStyle field.2 := by
    rw [write_fields_eq_map]
    apply List.map_congr_left
    intro field _
    rw [write_at_record_style]
    rfl
  have chars : (fields.map fun field =>
      writeText false field.1 ++ ":" ++ write recordStyle field.2).map String.toList =
        fields.map writtenField := by
    rw [List.map_map]
    apply List.map_congr_left
    intro field _
    simp only [Function.comp, String.toList_append, writtenField, written, List.append_assoc]
    rfl
  rw [written, write, writeAt, entries, group]
  split
  · rename_i none
    have empty : fields = [] := by simpa using none
    subst empty
    rfl
  · rw [if_neg (by decide), String.toList_append, String.toList_append, toList_join_comma, chars]
    rfl

theorem written_whole (value : Int) : written (.whole value) = wholeChars value := by
  rw [written, write, writeAt]
  exact toList_toString_whole value

theorem written_text (value : String) : written (.text value) = (writeText false value).toList := by
  rw [written, write, writeAt]
  rfl

theorem exists_quote (value : String) :
    ∃ rest, (writeText false value).toList = '"' :: rest := by
  rw [writeText, String.toList_ofList]
  exact ⟨_, rfl⟩

end LibraryDetection.Json
