import LibraryDetection.Proofs.Json.Writer
import LibraryDetection.Proofs.Text.Fields
import Mathlib.Data.List.Nodup

/-!
# Reading what was written

A value without floats, with no number that is too long and with the names of every object
apart is read back from its compact form.
-/

namespace LibraryDetection.Json

set_option autoImplicit false

open LibraryDetection.Text LibraryDetection.Number

/-- Values that keep their meaning when they are written and read again: they hold no float and
no whole number that is too long, and no object has two fields of one name. -/
inductive Plain : Json → Prop
  | null : Plain .null
  | bool (value : Bool) : Plain (.bool value)
  | whole {value : Int} (short : (digitsOf value.natAbs).length ≤ digitLimit) :
      Plain (.whole value)
  | text (value : String) : Plain (.text value)
  | list {items : List Json} (within : ∀ item ∈ items, item.Plain) : Plain (.list items)
  | object {fields : List (String × Json)} (apart : (fields.map Prod.fst).Nodup)
      (within : ∀ field ∈ fields, field.2.Plain) : Plain (.object fields)

def separates (char : Char) : Bool :=
  isSpace char || char = ',' || char = ']' || char = '\x7d' || char = '\ufeff'

theorem exists_head_written {value : Json} (plain : value.Plain) :
    ∃ char rest, written value = char :: rest ∧ separates char = false := by
  cases plain with
  | null => exact ⟨'n', _, rfl, by decide⟩
  | bool value =>
      cases value
      · exact ⟨'f', _, rfl, by decide⟩
      · exact ⟨'t', _, rfl, by decide⟩
  | @whole value short =>
      obtain ⟨digit, others, begins, isDigit⟩ := exists_digit_digits_of value.natAbs
      rw [written_whole, wholeChars, begins]
      split
      · exact ⟨'-', _, rfl, by decide⟩
      · refine ⟨digit, others, rfl, ?_⟩
        simp only [separates, isSpace, Bool.or_eq_false_iff, decide_eq_false_iff_not]
        refine ⟨⟨⟨⟨⟨⟨⟨?_, ?_⟩, ?_⟩, ?_⟩, ?_⟩, ?_⟩, ?_⟩, ?_⟩ <;>
          · rintro rfl
            exact absurd isDigit (by decide)
  | text value =>
      obtain ⟨rest, begins⟩ := exists_quote value
      exact ⟨'"', rest, (written_text value).trans begins, by decide⟩
  | list within => exact ⟨'[', _, written_list _, by decide⟩
  | object apart within => exact ⟨'\x7b', _, written_object _, by decide⟩

theorem skip_space_of_not_is_space {char : Char} (noSpace : isSpace char = false)
    (rest : List Char) : skipSpace (char :: rest) = char :: rest := by
  rw [skipSpace, List.dropWhile_cons, noSpace]
  rfl

theorem is_space_of_not_separates {char : Char} (starts : separates char = false) :
    isSpace char = false := by
  simp only [separates, Bool.or_eq_false_iff] at starts
  exact starts.1.1.1.1

theorem skip_space_written {value : Json} (plain : value.Plain) (rest : List Char) :
    skipSpace (written value ++ rest) = written value ++ rest := by
  obtain ⟨char, others, begins, starts⟩ := exists_head_written plain
  rw [begins]
  exact skip_space_of_not_is_space (is_space_of_not_separates starts) (others ++ rest)

theorem intercalate_cons_comma (piece second : List Char) (more : List (List Char)) :
    [','].intercalate (piece :: second :: more) =
      piece ++ ',' :: [','].intercalate (second :: more) := by
  rw [List.intercalate_cons_cons, List.append_assoc]
  rfl

theorem exists_intercalate_comma (piece : List Char) (others : List (List Char)) :
    ∃ rest, [','].intercalate (piece :: others) = piece ++ rest := by
  cases others with
  | nil => exact ⟨[], by rw [List.intercalate_singleton, List.append_nil]⟩
  | cons second more => exact ⟨_, intercalate_cons_comma piece second more⟩

/-- The value is read in front of whatever may follow it, in steps enough for its text. -/
def ReadsBack (value : Json) : Prop :=
  ∀ fuel rest, 2 * (written value).length ≤ fuel → Ends rest →
    readValue fuel (written value ++ rest) = .ok (value, rest)

theorem length_written_pos {value : Json} (plain : value.Plain) : 0 < (written value).length := by
  obtain ⟨char, others, begins, _⟩ := exists_head_written plain
  rw [begins]
  exact Nat.succ_pos _

section Item

variable {item : Json} {passed : List Json} {fuel : Nat}

theorem read_items_close {rest : List Char}
    (value : readValue fuel (written item ++ ']' :: rest) = .ok (item, ']' :: rest)) :
    readItems (fuel + 1) passed (written item ++ ']' :: rest) =
      .ok (.list (passed.reverse ++ [item]), rest) := by
  have bracket := skip_space_of_not_is_space (show isSpace ']' = false by decide) rest
  rw [readItems]
  simp only [value, bracket, List.reverse_cons]

theorem read_items_next {tail : List Char}
    (value : readValue fuel (written item ++ ',' :: tail) = .ok (item, ',' :: tail)) :
    readItems (fuel + 1) passed (written item ++ ',' :: tail) =
      readItems fuel (item :: passed) (skipSpace tail) := by
  have comma := skip_space_of_not_is_space (show isSpace ',' = false by decide) tail
  rw [readItems]
  simp only [value, comma]

end Item

theorem read_items_written {items : List Json} (some : items ≠ [])
    (plain : ∀ item ∈ items, item.Plain) (each : ∀ item ∈ items, item.ReadsBack)
    (passed : List Json) (fuel : Nat) (rest : List Char)
    (enough : 2 * ([','].intercalate (items.map written)).length + 1 ≤ fuel) :
    readItems fuel passed ([','].intercalate (items.map written) ++ ']' :: rest) =
      .ok (.list (passed.reverse ++ items), rest) := by
  induction items generalizing passed fuel with
  | nil => exact absurd rfl some
  | cons item others ih =>
      have itemBack := each item List.mem_cons_self
      obtain ⟨fuel, rfl⟩ : ∃ less, fuel = less + 1 := ⟨fuel - 1, by omega⟩
      cases others with
      | nil =>
          rw [List.map_singleton, List.intercalate_singleton] at enough ⊢
          apply read_items_close
          exact itemBack fuel (']' :: rest) (by omega) (ends_cons (by decide) rest)
      | cons second more =>
          rw [List.map_cons, List.map_cons, intercalate_cons_comma, List.length_append,
            List.length_cons, ← List.map_cons] at enough
          rw [List.map_cons, List.map_cons, intercalate_cons_comma, ← List.map_cons,
            List.append_assoc, List.cons_append]
          have noSpace : skipSpace
              ([','].intercalate ((second :: more).map written) ++ ']' :: rest) =
                [','].intercalate ((second :: more).map written) ++ ']' :: rest := by
            obtain ⟨behind, begins⟩ :=
              exists_intercalate_comma (written second) (more.map written)
            rw [List.map_cons, begins, List.append_assoc]
            exact skip_space_written (plain second (by simp)) _
          have next : readItems fuel (item :: passed)
              ([','].intercalate ((second :: more).map written) ++ ']' :: rest) =
                .ok (.list ((item :: passed).reverse ++ second :: more), rest) :=
            ih (List.cons_ne_nil second more)
              (fun other member => plain other (List.mem_cons_of_mem item member))
              (fun other member => each other (List.mem_cons_of_mem item member))
              (item :: passed) fuel (by omega)
          rw [read_items_next (itemBack fuel _ (by omega) (ends_cons (by decide) _)), noSpace, next,
            List.reverse_cons, List.append_assoc]
          rfl

theorem put_field_of_not_mem {name : String} {fields : List (String × Json)}
    (fresh : name ∉ fields.map Prod.fst) (value : Json) :
    putField name value fields = fields ++ [(name, value)] := by
  induction fields with
  | nil => rfl
  | cons field rest ih =>
      obtain ⟨other, old⟩ := field
      rw [List.map_cons] at fresh
      have different : name ≠ other := List.ne_of_not_mem_cons fresh
      rw [putField, if_neg (Ne.symm different), ih (List.not_mem_of_not_mem_cons fresh)]
      rfl

theorem exists_written_field (field : String × Json) (rest : List Char) :
    ∃ body, writtenField field ++ rest = '"' :: body ∧
      ∀ opening, readText opening [] 0 body = .ok (field.1, ':' :: (written field.2 ++ rest)) := by
  obtain ⟨body, begins⟩ := exists_quote field.1
  refine ⟨body ++ ':' :: (written field.2 ++ rest), ?_, ?_⟩
  · rw [writtenField, begins, List.cons_append, List.cons_append, List.append_assoc]
    rfl
  · intro opening
    have read := read_text_write_text opening field.1 (':' :: (written field.2 ++ rest))
    rw [begins] at read
    exact read

section Field

variable {field : String × Json} {passed : List (String × Json)} {fuel : Nat}

theorem read_fields_close (plain : field.2.Plain) {rest : List Char}
    (value : readValue fuel (written field.2 ++ '\x7d' :: rest) = .ok (field.2, '\x7d' :: rest)) :
    readFields (fuel + 1) passed (writtenField field ++ '\x7d' :: rest) =
      .ok (.object (putField field.1 field.2 passed), rest) := by
  obtain ⟨body, begins, named⟩ := exists_written_field field ('\x7d' :: rest)
  have colon := skip_space_of_not_is_space (show isSpace ':' = false by decide)
    (written field.2 ++ '\x7d' :: rest)
  have bracket := skip_space_of_not_is_space (show isSpace '\x7d' = false by decide) rest
  rw [begins, readFields]
  simp only [named, colon, skip_space_written plain, value, bracket]

theorem read_fields_next (plain : field.2.Plain) {tail : List Char}
    (value : readValue fuel (written field.2 ++ ',' :: tail) = .ok (field.2, ',' :: tail)) :
    readFields (fuel + 1) passed (writtenField field ++ ',' :: tail) =
      readFields fuel (putField field.1 field.2 passed) (skipSpace tail) := by
  obtain ⟨body, begins, named⟩ := exists_written_field field (',' :: tail)
  have colon := skip_space_of_not_is_space (show isSpace ':' = false by decide)
    (written field.2 ++ ',' :: tail)
  have comma := skip_space_of_not_is_space (show isSpace ',' = false by decide) tail
  rw [begins, readFields]
  simp only [named, colon, skip_space_written plain, value, comma]

end Field

theorem read_fields_written {fields : List (String × Json)} (some : fields ≠ [])
    (plain : ∀ field ∈ fields, field.2.Plain) (each : ∀ field ∈ fields, field.2.ReadsBack)
    (passed : List (String × Json)) (apart : ((passed ++ fields).map Prod.fst).Nodup)
    (fuel : Nat) (rest : List Char)
    (enough : 2 * ([','].intercalate (fields.map writtenField)).length + 1 ≤ fuel) :
    readFields fuel passed ([','].intercalate (fields.map writtenField) ++ '\x7d' :: rest) =
      .ok (.object (passed ++ fields), rest) := by
  induction fields generalizing passed fuel with
  | nil => exact absurd rfl some
  | cons field others ih =>
      have valueBack := each field List.mem_cons_self
      have valuePlain := plain field List.mem_cons_self
      have fresh : field.1 ∉ passed.map Prod.fst := by
        rw [List.map_append, List.map_cons] at apart
        intro member
        exact List.disjoint_of_nodup_append apart member List.mem_cons_self
      have added := put_field_of_not_mem fresh field.2
      have long : (written field.2).length < (writtenField field).length := by
        rw [writtenField, List.length_append, List.length_cons]
        omega
      obtain ⟨fuel, rfl⟩ : ∃ less, fuel = less + 1 := ⟨fuel - 1, by omega⟩
      cases others with
      | nil =>
          rw [List.map_singleton, List.intercalate_singleton] at enough ⊢
          have read := valueBack fuel ('\x7d' :: rest) (by omega) (ends_cons (by decide) rest)
          rw [read_fields_close valuePlain read, added]
      | cons second more =>
          rw [List.map_cons, List.map_cons, intercalate_cons_comma, List.length_append,
            List.length_cons, ← List.map_cons] at enough
          rw [List.map_cons, List.map_cons, intercalate_cons_comma, ← List.map_cons,
            List.append_assoc, List.cons_append]
          generalize behind : [','].intercalate ((second :: more).map writtenField) ++
            '\x7d' :: rest = tail
          have read := valueBack fuel (',' :: tail) (by omega) (ends_cons (by decide) _)
          have noSpace : skipSpace tail = tail := by
            obtain ⟨after, starts⟩ :=
              exists_intercalate_comma (writtenField second) (more.map writtenField)
            obtain ⟨quoted, quote, _⟩ := exists_written_field second (after ++ '\x7d' :: rest)
            rw [← behind, List.map_cons, starts, List.append_assoc, quote]
            exact skip_space_of_not_is_space (by decide) quoted
          have next : readFields fuel (passed ++ [field])
              ([','].intercalate ((second :: more).map writtenField) ++ '\x7d' :: rest) =
                .ok (.object (passed ++ [field] ++ second :: more), rest) := by
            apply ih (List.cons_ne_nil second more)
            · exact fun other member => plain other (List.mem_cons_of_mem field member)
            · exact fun other member => each other (List.mem_cons_of_mem field member)
            · rw [List.append_assoc]
              exact apart
            · omega
          rw [behind] at next
          rw [read_fields_next valuePlain read, noSpace, added, next, List.append_assoc]
          rfl

theorem read_value_scalar {char : Char} (rest : List Char) (noText : char ≠ '"')
    (noList : char ≠ '[') (noObject : char ≠ '\x7b') (fuel : Nat) :
    readValue (fuel + 1) (char :: rest) = readScalar (char :: rest) := by
  rw [readValue, if_neg noText, if_neg noList, if_neg noObject]

theorem reads_back_of_succ {value : Json} (plain : value.Plain)
    (reads : ∀ fuel rest, 2 * (written value).length ≤ fuel + 1 → Ends rest →
      readValue (fuel + 1) (written value ++ rest) = .ok (value, rest)) : value.ReadsBack := by
  intro fuel rest enough ends
  have long := length_written_pos plain
  obtain ⟨fuel, rfl⟩ : ∃ less, fuel = less + 1 := ⟨fuel - 1, by omega⟩
  exact reads fuel rest enough ends

theorem read_value_list {items : List Json} (plain : ∀ item ∈ items, item.Plain)
    (each : ∀ item ∈ items, item.ReadsBack) (fuel : Nat) (rest : List Char)
    (enough : 2 * (written (.list items)).length ≤ fuel + 1) :
    readValue (fuel + 1) (written (.list items) ++ rest) = .ok (.list items, rest) := by
  rw [written_list, List.length_cons, List.length_append, List.length_singleton] at enough
  rw [written_list, List.cons_append, List.append_assoc, List.singleton_append, readValue,
    if_neg (by decide), if_pos rfl]
  cases items with
  | nil =>
      have closing : skipSpace ([','].intercalate [] ++ ']' :: rest) = ']' :: rest :=
        skip_space_of_not_is_space (by decide) rest
      rw [List.map_nil, closing]
      rfl
  | cons item others =>
      have itemPlain := plain item List.mem_cons_self
      obtain ⟨behind, begins⟩ := exists_intercalate_comma (written item) (others.map written)
      obtain ⟨char, tail, head, starts⟩ := exists_head_written itemPlain
      have noBracket : char ≠ ']' := by
        rintro rfl
        exact absurd starts (by decide)
      have noSpace := skip_space_written itemPlain (behind ++ ']' :: rest)
      have read := read_items_written (List.cons_ne_nil item others) plain each [] fuel rest
        (by omega)
      rw [List.map_cons, begins, List.append_assoc] at read ⊢
      rw [noSpace]
      rw [head, List.cons_append] at read ⊢
      split
      · rename_i left same
        exact absurd (List.cons.inj same).1 noBracket
      · exact read

theorem read_value_object {fields : List (String × Json)}
    (apart : (fields.map Prod.fst).Nodup) (plain : ∀ field ∈ fields, field.2.Plain)
    (each : ∀ field ∈ fields, field.2.ReadsBack) (fuel : Nat) (rest : List Char)
    (enough : 2 * (written (.object fields)).length ≤ fuel + 1) :
    readValue (fuel + 1) (written (.object fields) ++ rest) = .ok (.object fields, rest) := by
  rw [written_object, List.length_cons, List.length_append, List.length_singleton] at enough
  rw [written_object, List.cons_append, List.append_assoc, List.singleton_append, readValue,
    if_neg (by decide), if_neg (by decide), if_pos rfl]
  cases fields with
  | nil =>
      have closing : skipSpace ([','].intercalate [] ++ '\x7d' :: rest) = '\x7d' :: rest :=
        skip_space_of_not_is_space (by decide) rest
      rw [List.map_nil, closing]
      rfl
  | cons field others =>
      obtain ⟨behind, begins⟩ :=
        exists_intercalate_comma (writtenField field) (others.map writtenField)
      obtain ⟨quoted, quote, _⟩ := exists_written_field field (behind ++ '\x7d' :: rest)
      have read := read_fields_written (List.cons_ne_nil field others) plain each [] apart fuel
        rest (by omega)
      rw [List.map_cons, begins, List.append_assoc, quote] at read ⊢
      rw [skip_space_of_not_is_space (by decide)]
      exact read

theorem reads_back {value : Json} (plain : value.Plain) : value.ReadsBack := by
  induction value with
  | null =>
      apply reads_back_of_succ plain
      intro fuel rest _ _
      exact read_value_scalar _ (by decide) (by decide) (by decide) fuel
  | bool value =>
      apply reads_back_of_succ plain
      intro fuel rest _ _
      cases value
      · exact read_value_scalar _ (by decide) (by decide) (by decide) fuel
      · exact read_value_scalar _ (by decide) (by decide) (by decide) fuel
  | whole value =>
      apply reads_back_of_succ plain
      intro fuel rest _ ends
      cases plain with
      | whole short =>
          obtain ⟨digit, others, begins, isDigit⟩ := exists_digit_digits_of value.natAbs
          have read := read_scalar_whole short ends
          rw [written_whole, ← read, wholeChars, begins]
          split
          · exact read_value_scalar _ (by decide) (by decide) (by decide) fuel
          · apply read_value_scalar
            · rintro rfl
              exact absurd isDigit (by decide)
            · rintro rfl
              exact absurd isDigit (by decide)
            · rintro rfl
              exact absurd isDigit (by decide)
  | real value => cases plain
  | text value =>
      apply reads_back_of_succ plain
      intro fuel rest _ _
      obtain ⟨body, begins⟩ := exists_quote value
      have read := read_text_write_text ('"' :: (body ++ rest)) value rest
      rw [begins] at read
      rw [written_text, begins, List.cons_append, readValue, if_pos rfl]
      exact congrArg (Except.map fun found => (Json.text found.1, found.2)) read
  | list items ih =>
      cases plain with
      | list within =>
          apply reads_back_of_succ (.list within)
          intro fuel rest enough _
          exact read_value_list within (fun item member => ih item member (within item member))
            fuel rest enough
  | object fields ih =>
      cases plain with
      | object apart within =>
          apply reads_back_of_succ (.object apart within)
          intro fuel rest enough _
          exact read_value_object apart within
            (fun field member => ih field member (within field member)) fuel rest enough

theorem read_write {value : Json} (plain : value.Plain) :
    read (write recordStyle value).toList = .ok value := by
  obtain ⟨char, others, begins, starts⟩ := exists_head_written plain
  have whole := reads_back plain (2 * (written value).length + 2) [] (by omega) ends_nil
  have noSpace := skip_space_written plain []
  have ending : skipSpace [] = [] := rfl
  rw [List.append_nil] at whole noSpace
  rw [← written, read.eq_def]
  split
  · rename_i rest same
    rw [begins] at same
    rw [(List.cons.inj same).1] at starts
    exact absurd starts (by decide)
  · rw [noSpace, whole]
    simp only [ending]

theorem return_not_mem_write_text (value : String) : '\r' ∉ (writeText false value).toList := by
  rw [writeText, String.toList_ofList]
  intro member
  rcases List.mem_cons.1 member with quote | behind
  · exact absurd quote (by decide)
  · rcases List.mem_append.1 behind with escaped | last
    · obtain ⟨char, _, found⟩ := List.mem_flatMap.1 escaped
      exact return_not_mem_escape_char char found
    · exact absurd (List.mem_singleton.1 last) (by decide)

theorem return_not_mem_group {opening closing : Char} {pieces : List (List Char)}
    (begins : '\r' ≠ opening) (ends : '\r' ≠ closing) (within : ∀ piece ∈ pieces, '\r' ∉ piece) :
    '\r' ∉ opening :: ([','].intercalate pieces ++ [closing]) := by
  intro member
  rcases List.mem_cons.1 member with first | behind
  · exact begins first
  · rcases List.mem_append.1 behind with inside | last
    · rcases mem_intercalate inside with comma | ⟨piece, isPiece, found⟩
      · exact absurd comma (by decide)
      · exact within piece isPiece found
    · exact ends (List.mem_singleton.1 last)

inductive FloatFree : Json → Prop
  | null : FloatFree .null
  | bool (value : Bool) : FloatFree (.bool value)
  | whole (value : Int) : FloatFree (.whole value)
  | text (value : String) : FloatFree (.text value)
  | list {items : List Json} (within : ∀ item ∈ items, item.FloatFree) : FloatFree (.list items)
  | object {fields : List (String × Json)} (within : ∀ field ∈ fields, field.2.FloatFree) :
      FloatFree (.object fields)

theorem Plain.float_free {value : Json} (plain : value.Plain) : value.FloatFree := by
  induction plain with
  | null => exact .null
  | bool value => exact .bool value
  | whole => exact .whole _
  | text value => exact .text value
  | list _ ih => exact .list ih
  | object _ _ ih => exact .object ih

theorem return_not_mem_written {value : Json} (free : value.FloatFree) : '\r' ∉ written value := by
  induction free with
  | null => decide
  | bool value => cases value <;> decide
  | whole value =>
      rw [written_whole, wholeChars]
      have noDigit : '\r' ∉ digitsOf value.natAbs := by
        intro member
        exact absurd (is_ascii_digit_of_mem member) (by decide)
      split
      · intro member
        rcases List.mem_cons.1 member with minus | digit
        · exact absurd minus (by decide)
        · exact noDigit digit
      · exact noDigit
  | text value =>
      rw [written_text]
      exact return_not_mem_write_text value
  | @list items _ ih =>
      rw [written_list]
      apply return_not_mem_group (by decide) (by decide)
      intro piece isPiece
      obtain ⟨item, isItem, rfl⟩ := List.mem_map.1 isPiece
      exact ih item isItem
  | @object fields _ ih =>
      rw [written_object]
      apply return_not_mem_group (by decide) (by decide)
      intro piece isPiece
      obtain ⟨field, isField, rfl⟩ := List.mem_map.1 isPiece
      intro found
      rcases List.mem_append.1 found with name | later
      · exact return_not_mem_write_text field.1 name
      · rcases List.mem_cons.1 later with colon | inValue
        · exact absurd colon (by decide)
        · exact ih field isField inValue

end LibraryDetection.Json
