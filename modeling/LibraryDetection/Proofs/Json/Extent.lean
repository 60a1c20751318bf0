import LibraryDetection.Json.Reader
import LibraryDetection.Proofs.Text.Fields
import Mathlib.Data.List.TakeDrop
import Mathlib.Data.List.TakeWhile

/-!
# How much a text can tell

Reading never goes back, and every item of a list takes a character of its own.  No list in a
value that was read is therefore longer than the text.
-/

namespace LibraryDetection.Json

set_option autoImplicit false

open LibraryDetection.Number LibraryDetection.Text

theorem length_skip_space_le (chars : List Char) : (skipSpace chars).length ≤ chars.length :=
  (List.dropWhile_suffix isSpace).length_le

theorem length_le_of_take_digits (chars : List Char) :
    (takeDigits chars).2.length ≤ chars.length := by
  rw [takeDigits, List.span_eq_takeWhile_dropWhile]
  exact (List.dropWhile_suffix isAsciiDigit).length_le

theorem length_le_of_take_sign (chars : List Char) : (takeSign chars).2.length ≤ chars.length := by
  unfold takeSign
  split <;> simp

theorem length_le_of_take_minus (chars : List Char) :
    (takeMinus chars).2.length ≤ chars.length := by
  unfold takeMinus
  split <;> simp

theorem length_le_of_take_whole (chars : List Char) :
    (takeWhole chars).2.length ≤ chars.length := by
  unfold takeWhole
  split
  · simp
  · split
    · simp
    · exact length_le_of_take_digits _

theorem length_le_of_take_places (chars : List Char) :
    (takePlaces chars).2.length ≤ chars.length := by
  unfold takePlaces
  split
  · rename_i rest
    have behind := length_le_of_take_digits rest
    split
    · simp
    · rw [List.length_cons]
      omega
  · simp

theorem length_le_of_take_exponent (chars : List Char) :
    (takeExponent chars).2.length ≤ chars.length := by
  unfold takeExponent
  split
  · rename_i mark rest
    have sign := length_le_of_take_sign rest
    have digits := length_le_of_take_digits (takeSign rest).2
    split
    · dsimp only
      split
      · simp
      · rename_i found
        rw [found] at digits
        rw [List.length_cons]
        dsimp only at digits ⊢
        omega
    · simp
  · simp

theorem length_le_of_take_numeral? {chars rest : List Char} {numeral : Numeral}
    (taken : takeNumeral? chars = some (numeral, rest)) : rest.length ≤ chars.length := by
  have minus := length_le_of_take_minus chars
  have whole := length_le_of_take_whole (takeMinus chars).2
  have places := length_le_of_take_places (takeWhole (takeMinus chars).2).2
  have exponent := length_le_of_take_exponent (takePlaces (takeWhole (takeMinus chars).2).2).2
  unfold takeNumeral? at taken
  dsimp only at taken
  split at taken
  · cases taken
  · rename_i found
    rw [found] at places exponent whole
    cases taken
    dsimp only at places exponent whole ⊢
    omega

theorem length_le_of_take_word? {chars rest : List Char} {value : Json}
    {words : List (String × Json)} (taken : takeWord? chars words = some (value, rest)) :
    rest.length ≤ chars.length := by
  induction words with
  | nil => cases taken
  | cons entry others ih =>
      rw [takeWord?] at taken
      split at taken
      · rename_i found
        cases taken
        rw [← without_start?_eq_some_iff.1 found, List.length_append]
        omega
      · exact ih taken

theorem length_le_of_read_scalar {chars rest : List Char} {value : Json}
    (read : readScalar chars = .ok (value, rest)) : rest.length ≤ chars.length := by
  rw [readScalar] at read
  split at read
  · rename_i taken
    cases read
    exact length_le_of_take_word? taken
  · split at read
    · cases read
    · rename_i taken
      split at read
      · cases read
        exact length_le_of_take_numeral? taken
      · cases read

theorem length_le_of_read_text {opening passed chars rest : List Char} {due : Nat} {text : String}
    (read : readText opening passed due chars = .ok (text, rest)) :
    rest.length ≤ chars.length := by
  induction chars generalizing passed due with
  | nil =>
      rw [readText] at read
      cases read
  | cons char chars ih =>
      rw [List.length_cons]
      have shorter : ∀ {passed : List Char} {due : Nat},
          readText opening passed due chars = .ok (text, rest) →
            rest.length ≤ chars.length + 1 :=
        fun read => Nat.le_succ_of_le (ih read)
      cases due with
      | succ due =>
          rw [readText] at read
          exact shorter read
      | zero =>
          rw [readText.eq_def] at read
          dsimp only at read
          split at read
          · cases read
            omega
          · split at read
            · split at read
              · cases read
              · split at read
                · exact shorter read
                · cases read
              · split at read
                · exact shorter read
                · cases read
            · split at read
              · cases read
              · exact shorter read

inductive Within (bound : Nat) : Json → Prop
  | null : Within bound .null
  | bool (value : Bool) : Within bound (.bool value)
  | whole (value : Int) : Within bound (.whole value)
  | real (value : Float) : Within bound (.real value)
  | text (value : String) : Within bound (.text value)
  | list {items : List Json} (short : items.length ≤ bound)
      (inner : ∀ item ∈ items, Within bound item) : Within bound (.list items)
  | object {fields : List (String × Json)} (inner : ∀ field ∈ fields, Within bound field.2) :
      Within bound (.object fields)

variable {bound : Nat}

theorem Within.length_le {items : List Json} (within : (Json.list items).Within bound) :
    items.length ≤ bound := by
  cases within
  assumption

theorem Within.of_field? {fields : List (String × Json)}
    (within : (Json.object fields).Within bound) {name : String} {value : Json}
    (found : field? name fields = some value) : value.Within bound := by
  obtain ⟨front, back, rfl, _⟩ := List.lookup_eq_some_iff.1 found
  cases within with
  | object inner => exact inner (name, value) (by simp)

theorem within_put_field {name : String} {value : Json} {fields : List (String × Json)}
    (within : value.Within bound) (others : ∀ field ∈ fields, field.2.Within bound) :
    ∀ field ∈ putField name value fields, field.2.Within bound := by
  induction fields with
  | nil => simpa [putField] using within
  | cons head rest ih =>
      rw [List.forall_mem_cons] at others
      rw [putField]
      split
      · exact List.forall_mem_cons.2 ⟨within, others.2⟩
      · exact List.forall_mem_cons.2 ⟨others.1, ih others.2⟩

theorem within_of_take_word? {chars rest : List Char} {value : Json}
    (taken : takeWord? chars words = some (value, rest)) : value.Within bound := by
  have plain : ∀ entry ∈ words, entry.2.Within bound := by
    simp only [words, List.forall_mem_cons]
    exact ⟨.null, .bool true, .bool false, .real _, .real _, .real _, nofun⟩
  revert plain
  generalize words = entries at taken
  intro plain
  induction entries with
  | nil => cases taken
  | cons entry others ih =>
      rw [List.forall_mem_cons] at plain
      rw [takeWord?] at taken
      split at taken
      · cases taken
        exact plain.1
      · exact ih taken plain.2

theorem within_of_read_scalar {chars rest : List Char} {value : Json}
    (read : readScalar chars = .ok (value, rest)) : value.Within bound := by
  rw [readScalar] at read
  split at read
  · rename_i taken
    cases read
    exact within_of_take_word? taken
  · split at read
    · cases read
    · split at read
      · rename_i told
        cases read
        unfold Numeral.json? at told
        split at told
        · split at told
          · cases told
          · cases told
            exact .whole _
        · cases told
          exact .real _
      · cases read

/-- What a reader gives for a text: a rest that is not longer, and a value whose lists are not
longer than the bound. -/
def Bounded (bound : Nat) (chars : List Char) (reading : Reading Json) : Prop :=
  ∀ value rest, reading = .ok (value, rest) → rest.length ≤ chars.length ∧ value.Within bound

section Steps

variable {fuel : Nat} {chars : List Char}

theorem bounded_error (fault : Fault) : Bounded bound chars (.error fault) := by
  intro value rest read
  cases read

theorem bounded_ok {value : Json} {rest : List Char} (shorter : rest.length ≤ chars.length)
    (within : value.Within bound) : Bounded bound chars (.ok (value, rest)) := by
  intro other behind read
  cases read
  exact ⟨shorter, within⟩

theorem Bounded.of_le {fewer : List Char} {reading : Reading Json}
    (bounded : Bounded bound fewer reading) (shorter : fewer.length ≤ chars.length) :
    Bounded bound chars reading := by
  intro value rest read
  obtain ⟨left, within⟩ := bounded value rest read
  exact ⟨left.trans shorter, within⟩

theorem bounded_read_items_succ {passed : List Json}
    (value : Bounded bound chars (readValue fuel chars))
    (next : ∀ item left, left.length < chars.length → item.Within bound →
      Bounded bound left (readItems fuel (item :: passed) left))
    (room : passed.length + chars.length ≤ bound)
    (inner : ∀ item ∈ passed, item.Within bound) :
    Bounded bound chars (readItems (fuel + 1) passed chars) := by
  rw [readItems]
  split
  · exact bounded_error _
  · rename_i item rest read
    obtain ⟨shorter, within⟩ := value item rest read
    have behind := length_skip_space_le rest
    split
    · rename_i left spaced
      rw [spaced, List.length_cons] at behind
      apply bounded_ok (by omega)
      apply Within.list
      · rw [List.length_reverse, List.length_cons]
        omega
      · intro member isItem
        have either := List.mem_cons.1 (List.mem_reverse.1 isItem)
        cases either with
        | inl last => exact last ▸ within
        | inr earlier => exact inner member earlier
    · rename_i left spaced
      rw [spaced, List.length_cons] at behind
      have further := length_skip_space_le left
      exact (next item (skipSpace left) (by omega) within).of_le (by omega)
    · exact bounded_error _

theorem bounded_read_fields_succ {passed : List (String × Json)}
    (values : ∀ left, left.length < chars.length → Bounded bound left (readValue fuel left))
    (next : ∀ fields left, left.length < chars.length → (∀ field ∈ fields, field.2.Within bound) →
      Bounded bound left (readFields fuel fields left))
    (inner : ∀ field ∈ passed, field.2.Within bound) :
    Bounded bound chars (readFields (fuel + 1) passed chars) := by
  rw [readFields.eq_def]
  dsimp only
  split
  · rename_i rest
    rw [List.length_cons] at values next
    split
    · exact bounded_error _
    · rename_i name behind named
      have afterName := length_le_of_read_text named
      have spaced := length_skip_space_le behind
      split
      · rename_i afterColon colon
        rw [colon, List.length_cons] at spaced
        have start := length_skip_space_le afterColon
        split
        · exact bounded_error _
        · rename_i value left read
          obtain ⟨shorter, within⟩ := values _ (by omega) value left read
          have fields : ∀ field ∈ putField name value passed, field.2.Within bound :=
            within_put_field within inner
          have closing := length_skip_space_le left
          split
          · rename_i last closed
            rw [closed, List.length_cons] at closing
            apply bounded_ok _ (.object fields)
            rw [List.length_cons]
            omega
          · rename_i more separated
            rw [separated, List.length_cons] at closing
            have further := length_skip_space_le more
            apply (next _ _ (by omega) fields).of_le
            rw [List.length_cons]
            omega
          · exact bounded_error _
      · exact bounded_error _
  · exact bounded_error _

theorem bounded_read_value_succ (short : chars.length ≤ bound)
    (items : ∀ left, left.length < chars.length → Bounded bound left (readItems fuel [] left))
    (fields : ∀ left, left.length < chars.length → Bounded bound left (readFields fuel [] left)) :
    Bounded bound chars (readValue (fuel + 1) chars) := by
  cases chars with
  | nil =>
      rw [readValue]
      exact bounded_error _
  | cons char rest =>
      have behind := length_skip_space_le rest
      rw [List.length_cons] at items fields
      rw [readValue]
      split
      · cases read : readText (char :: rest) [] 0 rest with
        | error fault => exact bounded_error fault
        | ok told =>
            obtain ⟨text, left⟩ := told
            have shorter := length_le_of_read_text read
            apply bounded_ok _ (.text text)
            rw [List.length_cons]
            omega
      · split
        · split
          · rename_i left closed
            rw [closed, List.length_cons] at behind
            apply bounded_ok _ (.list (Nat.zero_le bound) (by simp))
            rw [List.length_cons]
            omega
          · apply (items _ (by omega)).of_le
            rw [List.length_cons]
            omega
        · split
          · split
            · rename_i left closed
              rw [closed, List.length_cons] at behind
              apply bounded_ok _ (.object (by simp))
              rw [List.length_cons]
              omega
            · apply (fields _ (by omega)).of_le
              rw [List.length_cons]
              omega
          · intro value left read
            exact ⟨length_le_of_read_scalar read, within_of_read_scalar read⟩

end Steps

/-- The readers of values, items and fields are bounded, however long they may go on. -/
structure ReadersBounded (bound fuel : Nat) : Prop where
  value : ∀ chars, chars.length ≤ bound → Bounded bound chars (readValue fuel chars)
  items : ∀ passed chars, passed.length + chars.length ≤ bound →
    (∀ item ∈ passed, item.Within bound) → Bounded bound chars (readItems fuel passed chars)
  fields : ∀ passed chars, chars.length ≤ bound → (∀ field ∈ passed, field.2.Within bound) →
    Bounded bound chars (readFields fuel passed chars)

theorem readers_bounded (bound fuel : Nat) : ReadersBounded bound fuel := by
  induction fuel with
  | zero =>
      constructor
      · intro chars _
        rw [readValue]
        exact bounded_error _
      · intro passed chars _ _
        rw [readItems]
        exact bounded_error _
      · intro passed chars _ _
        rw [readFields]
        exact bounded_error _
  | succ fuel ih =>
      constructor
      · intro chars short
        apply bounded_read_value_succ short
        · intro left shorter
          exact ih.items [] left (by simp; omega) (by simp)
        · intro left shorter
          exact ih.fields [] left (by omega) (by simp)
      · intro passed chars room inner
        apply bounded_read_items_succ (ih.value chars (by omega)) _ room inner
        intro item left shorter within
        apply ih.items
        · rw [List.length_cons]
          omega
        · exact List.forall_mem_cons.2 ⟨within, inner⟩
      · intro passed chars short inner
        apply bounded_read_fields_succ _ _ inner
        · intro left shorter
          exact ih.value left (by omega)
        · intro fields left shorter within
          exact ih.fields fields left (by omega) within

theorem within_of_read {chars : List Char} {value : Json} (read : Json.read chars = .ok value) :
    value.Within chars.length := by
  have bounded := (readers_bounded chars.length (2 * chars.length + 2)).value (skipSpace chars)
    (length_skip_space_le chars)
  rw [Json.read.eq_def] at read
  split at read
  · cases read
  · split at read
    · cases read
    · rename_i told rest found
      split at read
      · cases read
        exact (bounded value rest found).2
      · cases read

end LibraryDetection.Json
