import LibraryDetection.Json.Strict
import LibraryDetection.Proofs.Json.Reread

/-!
# Reading strictly what was written

The compact form of a value has as many groups within one another as the value itself, and no
surrogate stands alone in it.  So the limit on groups is all that keeps a plain value from being
read back strictly.
-/

namespace LibraryDetection.Json

set_option autoImplicit false

open LibraryDetection.Text LibraryDetection.Number

mutual

/-- The number of lists and objects within one another, each of which holds something.  This is
counted on the value, whereas the reader counts brackets. -/
def levels : Json → Nat
  | .null => 0
  | .bool _ => 0
  | .whole _ => 0
  | .real _ => 0
  | .text _ => 0
  | .list [] => 0
  | .list (item :: items) => max item.levels (itemLevels items) + 1
  | .object [] => 0
  | .object ((_, value) :: fields) => max value.levels (fieldLevels fields) + 1

def itemLevels : List Json → Nat
  | [] => 0
  | item :: items => max item.levels (itemLevels items)

def fieldLevels : List (String × Json) → Nat
  | [] => 0
  | (_, value) :: fields => max value.levels (fieldLevels fields)

end

theorem levels_list {items : List Json} (some : items ≠ []) :
    levels (.list items) = itemLevels items + 1 := by
  cases items with
  | nil => exact absurd rfl some
  | cons item items => rw [levels, itemLevels]

theorem levels_object {fields : List (String × Json)} (some : fields ≠ []) :
    levels (.object fields) = fieldLevels fields + 1 := by
  cases fields with
  | nil => exact absurd rfl some
  | cons field fields =>
      obtain ⟨name, value⟩ := field
      rw [levels, fieldLevels]

theorem item_levels_le {items : List Json} {bound : Nat} :
    itemLevels items ≤ bound ↔ ∀ item ∈ items, item.levels ≤ bound := by
  induction items with
  | nil => simp [itemLevels]
  | cons item items ih => rw [itemLevels, Nat.max_le, ih, List.forall_mem_cons]

theorem levels_list_le_iff {items : List Json} {bound : Nat} :
    levels (.list items) ≤ bound + 1 ↔ ∀ item ∈ items, item.levels ≤ bound := by
  cases items with
  | nil => simp [levels]
  | cons item items =>
      rw [levels_list (List.cons_ne_nil item items), Nat.succ_le_succ_iff, item_levels_le]

theorem escape_char_cases (char : Char) :
    (escapeChar false char = [char] ∧ char ≠ '"' ∧ char ≠ '\\') ∨
      (∃ letter, escapeChar false char = ['\\', letter] ∧ letter ≠ 'u') ∨
      (char.toNat < 32 ∧ escapeChar false char = '\\' :: 'u' :: hexDigits 4 char.toNat) := by
  rw [escapeChar]
  split
  · rename_i special
    refine .inr (.inl ⟨char, rfl, ?_⟩)
    rcases special with rfl | rfl <;> decide
  · rename_i plain
    split
    · exact .inr (.inl ⟨'n', rfl, by decide⟩)
    · split
      · exact .inr (.inl ⟨'r', rfl, by decide⟩)
      · split
        · exact .inr (.inl ⟨'t', rfl, by decide⟩)
        · split
          · exact .inr (.inl ⟨'b', rfl, by decide⟩)
          · split
            · exact .inr (.inl ⟨'f', rfl, by decide⟩)
            · split
              · rename_i control
                exact .inr (.inr ⟨control, rfl⟩)
              · rw [Bool.false_and, if_neg (by decide)]
                exact .inl ⟨rfl, fun quote => plain (.inl quote),
                  fun escape => plain (.inr escape)⟩

theorem hex_digits_plain (code : Nat) :
    ∀ digit ∈ hexDigits 4 code, digit ≠ '"' ∧ digit ≠ '\\' := by
  have all : ∀ value < 16, hexDigit value ≠ '"' ∧ hexDigit value ≠ '\\' := by decide
  have bound : ∀ value, value % 16 < 16 := fun value => Nat.mod_lt value (by decide)
  intro digit member
  simp only [hex_digits_four, List.mem_cons, List.not_mem_nil, or_false] at member
  rcases member with rfl | rfl | rfl | rfl
  · exact all _ (bound _)
  · exact all _ (bound _)
  · exact all _ (bound _)
  · exact all _ (bound _)

theorem whole_chars_plain (value : Int) : ∀ char ∈ wholeChars value,
    char ≠ '"' ∧ char ≠ '\\' ∧ opensGroup char = false ∧ closesGroup char = false := by
  have plain : ∀ char, isAsciiDigit char = true →
      char ≠ '"' ∧ char ≠ '\\' ∧ opensGroup char = false ∧ closesGroup char = false := by
    intro char digit
    have differs : ∀ other, isAsciiDigit other = false → char ≠ other := by
      rintro other noDigit rfl
      rw [digit] at noDigit
      cases noDigit
    simp only [opensGroup, closesGroup, Bool.or_eq_false_iff, decide_eq_false_iff_not]
    exact ⟨differs _ rfl, differs _ rfl, ⟨differs _ rfl, differs _ rfl⟩, differs _ rfl,
      differs _ rfl⟩
  intro char member
  rw [wholeChars] at member
  split at member
  · rcases List.mem_cons.1 member with rfl | digit
    · decide
    · exact plain char (is_ascii_digit_of_mem digit)
  · exact plain char (is_ascii_digit_of_mem member)

/-- The greatest number of open groups, once `more` of them were open on top of `depth`. -/
def deepen (depth most more : Nat) : Nat := if more = 0 then most else max most (depth + more)

theorem deepen_zero (depth most : Nat) : deepen depth most 0 = most := rfl

theorem deepen_deepen (depth most first second : Nat) :
    deepen depth (deepen depth most first) second = deepen depth most (max first second) := by
  simp only [deepen]
  split <;> split <;> split <;> omega

theorem deepen_succ (depth most more : Nat) :
    deepen (depth + 1) (max most (depth + 1)) more = deepen depth most (more + 1) := by
  simp only [deepen]
  split <;> split <;> omega

section Nesting

variable {depth most : Nat} {rest : List Char}

theorem nesting_from_quoted {piece : List Char}
    (plain : ∀ char ∈ piece, char ≠ '"' ∧ char ≠ '\\') :
    nestingFrom .quoted depth most (piece ++ rest) = nestingFrom .quoted depth most rest := by
  induction piece with
  | nil => rfl
  | cons char piece ih =>
      obtain ⟨noQuote, noEscape⟩ := plain char List.mem_cons_self
      rw [List.cons_append, nestingFrom, if_neg noQuote, if_neg noEscape]
      exact ih fun other member => plain other (List.mem_cons_of_mem char member)

theorem nesting_from_between {piece : List Char}
    (plain : ∀ char ∈ piece,
      char ≠ '"' ∧ opensGroup char = false ∧ closesGroup char = false) :
    nestingFrom .between depth most (piece ++ rest) = nestingFrom .between depth most rest := by
  induction piece with
  | nil => rfl
  | cons char piece ih =>
      obtain ⟨noQuote, noOpening, noClosing⟩ := plain char List.mem_cons_self
      rw [List.cons_append, nestingFrom, if_neg noQuote, noOpening, noClosing]
      exact ih fun other member => plain other (List.mem_cons_of_mem char member)

theorem nesting_from_escape_char (char : Char) :
    nestingFrom .quoted depth most (escapeChar false char ++ rest) =
      nestingFrom .quoted depth most rest := by
  rcases escape_char_cases char with ⟨same, plain⟩ | ⟨letter, same, _⟩ | ⟨_, same⟩
  · rw [same]
    apply nesting_from_quoted
    intro other member
    rwa [List.mem_singleton.1 member]
  · rw [same, List.cons_append, nestingFrom, if_neg (by decide), if_pos rfl]
    rfl
  · rw [same, List.cons_append, nestingFrom, if_neg (by decide), if_pos rfl, List.cons_append,
      nestingFrom]
    exact nesting_from_quoted (hex_digits_plain _)

theorem nesting_from_write_text (text : String) :
    nestingFrom .between depth most ((writeText false text).toList ++ rest) =
      nestingFrom .between depth most rest := by
  have within (chars : List Char) :
      nestingFrom .quoted depth most (chars.flatMap (escapeChar false) ++ '"' :: rest) =
        nestingFrom .between depth most rest := by
    induction chars with
    | nil => rw [List.flatMap_nil, List.nil_append, nestingFrom, if_pos rfl]
    | cons char chars ih =>
        rw [List.flatMap_cons, List.append_assoc, nesting_from_escape_char, ih]
  rw [writeText, String.toList_ofList, List.cons_append, nestingFrom, if_pos rfl,
    List.append_assoc]
  exact within text.toList

/-- The form has `more` groups within one another and leaves no group open, wherever it
stands. -/
def NestsBy (form : List Char) (more : Nat) : Prop :=
  ∀ depth most rest, nestingFrom .between depth most (form ++ rest) =
    nestingFrom .between depth (deepen depth most more) rest

theorem NestsBy.intercalate {α : Type} {form : α → List Char} {more : α → Nat} {items : List α}
    (each : ∀ item ∈ items, NestsBy (form item) (more item)) :
    NestsBy ([','].intercalate (items.map form))
      (items.foldr (fun item most => max (more item) most) 0) := by
  intro depth most rest
  induction items generalizing most with
  | nil => rfl
  | cons item others ih =>
      have first := each item List.mem_cons_self
      have below := ih fun other member => each other (List.mem_cons_of_mem item member)
      cases others with
      | nil =>
          rw [List.map_singleton, List.intercalate_singleton, first]
          simp
      | cons second behind =>
          rw [List.map_cons, List.map_cons, intercalate_cons_comma, List.append_assoc, first,
            List.cons_append, nestingFrom, if_neg (by decide), ← List.map_cons]
          have comma : opensGroup ',' = false ∧ closesGroup ',' = false := by decide
          rw [comma.1, comma.2]
          exact (below _).trans (by rw [deepen_deepen]; rfl)

theorem NestsBy.group {opening closing : Char} {form : List Char} {more : Nat}
    (nests : NestsBy form more)
    (brackets : (opening = '[' ∧ closing = ']') ∨ (opening = '\x7b' ∧ closing = '\x7d'))
    (begins : ∀ rest, endsAtOnce (form ++ rest) = false) :
    NestsBy (opening :: (form ++ [closing])) (more + 1) := by
  intro depth most rest
  have kinds : opening ≠ '"' ∧ opensGroup opening = true ∧ closing ≠ '"' ∧
      opensGroup closing = false ∧ closesGroup closing = true := by
    rcases brackets with ⟨rfl, rfl⟩ | ⟨rfl, rfl⟩ <;> decide
  obtain ⟨noQuote, opens, noQuoteEnd, noOpening, closes⟩ := kinds
  rw [List.cons_append, nestingFrom, if_neg noQuote, if_pos opens, List.append_assoc,
    begins, nests, List.singleton_append, nestingFrom, if_neg noQuoteEnd, noOpening, closes]
  simp only [Bool.false_eq_true, if_false, if_true, Nat.add_sub_cancel, deepen_succ]

theorem NestsBy.empty_group {opening closing : Char}
    (brackets : (opening = '[' ∧ closing = ']') ∨ (opening = '\x7b' ∧ closing = '\x7d')) :
    NestsBy [opening, closing] 0 := by
  intro depth most rest
  rcases brackets with ⟨rfl, rfl⟩ | ⟨rfl, rfl⟩ <;> rfl

end Nesting

theorem ends_at_once_written {value : Json} (plain : value.Plain) (rest : List Char) :
    endsAtOnce (written value ++ rest) = false := by
  obtain ⟨char, others, begins, starts⟩ := exists_head_written plain
  rw [endsAtOnce, skip_space_written plain, begins]
  simp only [separates, Bool.or_eq_false_iff, decide_eq_false_iff_not] at starts
  simp only [List.cons_append, List.head?_cons, Option.map_some, Option.getD_some, closesGroup,
    Bool.or_eq_false_iff, decide_eq_false_iff_not]
  exact ⟨starts.1.1.2, starts.1.2⟩

theorem item_levels_eq_foldr (items : List Json) :
    itemLevels items = items.foldr (fun item more => max item.levels more) 0 := by
  induction items with
  | nil => rfl
  | cons item items ih => rw [itemLevels, ih, List.foldr_cons]

theorem field_levels_eq_foldr (fields : List (String × Json)) :
    fieldLevels fields = fields.foldr (fun field more => max field.2.levels more) 0 := by
  induction fields with
  | nil => rfl
  | cons field fields ih =>
      obtain ⟨name, value⟩ := field
      rw [fieldLevels, ih, List.foldr_cons]

theorem nests_by_items {items : List Json}
    (each : ∀ item ∈ items, NestsBy (written item) item.levels) :
    NestsBy ([','].intercalate (items.map written)) (itemLevels items) := by
  rw [item_levels_eq_foldr]
  exact NestsBy.intercalate each

theorem nests_by_field {field : String × Json}
    (value : NestsBy (written field.2) field.2.levels) :
    NestsBy (writtenField field) field.2.levels := by
  intro depth most rest
  have colon : opensGroup ':' = false ∧ closesGroup ':' = false := by decide
  rw [writtenField, List.append_assoc, nesting_from_write_text, List.cons_append, nestingFrom,
    if_neg (by decide), colon.1, colon.2]
  exact value depth most rest

theorem nests_by_fields {fields : List (String × Json)}
    (each : ∀ field ∈ fields, NestsBy (written field.2) field.2.levels) :
    NestsBy ([','].intercalate (fields.map writtenField)) (fieldLevels fields) := by
  rw [field_levels_eq_foldr]
  exact NestsBy.intercalate fun field member => nests_by_field (each field member)

theorem nests_by_levels {value : Json} (plain : value.Plain) :
    NestsBy (written value) value.levels := by
  induction value with
  | null => intro depth most rest; rfl
  | bool value => intro depth most rest; cases value <;> rfl
  | whole value =>
      intro depth most rest
      rw [written_whole, levels, deepen_zero]
      apply nesting_from_between
      intro char member
      obtain ⟨noQuote, _, noOpening, noClosing⟩ := whole_chars_plain value char member
      exact ⟨noQuote, noOpening, noClosing⟩
  | real value => cases plain
  | text value =>
      intro depth most rest
      rw [written_text, levels, deepen_zero]
      exact nesting_from_write_text value
  | list items ih =>
      cases plain with
      | list within =>
          rw [written_list]
          cases items with
          | nil => exact NestsBy.empty_group (.inl ⟨rfl, rfl⟩)
          | cons item others =>
              rw [levels_list (List.cons_ne_nil item others)]
              refine NestsBy.group (nests_by_items fun other member =>
                ih other member (within other member)) (.inl ⟨rfl, rfl⟩) ?_
              intro rest
              obtain ⟨behind, begins⟩ :=
                exists_intercalate_comma (written item) (others.map written)
              rw [List.map_cons, begins, List.append_assoc]
              exact ends_at_once_written (within item List.mem_cons_self) _
  | object fields ih =>
      cases plain with
      | object apart within =>
          rw [written_object]
          cases fields with
          | nil => exact NestsBy.empty_group (.inr ⟨rfl, rfl⟩)
          | cons field others =>
              rw [levels_object (List.cons_ne_nil field others)]
              refine NestsBy.group (nests_by_fields fun other member =>
                ih other member (within other member)) (.inr ⟨rfl, rfl⟩) ?_
              intro rest
              obtain ⟨behind, begins⟩ :=
                exists_intercalate_comma (writtenField field) (others.map writtenField)
              obtain ⟨quoted, quote, _⟩ := exists_written_field field (behind ++ rest)
              rw [List.map_cons, begins, List.append_assoc, quote]
              rfl

theorem nesting_written {value : Json} (plain : value.Plain) :
    nesting (written value) = value.levels := by
  have whole := nests_by_levels plain 0 0 []
  rw [List.append_nil] at whole
  rw [nesting, whole, nestingFrom, deepen]
  split <;> omega

section Surrogates

variable {rest : List Char}

theorem holds_lone_surrogate_cons {char : Char} (plain : char ≠ '\\') :
    holdsLoneSurrogate 0 (char :: rest) = holdsLoneSurrogate 0 rest := by
  rw [holdsLoneSurrogate.eq_def]
  dsimp only
  rw [if_neg plain]

theorem holds_lone_surrogate_append {piece : List Char} (plain : ∀ char ∈ piece, char ≠ '\\') :
    holdsLoneSurrogate 0 (piece ++ rest) = holdsLoneSurrogate 0 rest := by
  induction piece with
  | nil => rfl
  | cons char piece ih =>
      rw [List.cons_append, holds_lone_surrogate_cons (plain char List.mem_cons_self)]
      exact ih fun other member => plain other (List.mem_cons_of_mem char member)

theorem holds_lone_surrogate_due (skipped rest : List Char) :
    holdsLoneSurrogate skipped.length (skipped ++ rest) = holdsLoneSurrogate 0 rest := by
  induction skipped with
  | nil => rfl
  | cons char skipped ih => rw [List.cons_append, List.length_cons, holdsLoneSurrogate, ih]

theorem not_lone_surrogate_hex_digits {char : Char} (small : char.toNat < 32) (next : Char)
    (rest : List Char) : isLoneSurrogate (hexDigits 4 char.toNat ++ next :: rest) = false := by
  have high : isHighSurrogate char.toNat = false := by
    simp only [isHighSurrogate, Bool.and_eq_false_iff, decide_eq_false_iff_not]
    omega
  have low : isLowSurrogate char.toNat = false := by
    simp only [isLowSurrogate, Bool.and_eq_false_iff, decide_eq_false_iff_not]
    omega
  rw [isLoneSurrogate, four_hex?_hex_digits (by omega), unicode_escape?_hex_digits (by omega)]
  simp only [high, low, Bool.or_self, Bool.false_and]

theorem holds_lone_surrogate_escape_char (char next : Char) :
    holdsLoneSurrogate 0 (escapeChar false char ++ next :: rest) =
      holdsLoneSurrogate 0 (next :: rest) := by
  rcases escape_char_cases char with ⟨same, _, noEscape⟩ | ⟨letter, same, noNumber⟩ | ⟨small, same⟩
  · rw [same]
    exact holds_lone_surrogate_cons noEscape
  · rw [same, List.cons_append, holdsLoneSurrogate, if_pos rfl]
    · rfl
    · intro more begins
      exact noNumber (List.cons.inj begins).1
  · have skip := holds_lone_surrogate_due ('u' :: hexDigits 4 char.toNat) (next :: rest)
    rw [same, List.cons_append, List.cons_append, holdsLoneSurrogate, if_pos rfl,
      not_lone_surrogate_hex_digits small, unicode_escape?_hex_digits (by omega), Bool.false_or]
    exact skip

theorem holds_lone_surrogate_write_text (text : String) :
    holdsLoneSurrogate 0 ((writeText false text).toList ++ rest) = holdsLoneSurrogate 0 rest := by
  have within (chars : List Char) :
      holdsLoneSurrogate 0 (chars.flatMap (escapeChar false) ++ '"' :: rest) =
        holdsLoneSurrogate 0 rest := by
    induction chars with
    | nil => exact holds_lone_surrogate_cons (by decide)
    | cons char chars ih =>
        have nonempty : ∃ next more,
            chars.flatMap (escapeChar false) ++ '"' :: rest = next :: more := by
          cases chars.flatMap (escapeChar false) with
          | nil => exact ⟨'"', rest, rfl⟩
          | cons next more => exact ⟨next, more ++ '"' :: rest, rfl⟩
        obtain ⟨next, more, same⟩ := nonempty
        rw [List.flatMap_cons, List.append_assoc, same, holds_lone_surrogate_escape_char, ← same,
          ih]
  rw [writeText, String.toList_ofList, List.cons_append, List.append_assoc,
    holds_lone_surrogate_cons (by decide)]
  exact within text.toList

/-- The form hides no half of a surrogate pair and reveals none, wherever it stands: what
follows it is judged as it would be alone. -/
def Paired (form : List Char) : Prop :=
  ∀ rest, holdsLoneSurrogate 0 (form ++ rest) = holdsLoneSurrogate 0 rest

theorem Paired.append {first second : List Char} (front : Paired first) (back : Paired second) :
    Paired (first ++ second) := by
  intro rest
  rw [List.append_assoc, front, back]

theorem paired_char {char : Char} (plain : char ≠ '\\') : Paired [char] := by
  intro rest
  exact holds_lone_surrogate_cons plain

theorem paired_intercalate {pieces : List (List Char)} (each : ∀ piece ∈ pieces, Paired piece) :
    Paired ([','].intercalate pieces) := by
  induction pieces with
  | nil => exact fun _ => rfl
  | cons piece others ih =>
      have first := each piece List.mem_cons_self
      have below := ih fun other member => each other (List.mem_cons_of_mem piece member)
      cases others with
      | nil =>
          rw [List.intercalate_singleton]
          exact first
      | cons second more =>
          rw [intercalate_cons_comma]
          exact first.append ((paired_char (show ',' ≠ '\\' by decide)).append below)

theorem paired_group {opening closing : Char} {pieces : List (List Char)}
    (begins : opening ≠ '\\') (ends : closing ≠ '\\') (each : ∀ piece ∈ pieces, Paired piece) :
    Paired (opening :: ([','].intercalate pieces ++ [closing])) :=
  (paired_char begins).append ((paired_intercalate each).append (paired_char ends))

end Surrogates

theorem paired_written {value : Json} (free : value.FloatFree) : Paired (written value) := by
  induction free with
  | null => exact fun _ => rfl
  | bool value => cases value <;> exact fun _ => rfl
  | whole value =>
      intro rest
      rw [written_whole]
      apply holds_lone_surrogate_append
      intro char member
      exact (whole_chars_plain value char member).2.1
  | text value =>
      intro rest
      rw [written_text]
      exact holds_lone_surrogate_write_text value
  | @list items _ ih =>
      rw [written_list]
      apply paired_group (by decide) (by decide)
      intro piece isPiece
      obtain ⟨item, isItem, rfl⟩ := List.mem_map.1 isPiece
      exact ih item isItem
  | @object fields _ ih =>
      rw [written_object]
      apply paired_group (by decide) (by decide)
      intro piece isPiece
      obtain ⟨field, isField, rfl⟩ := List.mem_map.1 isPiece
      have name : Paired (writeText false field.1).toList :=
        fun _ => holds_lone_surrogate_write_text field.1
      exact name.append ((paired_char (show ':' ≠ '\\' by decide)).append (ih field isField))

/-- A plain value is read back strictly exactly if it is not too deep. -/
theorem read_strictly_write {value : Json} (plain : value.Plain) :
    readStrictly? (write recordStyle value).toList =
      if value.levels ≤ nestingLimit then some value else none := by
  have lone := paired_written plain.float_free []
  have deep := nesting_written plain
  rw [List.append_nil] at lone
  rw [written] at lone deep
  rw [readStrictly?, read_write plain]
  dsimp only
  rw [lone, deep, holdsLoneSurrogate, Bool.false_or]
  by_cases fits : value.levels ≤ nestingLimit
  · rw [if_pos fits, decide_eq_false (Nat.not_lt.2 fits)]
    rfl
  · rw [if_neg fits, decide_eq_true (Nat.lt_of_not_le fits)]
    rfl

end LibraryDetection.Json
