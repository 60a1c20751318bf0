import LibraryDetection.Text.Fields

/-!
# Pieces of joined texts
-/

namespace LibraryDetection.Text

set_option autoImplicit false

variable {separator : Char}

theorem split_chars_of_not_mem {piece : List Char} (free : separator ∉ piece) :
    splitChars separator piece = [piece] := by
  induction piece with
  | nil => rfl
  | cons char rest ih =>
      have different : separator ≠ char := List.ne_of_not_mem_cons free
      have restFree : separator ∉ rest := List.not_mem_of_not_mem_cons free
      rw [splitChars, if_neg (Ne.symm different), ih restFree]

theorem split_chars_append_cons {piece : List Char} (free : separator ∉ piece)
    (rest : List Char) :
    splitChars separator (piece ++ separator :: rest) = piece :: splitChars separator rest := by
  induction piece with
  | nil => rw [List.nil_append, splitChars, if_pos rfl]
  | cons char others ih =>
      have different : separator ≠ char := List.ne_of_not_mem_cons free
      have othersFree : separator ∉ others := List.not_mem_of_not_mem_cons free
      rw [List.cons_append, splitChars, if_neg (Ne.symm different), ih othersFree]

theorem split_chars_intercalate {pieces : List (List Char)} (some : pieces ≠ [])
    (free : ∀ piece ∈ pieces, separator ∉ piece) :
    splitChars separator ([separator].intercalate pieces) = pieces := by
  induction pieces with
  | nil => exact absurd rfl some
  | cons piece others ih =>
      have pieceFree := free piece List.mem_cons_self
      cases others with
      | nil =>
          rw [List.intercalate_singleton]
          exact split_chars_of_not_mem pieceFree
      | cons second more =>
          have rest := ih (List.cons_ne_nil _ _) fun other member =>
            free other (List.mem_cons_of_mem piece member)
          rw [List.intercalate_cons_cons, List.append_assoc, List.singleton_append,
            split_chars_append_cons pieceFree, rest]

theorem split_chars_append_separator (front back : List Char) :
    splitChars separator (front ++ separator :: back) =
      splitChars separator front ++ splitChars separator back := by
  induction front with
  | nil => exact split_chars_append_cons List.not_mem_nil back
  | cons char rest ih =>
      by_cases separates : char = separator
      · rw [List.cons_append, splitChars, if_pos separates, ih, splitChars, if_pos separates]
        rfl
      · rw [List.cons_append, splitChars, if_neg separates, ih, splitChars, if_neg separates]
        cases pieces : splitChars separator rest with
        | nil => exact absurd pieces (split_chars_ne_nil separator rest)
        | cons piece others => rfl

theorem split_chars_map {change : Char → Char}
    (keeps : ∀ char, change char = separator ↔ char = separator) (chars : List Char) :
    splitChars separator (chars.map change) =
      (splitChars separator chars).map (List.map change) := by
  induction chars with
  | nil => rfl
  | cons char rest ih =>
      rw [List.map_cons, splitChars, splitChars, ih]
      simp only [keeps]
      split
      · rfl
      · cases pieces : splitChars separator rest with
        | nil => exact absurd pieces (split_chars_ne_nil separator rest)
        | cons piece others => rfl

theorem split_chars_append {back : List Char} (free : separator ∉ back) (front : List Char) :
    ∃ pieces last, splitChars separator front = pieces ++ [last] ∧
      splitChars separator (front ++ back) = pieces ++ [last ++ back] := by
  induction front with
  | nil => exact ⟨[], [], rfl, split_chars_of_not_mem free⟩
  | cons char rest ih =>
      obtain ⟨pieces, last, alone, together⟩ := ih
      by_cases separates : char = separator
      · refine ⟨[] :: pieces, last, ?_, ?_⟩
        · rw [splitChars, if_pos separates, alone]
          rfl
        · rw [List.cons_append, splitChars, if_pos separates, together]
          rfl
      · cases pieces with
        | nil =>
            refine ⟨[], char :: last, ?_, ?_⟩
            · rw [splitChars, if_neg separates, alone]
              rfl
            · rw [List.cons_append, splitChars, if_neg separates, together]
              rfl
        | cons first others =>
            refine ⟨(char :: first) :: others, last, ?_, ?_⟩
            · rw [splitChars, if_neg separates, alone]
              rfl
            · rw [List.cons_append, splitChars, if_neg separates, together]
              rfl

theorem mem_intercalate {pieces : List (List Char)} {char : Char}
    (member : char ∈ [separator].intercalate pieces) :
    char = separator ∨ ∃ piece ∈ pieces, char ∈ piece := by
  induction pieces with
  | nil => cases member
  | cons piece others ih =>
      cases others with
      | nil =>
          rw [List.intercalate_singleton] at member
          exact .inr ⟨piece, List.mem_cons_self, member⟩
      | cons second more =>
          rw [List.intercalate_cons_cons, List.mem_append, List.mem_append,
            List.mem_singleton] at member
          rcases member with (here | separates) | later
          · exact .inr ⟨piece, List.mem_cons_self, here⟩
          · exact .inl separates
          · rcases ih later with separates | ⟨other, inOthers, found⟩
            · exact .inl separates
            · exact .inr ⟨other, List.mem_cons_of_mem piece inOthers, found⟩

theorem join_split (separator : Char) (text : String) :
    join (String.singleton separator) (split separator text) = text := by
  have pieces : (split separator text).map String.toList = splitChars separator text.toList := by
    simp [split, Function.comp_def]
  apply String.toList_injective
  rw [join, String.toList_intercalate, String.toList_singleton, pieces, intercalate_split_chars]

theorem split_injective {left right : String}
    (same : split separator left = split separator right) : left = right := by
  rw [← join_split separator left, same, join_split]

theorem split_join {texts : List String} (some : texts ≠ []) :
    split separator (join (String.singleton separator) texts) =
      texts.flatMap (split separator) := by
  induction texts with
  | nil => exact absurd rfl some
  | cons text others ih =>
      cases others with
      | nil => simp [join]
      | cons second more =>
          have rest := ih (List.cons_ne_nil second more)
          have cut : (join (String.singleton separator) (text :: second :: more)).toList =
              text.toList ++ separator ::
                (join (String.singleton separator) (second :: more)).toList := by
            simp [join]
          rw [split, cut, split_chars_append_separator, List.map_append, List.flatMap_cons, ← rest]
          rfl

theorem split_join_of_not_mem {texts : List String} (some : texts ≠ [])
    (free : ∀ text ∈ texts, separator ∉ text.toList) :
    split separator (join (String.singleton separator) texts) = texts := by
  have pieces : splitChars separator (join (String.singleton separator) texts).toList =
      texts.map String.toList := by
    rw [join, String.toList_intercalate, String.toList_singleton]
    apply split_chars_intercalate
    · simpa using some
    · simpa using free
  simp [split, pieces, Function.comp_def]

theorem replace_char_of_not_mem {old new : Char} {text : String} (free : old ∉ text.toList) :
    replaceChar old new text = text := by
  have same : ∀ char ∈ text.toList, (if char = old then new else char) = char := by
    intro char member
    rw [if_neg (ne_of_mem_of_not_mem member free)]
  rw [← String.toList_inj, replaceChar, String.toList_map]
  exact (List.map_congr_left same).trans (List.map_id' _)

theorem without_start?_eq_some_iff {start text rest : List Char} :
    withoutStart? start text = some rest ↔ start ++ rest = text := by
  induction start generalizing text with
  | nil => simp [withoutStart?, eq_comm]
  | cons expected start ih =>
      cases text with
      | nil => simp [withoutStart?]
      | cons char others =>
          rw [withoutStart?]
          split
          · rename_i same
            rw [ih, same, List.cons_append, List.cons.injEq, and_iff_right rfl]
          · rename_i different
            simp [different]

theorem starts_with_iff {start text : List Char} :
    startsWith start text = true ↔ start <+: text := by
  simp only [startsWith, Option.isSome_iff_exists, without_start?_eq_some_iff, List.IsPrefix]

theorem not_is_prefix_of_barrier {start front : List Char} {barrier behind : Char}
    (inStart : barrier ∈ start) (notInFront : barrier ∉ front) (behindFree : behind ∉ start)
    (rest : List Char) : ¬ start <+: front ++ behind :: rest := by
  rintro isStart
  cases List.prefix_or_prefix_of_prefix isStart (List.prefix_append front _) with
  | inl short => exact notInFront (short.subset inStart)
  | inr long =>
      obtain ⟨more, rfl⟩ := long
      cases more with
      | nil =>
          rw [List.append_nil] at inStart
          exact notInFront inStart
      | cons char others =>
          obtain ⟨last, same⟩ := isStart
          simp only [List.append_assoc, List.cons_append, List.append_cancel_left_eq,
            List.cons.injEq] at same
          simp [same.1] at behindFree

end LibraryDetection.Text
