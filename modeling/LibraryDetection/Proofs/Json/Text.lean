import LibraryDetection.Json.Reader
import LibraryDetection.Json.Writer

/-!
# Texts in JSON

The escapes that are written for the characters of a text are read as these characters.
-/

namespace LibraryDetection.Json

set_option autoImplicit false

open LibraryDetection.Text

theorem hex_value?_hex_digit {value : Nat} (small : value < 16) :
    hexValue? (hexDigit value) = some value := by
  have all : ∀ value < 16, hexValue? (hexDigit value) = some value := by decide
  exact all value small

theorem hex_digits_four (code : Nat) :
    hexDigits 4 code = [hexDigit (code / 16 / 16 / 16 % 16), hexDigit (code / 16 / 16 % 16),
      hexDigit (code / 16 % 16), hexDigit (code % 16)] := rfl

theorem four_hex?_hex_digits {code : Nat} (small : code < 65536) (next : Char)
    (rest : List Char) : fourHex? (hexDigits 4 code ++ next :: rest) = some code := by
  have first : code / 16 / 16 / 16 % 16 < 16 := Nat.mod_lt _ (by decide)
  have second : code / 16 / 16 % 16 < 16 := Nat.mod_lt _ (by decide)
  have third : code / 16 % 16 < 16 := Nat.mod_lt _ (by decide)
  have fourth : code % 16 < 16 := Nat.mod_lt _ (by decide)
  have whole : ((code / 16 / 16 / 16 % 16 * 16 + code / 16 / 16 % 16) * 16 + code / 16 % 16) * 16 +
      code % 16 = code := by omega
  rw [hex_digits_four]
  simp only [List.cons_append, List.nil_append, fourHex?, hex_value?_hex_digit first,
    hex_value?_hex_digit second, hex_value?_hex_digit third, hex_value?_hex_digit fourth,
    Option.bind_eq_bind, Option.bind_some, whole]

theorem unicode_escape?_hex_digits {char : Char} (small : char.toNat < 0xD800) (next : Char)
    (rest : List Char) :
    unicodeEscape? (hexDigits 4 char.toNat ++ next :: rest) = some (char, 5) := by
  have high : isHighSurrogate char.toNat = false := by
    simp only [isHighSurrogate, Bool.and_eq_false_iff, decide_eq_false_iff_not]
    omega
  have low : isLowSurrogate char.toNat = false := by
    simp only [isLowSurrogate, Bool.and_eq_false_iff, decide_eq_false_iff_not]
    omega
  have code : charOfCode char.toNat = char := by
    rw [charOfCode, high, low]
    exact Char.ofNat_toNat char
  simp only [unicodeEscape?, four_hex?_hex_digits (show char.toNat < 65536 by omega) next rest,
    high, Bool.false_eq_true, if_false, Option.bind_eq_bind, Option.bind_some]
  split
  · rename_i found
    split at found <;> cases found
  · rw [code]

section Characters

variable (opening passed : List Char)

theorem read_text_due (skipped rest : List Char) :
    readText opening passed skipped.length (skipped ++ rest) = readText opening passed 0 rest := by
  induction skipped with
  | nil => rfl
  | cons char skipped ih => rw [List.cons_append, List.length_cons, readText, ih]

theorem read_text_short {letter escaped : Char} (short : shortEscape? letter = some escaped)
    (rest : List Char) :
    readText opening passed 0 ('\\' :: letter :: rest) =
      readText opening (escaped :: passed) 0 rest := by
  have notCode : letter ≠ 'u' := by
    rintro rfl
    have unknown : shortEscape? 'u' = none := by decide
    rw [unknown] at short
    cases short
  rw [readText, if_neg (by decide), if_pos rfl, short]
  · exact read_text_due opening (escaped :: passed) [letter] rest
  · exact notCode

theorem read_text_unicode {char : Char} (small : char.toNat < 0xD800) (next : Char)
    (rest : List Char) :
    readText opening passed 0 (unicodeEscape char.toNat ++ next :: rest) =
      readText opening (char :: passed) 0 (next :: rest) := by
  have escape : unicodeEscape char.toNat ++ next :: rest =
      '\\' :: 'u' :: (hexDigits 4 char.toNat ++ next :: rest) := rfl
  rw [escape, readText, if_neg (by decide), if_pos rfl, unicode_escape?_hex_digits small]
  exact read_text_due opening (char :: passed) ('u' :: hexDigits 4 char.toNat) (next :: rest)

theorem read_text_plain {char : Char} (noQuote : char ≠ '"') (noEscape : char ≠ '\\')
    (printed : 32 ≤ char.toNat) (rest : List Char) :
    readText opening passed 0 (char :: rest) = readText opening (char :: passed) 0 rest := by
  rw [readText.eq_def]
  dsimp only
  rw [if_neg noQuote, if_neg noEscape, if_neg (Nat.not_lt.2 printed)]

theorem read_text_escape_char (char next : Char) (rest : List Char) :
    readText opening passed 0 (escapeChar false char ++ next :: rest) =
      readText opening (char :: passed) 0 (next :: rest) := by
  rw [escapeChar]
  split
  · rename_i special
    apply read_text_short
    rw [shortEscape?, if_pos (special.imp id Or.inl)]
  · rename_i plain
    split
    · rename_i same
      subst same
      exact read_text_short opening passed rfl _
    · split
      · rename_i same
        subst same
        exact read_text_short opening passed rfl _
      · split
        · rename_i same
          subst same
          exact read_text_short opening passed rfl _
        · split
          · rename_i same
            subst same
            exact read_text_short opening passed rfl _
          · split
            · rename_i same
              subst same
              exact read_text_short opening passed rfl _
            · split
              · exact read_text_unicode opening passed (by omega) next rest
              · rename_i control
                rw [Bool.false_and, if_neg (by decide)]
                exact read_text_plain opening passed (fun quote => plain (.inl quote))
                  (fun escape => plain (.inr escape)) (Nat.le_of_not_lt control) _

theorem read_text_escaped (chars rest : List Char) :
    readText opening passed 0 (chars.flatMap (escapeChar false) ++ '"' :: rest) =
      .ok (String.ofList (passed.reverse ++ chars), rest) := by
  induction chars generalizing passed with
  | nil =>
      rw [List.flatMap_nil, List.nil_append, readText.eq_def]
      dsimp only
      rw [if_pos rfl, List.append_nil]
  | cons char chars ih =>
      have nonempty : ∃ next more,
          chars.flatMap (escapeChar false) ++ '"' :: rest = next :: more := by
        cases chars.flatMap (escapeChar false) with
        | nil => exact ⟨'"', rest, rfl⟩
        | cons next more => exact ⟨next, more ++ '"' :: rest, rfl⟩
      obtain ⟨next, more, same⟩ := nonempty
      rw [List.flatMap_cons, List.append_assoc, same, read_text_escape_char, ← same, ih,
        List.reverse_cons, List.append_assoc]
      rfl

end Characters

theorem read_text_write_text (opening : List Char) (text : String) (rest : List Char) :
    readText opening [] 0 ((writeText false text).toList.drop 1 ++ rest) = .ok (text, rest) := by
  rw [writeText, String.toList_ofList, List.drop_one, List.tail_cons, List.append_assoc,
    List.singleton_append, read_text_escaped, List.reverse_nil, List.nil_append,
    String.ofList_toList]

theorem return_not_mem_escape_char (char : Char) : '\r' ∉ escapeChar false char := by
  have digits : ∀ code, '\r' ∉ unicodeEscape code := by
    intro code member
    simp only [unicodeEscape, hex_digits_four, List.mem_cons, List.not_mem_nil, or_false] at member
    have all : ∀ value < 16, '\r' ≠ hexDigit value := by decide
    have bound : ∀ value, value % 16 < 16 := fun value => Nat.mod_lt value (by decide)
    rcases member with slash | letter | first | second | third | fourth
    · exact absurd slash (by decide)
    · exact absurd letter (by decide)
    · exact all _ (bound _) first
    · exact all _ (bound _) second
    · exact all _ (bound _) third
    · exact all _ (bound _) fourth
  rw [escapeChar]
  split
  · rename_i special
    rcases special with rfl | rfl <;> decide
  · split
    · decide
    · rename_i noReturn
      split
      · decide
      · rename_i isReturn
        split
        · decide
        · split
          · decide
          · split
            · decide
            · split
              · exact digits _
              · rw [Bool.false_and, if_neg (by decide), List.mem_singleton]
                exact Ne.symm isReturn

end LibraryDetection.Json
