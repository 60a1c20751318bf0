import LibraryDetection.Json.Reader
import Mathlib.Data.List.TakeDrop
import Mathlib.Data.List.TakeWhile

/-!
# Whole numbers in JSON

A whole number that is not too long is read as it was written, in front of whatever may
follow a value.
-/

namespace LibraryDetection

set_option autoImplicit false

open LibraryDetection.Text

namespace Number

abbrev digitsOf (value : Nat) : List Char := Nat.toDigits 10 value

theorem is_ascii_digit_of_mem {value : Nat} {char : Char} (member : char ∈ digitsOf value) :
    isAsciiDigit char = true := by
  have digit := Nat.isDigit_of_mem_toDigits (by decide) (by decide) member
  simp only [Char.isDigit, Bool.and_eq_true, decide_eq_true_eq] at digit
  simp only [isAsciiDigit, Bool.and_eq_true, decide_eq_true_eq]
  exact digit

theorem exists_head_digits_of {value : Nat} (positive : 0 < value) :
    ∃ digit rest, digitsOf value = digit :: rest ∧ digit ≠ '0' := by
  induction value using Nat.strongRecOn with
  | ind value ih =>
      by_cases small : value < 10
      · refine ⟨value.digitChar, [], Nat.toDigits_of_lt_base small, ?_⟩
        intro isZero
        have zero := Nat.digitChar_eq_zero.1 isZero
        omega
      · obtain ⟨digit, rest, begins, different⟩ := ih (value / 10) (by omega) (by omega)
        refine ⟨digit, rest ++ [(value % 10).digitChar], ?_, different⟩
        have split : digitsOf value = digitsOf (value / 10) ++ [(value % 10).digitChar] :=
          Nat.toDigits_of_base_le (by decide) (by omega)
        rw [split, begins]
        rfl

theorem digits_value_digits_of (value : Nat) : digitsValue (digitsOf value) = value :=
  Nat.ofDigitChars_ten_toDigits

theorem take_digits_append {digits rest : List Char}
    (all : ∀ digit ∈ digits, isAsciiDigit digit = true)
    (stops : ∀ char tail, rest = char :: tail → isAsciiDigit char = false) :
    takeDigits (digits ++ rest) = (digits, rest) := by
  have none : rest.takeWhile isAsciiDigit = [] ∧ rest.dropWhile isAsciiDigit = rest := by
    cases rest with
    | nil => exact ⟨rfl, rfl⟩
    | cons char tail =>
        have stop := stops char tail rfl
        rw [List.takeWhile_cons, List.dropWhile_cons, stop]
        exact ⟨rfl, rfl⟩
  rw [takeDigits, List.span_eq_takeWhile_dropWhile, List.takeWhile_append_of_pos all,
    List.dropWhile_append_of_pos all, none.1, none.2, List.append_nil]

end Number

namespace Json

open LibraryDetection.Number

/-- What may follow a value in a written form: nothing, or a comma or a closing bracket.  In
front of these a number is read to its end. -/
def Ends (rest : List Char) : Prop :=
  ∀ char tail, rest = char :: tail → char = ',' ∨ char = ']' ∨ char = '\x7d'

theorem ends_nil : Ends [] := by
  intro char tail same
  cases same

theorem ends_cons {char : Char} (closes : char = ',' ∨ char = ']' ∨ char = '\x7d')
    (tail : List Char) : Ends (char :: tail) := by
  intro other rest same
  obtain ⟨rfl, _⟩ := List.cons.inj same
  exact closes

section Numeral

variable {rest : List Char}

theorem Ends.is_ascii_digit (ends : Ends rest) :
    ∀ char tail, rest = char :: tail → Text.isAsciiDigit char = false := by
  intro char tail same
  rcases ends char tail same with rfl | rfl | rfl <;> decide

theorem take_places_of_ends (ends : Ends rest) : takePlaces rest = ([], rest) := by
  rw [takePlaces.eq_def]
  split
  · rename_i tail
    rcases ends '.' tail rfl with point | point | point <;> exact absurd point (by decide)
  · rfl

theorem take_exponent_of_ends (ends : Ends rest) : takeExponent rest = (none, rest) := by
  cases rest with
  | nil => rfl
  | cons mark tail =>
      have other : ¬ (mark = 'e' ∨ mark = 'E') := by
        rcases ends mark tail rfl with rfl | rfl | rfl <;> decide
      rw [takeExponent, if_neg other]

theorem take_whole_digits_of (value : Nat) (ends : Ends rest) :
    takeWhole (digitsOf value ++ rest) = (digitsOf value, rest) := by
  by_cases positive : 0 < value
  · obtain ⟨digit, others, begins, different⟩ := exists_head_digits_of positive
    have taken : takeDigits (digitsOf value ++ rest) = (digitsOf value, rest) :=
      take_digits_append (fun _ member => is_ascii_digit_of_mem member) ends.is_ascii_digit
    rw [begins] at taken ⊢
    rw [List.cons_append, takeWhole, if_neg different]
    exact taken
  · have zero : value = 0 := by omega
    subst zero
    rfl

theorem take_numeral?_digits_of (value : Nat) (ends : Ends rest) :
    takeNumeral? (digitsOf value ++ rest) = some (⟨false, digitsOf value, [], none⟩, rest) := by
  have noSign : takeMinus (digitsOf value ++ rest) = (false, digitsOf value ++ rest) := by
    cases begins : digitsOf value with
    | nil => exact absurd begins Nat.toDigits_ne_nil
    | cons digit others =>
        have isDigit : Text.isAsciiDigit digit = true := by
          have member : digit ∈ digitsOf value := by
            rw [begins]
            exact List.mem_cons_self
          exact is_ascii_digit_of_mem member
        rw [List.cons_append, takeMinus.eq_def]
        split
        · rename_i same
          obtain ⟨rfl, _⟩ := List.cons.inj same
          exact absurd isDigit (by decide)
        · rfl
  cases begins : digitsOf value with
  | nil => exact absurd begins Nat.toDigits_ne_nil
  | cons digit others =>
      rw [begins] at noSign
      have whole := take_whole_digits_of value ends
      rw [begins] at whole
      simp only [takeNumeral?, noSign, whole, take_places_of_ends ends, take_exponent_of_ends ends]

theorem take_numeral?_minus (value : Nat) (ends : Ends rest) :
    takeNumeral? ('-' :: (digitsOf value ++ rest)) =
      some (⟨true, digitsOf value, [], none⟩, rest) := by
  cases begins : digitsOf value with
  | nil => exact absurd begins Nat.toDigits_ne_nil
  | cons digit others =>
      have whole := take_whole_digits_of value ends
      rw [begins] at whole
      simp only [takeNumeral?, takeMinus, whole, take_places_of_ends ends,
        take_exponent_of_ends ends]

theorem take_word?_digit {digit : Char} (isDigit : Text.isAsciiDigit digit = true)
    (chars : List Char) :
    takeWord? (digit :: chars) words = none ∧ takeWord? ('-' :: digit :: chars) words = none := by
  have other : ∀ letter : Char, Text.isAsciiDigit letter = false → letter ≠ digit := by
    rintro letter noDigit rfl
    rw [isDigit] at noDigit
    cases noDigit
  have upperN := other 'N' (by decide)
  have upperI := other 'I' (by decide)
  have lowerN := other 'n' (by decide)
  have lowerT := other 't' (by decide)
  have lowerF := other 'f' (by decide)
  have minus := other '-' (by decide)
  constructor
  · simp [takeWord?, words, withoutStart?, upperN, upperI, lowerN, lowerT, lowerF, minus]
  · simp [takeWord?, words, withoutStart?, upperI]

theorem exists_digit_digits_of (value : Nat) :
    ∃ digit others, digitsOf value = digit :: others ∧ Text.isAsciiDigit digit = true := by
  cases begins : digitsOf value with
  | nil => exact absurd begins Nat.toDigits_ne_nil
  | cons digit others =>
      have member : digit ∈ digitsOf value := by
        rw [begins]
        exact List.mem_cons_self
      exact ⟨digit, others, rfl, is_ascii_digit_of_mem member⟩

def wholeChars (value : Int) : List Char :=
  if value < 0 then '-' :: digitsOf value.natAbs else digitsOf value.natAbs

theorem toList_toString_whole (value : Int) : (toString value).toList = wholeChars value := by
  cases value with
  | ofNat size =>
      have nonneg : ¬ (Int.ofNat size) < 0 := Int.not_lt.2 (Int.natCast_nonneg size)
      rw [wholeChars, if_neg nonneg]
      exact Nat.toList_repr
  | negSucc size =>
      rw [wholeChars, if_pos (Int.negSucc_lt_zero size)]
      have text : toString (Int.negSucc size) = "-" ++ Nat.repr (size + 1) := rfl
      rw [text, String.toList_append, Nat.toList_repr]
      rfl

theorem take_word?_whole_chars (value : Int) (rest : List Char) :
    takeWord? (wholeChars value ++ rest) words = none := by
  obtain ⟨digit, others, begins, isDigit⟩ := exists_digit_digits_of value.natAbs
  obtain ⟨plain, signed⟩ := take_word?_digit isDigit (others ++ rest)
  rw [wholeChars, begins]
  split
  · exact signed
  · exact plain

theorem take_numeral?_whole_chars (value : Int) (ends : Ends rest) :
    takeNumeral? (wholeChars value ++ rest) =
      some (⟨decide (value < 0), digitsOf value.natAbs, [], none⟩, rest) := by
  rw [wholeChars]
  split
  · rename_i negative
    rw [decide_eq_true negative]
    exact take_numeral?_minus value.natAbs ends
  · rename_i nonneg
    rw [decide_eq_false nonneg]
    exact take_numeral?_digits_of value.natAbs ends

theorem read_scalar_whole {value : Int} (short : (digitsOf value.natAbs).length ≤ digitLimit)
    (ends : Ends rest) : readScalar (wholeChars value ++ rest) = .ok (.whole value, rest) := by
  have size :
      (if decide (value < 0) = true then -(value.natAbs : Int) else value.natAbs) = value := by
    split
    · rename_i negative
      have below := of_decide_eq_true negative
      omega
    · rename_i nonneg
      have above := of_decide_eq_false (Bool.not_eq_true _ ▸ nonneg)
      omega
  rw [readScalar, take_word?_whole_chars, take_numeral?_whole_chars value ends]
  simp only [Numeral.json?, if_neg (Nat.not_lt.2 short), digits_value_digits_of, size]

end Numeral

end Json

end LibraryDetection
