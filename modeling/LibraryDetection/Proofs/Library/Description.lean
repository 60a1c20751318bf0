import LibraryDetection.Proofs.Json.Reread
import LibraryDetection.Proofs.Validation.Checked
import LibraryDetection.Validation.Library
import Mathlib.Algebra.Group.Nat.Defs

/-!
# Descriptions told and checked

A date is read off its text, and a description passes its check as it was told.
-/

namespace LibraryDetection

set_option autoImplicit false

open LibraryDetection.Text LibraryDetection.Number LibraryDetection.Validation

namespace Number

theorem length_pad_digits {width value : Nat} (positive : 0 < width)
    (small : value < 10 ^ width) : (padDigits width value).length = width := by
  have short : (Nat.toDigits 10 value).length ≤ width :=
    (Nat.length_toDigits_le_iff (by decide) positive).2 small
  rw [padDigits, List.length_append, zeros, List.length_replicate]
  omega

theorem digits_value_pad_digits (width value : Nat) :
    digitsValue (padDigits width value) = value := by
  rw [padDigits, digitsValue, Nat.ofDigitChars_append, zeros, Nat.ofDigitChars_replicate_zero,
    Nat.mul_zero]
  exact digits_value_digits_of value

theorem all_pad_digits (width value : Nat) : (padDigits width value).all isAsciiDigit = true := by
  apply List.all_eq_true.2
  intro char member
  rcases List.mem_append.1 member with zero | digit
  · rw [(List.mem_replicate.1 zero).2]
    decide
  · exact is_ascii_digit_of_mem digit

end Number

theorem digit_field?_pad_digits (width value : Nat) :
    digitField? (padDigits width value) = some value := by
  rw [digitField?, if_pos (all_pad_digits width value), digits_value_pad_digits]

theorem exists_two_of_length {chars : List Char} (long : chars.length = 2) :
    ∃ a b, chars = [a, b] := by
  match chars, long with
  | [a, b], _ => exact ⟨a, b, rfl⟩

theorem exists_four_of_length {chars : List Char} (long : chars.length = 4) :
    ∃ a b c d, chars = [a, b, c, d] := by
  match chars, long with
  | [a, b, c, d], _ => exact ⟨a, b, c, d, rfl⟩

theorem take_date?_pad_digits {year month day : Nat} (shortYear : year < 10 ^ 4)
    (shortMonth : month < 10 ^ 2) (shortDay : day < 10 ^ 2)
    (hasDay : Calendar.hasDay year month day = true) (rest : List Char) :
    takeDate? (padDigits 4 year ++ '-' :: padDigits 2 month ++ '-' :: padDigits 2 day ++ rest) =
      some (year, month, day, rest) := by
  have readYear := digit_field?_pad_digits 4 year
  have readMonth := digit_field?_pad_digits 2 month
  have readDay := digit_field?_pad_digits 2 day
  obtain ⟨a, b, c, d, fourDigits⟩ :=
    exists_four_of_length (length_pad_digits (by decide) shortYear)
  obtain ⟨e, f, twoDigits⟩ := exists_two_of_length (length_pad_digits (by decide) shortMonth)
  obtain ⟨g, h, lastDigits⟩ := exists_two_of_length (length_pad_digits (by decide) shortDay)
  rw [fourDigits] at readYear ⊢
  rw [twoDigits] at readMonth ⊢
  rw [lastDigits] at readDay ⊢
  simp only [List.cons_append, List.nil_append, takeDate?, readYear, readMonth, readDay,
    Option.bind_eq_bind, Option.bind_some, hasDay, if_true]

theorem Calendar.bounds {year month day : Nat} (isDate : Calendar.isDate year month day = true) :
    year < 10 ^ 4 ∧ month < 10 ^ 2 ∧ day < 10 ^ 2 ∧ Calendar.hasDay year month day = true := by
  simp only [Calendar.isDate, Bool.and_eq_true, decide_eq_true_eq] at isDate
  obtain ⟨⟨_, lastYear⟩, hasDay⟩ := isDate
  have within := hasDay
  simp only [Calendar.hasDay, Bool.and_eq_true, decide_eq_true_eq] at within
  have longest : Calendar.daysInMonth year month ≤ 31 := by
    rw [Calendar.daysInMonth]
    split
    · split <;> decide
    · split <;> decide
  refine ⟨?_, ?_, ?_, hasDay⟩
  · omega
  · omega
  · omega

theorem day_of_text_text (date : Date) : dayOfText date.text = .valid date := by
  obtain ⟨year, month, day, inCalendar⟩ := date
  obtain ⟨shortYear, shortMonth, shortDay, hasDay⟩ := Calendar.bounds inCalendar
  have taken := take_date?_pad_digits shortYear shortMonth shortDay hasDay []
  rw [List.append_nil] at taken
  have made : Date.of? year month day = some ⟨year, month, day, inCalendar⟩ := dif_pos inCalendar
  rw [dayOfText, Date.text, String.toList_ofList]
  simp only [taken, made]

namespace LibraryDescription

theorem library_to_json (description : LibraryDescription) :
    library description.toJson = .valid description := by
  obtain ⟨name, version, category, releaseDate, comment⟩ := description
  have byLabel : choice Category.ofLabel? (.text category.label) = .valid category := by
    rw [choice, Category.of_label?_label]
  have byDate : nullable day (Json.ofOption (fun date => .text date.text) releaseDate) =
      .valid releaseDate := by
    cases releaseDate with
    | none => rfl
    | some date =>
        change some <$> dayOfText date.text = _
        rw [day_of_text_text]
        rfl
  have byComment : nullable text (Json.ofOption .text comment) = .valid comment := by
    cases comment <;> rfl
  have byName (rest : List (String × Json)) :
      required "name" text (("name", .text name) :: rest) = .valid name := rfl
  have byVersion (rest : List (String × Json)) :
      required "version" text (("name", .text name) :: ("version", .text version) :: rest) =
        .valid version := rfl
  rw [library, toJson, object, Checked.and_then_valid, fields, byName, byVersion,
    optional_of_field? .unknown rfl byLabel, optional_of_field? none rfl byDate,
    optional_of_field? none rfl byComment]
  rfl

theorem plain_to_json (description : LibraryDescription) : description.toJson.Plain := by
  apply Json.Plain.object
  · exact of_decide_eq_true rfl
  · simp only [fields, List.forall_mem_cons]
    refine ⟨.text _, .text _, .text _, ?_, ?_, ?_⟩
    · cases description.releaseDate with
      | none => exact .null
      | some date => exact .text _
    · cases description.comment with
      | none => exact .null
      | some comment => exact .text _
    · intro field member
      cases member

end LibraryDescription

end LibraryDetection
