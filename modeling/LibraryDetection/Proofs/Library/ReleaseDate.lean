import LibraryDetection.Library.ReleaseDate
import LibraryDetection.Proofs.Text.Fields
import Mathlib.Data.List.TakeWhile

/-!
# Texts that are release dates

Which texts are read as a date, and which of those that look like one are refused for a number
that cannot be read.
-/

namespace LibraryDetection.ReleaseDate

set_option autoImplicit false

open LibraryDetection.Text

/-- Characters that look like digits, at least one; that each of them has a value is asked for
separately. -/
structure DigitGroup where
  chars : List Char
  nonempty : chars ≠ []
  digits : ∀ char ∈ chars, looksLikeDigit char = true

namespace DigitGroup

def number (group : DigitGroup) : Nat :=
  group.chars.foldl (fun total digit => total * 10 + (decimalDigit? digit).getD 0) 0

/-- The digits have values, are not too many, and their number is one that is kept. -/
structure Fits (group : DigitGroup) : Prop where
  decimal : ∀ char ∈ group.chars, isDecimalDigit char = true
  short : group.chars.length ≤ Number.digitLimit
  small : group.number < Nat.pow 2 31

def joined (separator : Char) (first second third : DigitGroup) : List Char :=
  first.chars ++ separator :: (second.chars ++ separator :: third.chars)

end DigitGroup

/-- Three groups of digits in one of the orders in which dates are written. -/
inductive Written (year month day : DigitGroup) (text : String) : Prop
  | dashes (same : text.toList = DigitGroup.joined '-' year month day)
  | points (same : text.toList = DigitGroup.joined '.' day month year)
  | slashes (same : text.toList = DigitGroup.joined '/' day month year)

def Tells (text : String) (date : Date) : Prop :=
  ∃ year month day : DigitGroup, Written year month day text ∧ year.Fits ∧ month.Fits ∧ day.Fits ∧
    year.number = date.year ∧ month.number = date.month ∧ day.number = date.day

def IsUnreadable (text : String) : Prop :=
  ∃ year month day : DigitGroup, Written year month day text ∧
    ¬ (year.Fits ∧ month.Fits ∧ day.Fits)

def Faulty {α : Type} (result : Except Fault α) : Prop :=
  ∃ fault, fault ≠ .noDate ∧ result = .error fault

section Faulty

variable {α β : Type} {result : Except Fault α} {next : α → Except Fault β}

theorem Faulty.bind (faulty : Faulty result) : Faulty (result >>= next) := by
  obtain ⟨fault, known, rfl⟩ := faulty
  exact ⟨fault, known, rfl⟩

theorem faulty_bind_of_ok {value : α} (done : result = .ok value) (faulty : Faulty (next value)) :
    Faulty (result >>= next) := by
  rw [done]
  exact faulty

end Faulty

theorem value_cases (group : DigitGroup) :
    value group.chars = .ok group.number ∧ group.chars.length ≤ Number.digitLimit ∧
        (∀ char ∈ group.chars, isDecimalDigit char = true) ∨
      ¬ group.Fits ∧ Faulty (value group.chars) := by
  by_cases decimal : ∀ char ∈ group.chars, isDecimalDigit char = true
  · have whole : group.chars.takeWhile isDecimalDigit = group.chars :=
      List.takeWhile_eq_self_iff.2 decimal
    simp only [value, whole]
    by_cases long : Number.digitLimit < group.chars.length
    · rw [if_pos long]
      refine .inr ⟨?_, _, Fault.noConfusion, rfl⟩
      intro fits
      exact absurd fits.short (by omega)
    · rw [if_neg long, if_neg (lt_irrefl _)]
      exact .inl ⟨rfl, by omega, decimal⟩
  · have part : (group.chars.takeWhile isDecimalDigit).length < group.chars.length := by
      refine lt_of_le_of_ne (List.takeWhile_prefix _).length_le ?_
      intro same
      exact decimal (List.takeWhile_eq_self_iff.1
        ((List.takeWhile_prefix _).eq_of_length same))
    refine .inr ⟨fun fits => decimal fits.decimal, ?_⟩
    simp only [value, if_pos part]
    split <;> exact ⟨_, Fault.noConfusion, rfl⟩

theorem bounded_cases (number : Nat) :
    number < Nat.pow 2 31 ∧ bounded number = .ok () ∨
      ¬ number < Nat.pow 2 31 ∧ Faulty (bounded number) := by
  have order : Nat.pow 2 31 ≤ Nat.pow 2 63 := by decide
  rw [bounded]
  split
  · rename_i beyond
    exact .inr ⟨Nat.not_lt.2 (order.trans beyond), _, Fault.noConfusion, rfl⟩
  · split
    · rename_i beyond
      exact .inr ⟨Nat.not_lt.2 beyond, _, Fault.noConfusion, rfl⟩
    · rename_i within
      exact .inl ⟨Nat.not_le.1 within, rfl⟩

/-- The numbers are read one after the other, and only then looked at; in the end all fit or one
of them is at fault. -/
theorem of_groups_cases (year month day : DigitGroup) :
    (year.Fits ∧ month.Fits ∧ day.Fits) ∧ ofGroups year.chars month.chars day.chars =
        (match Date.of? year.number month.number day.number with
          | some date => .ok date
          | none => .error .noDate) ∨
      ¬ (year.Fits ∧ month.Fits ∧ day.Fits) ∧
        Faulty (ofGroups year.chars month.chars day.chars) := by
  rw [ofGroups]
  rcases value_cases year with ⟨yearRead, yearShort, yearDecimal⟩ | ⟨refused, faulty⟩
  case inr => exact .inr ⟨fun fits => refused fits.1, faulty.bind⟩
  rcases value_cases month with ⟨monthRead, monthShort, monthDecimal⟩ | ⟨refused, faulty⟩
  case inr => exact .inr ⟨fun fits => refused fits.2.1, faulty_bind_of_ok yearRead faulty.bind⟩
  rcases value_cases day with ⟨dayRead, dayShort, dayDecimal⟩ | ⟨refused, faulty⟩
  case inr =>
    exact .inr ⟨fun fits => refused fits.2.2,
      faulty_bind_of_ok yearRead (faulty_bind_of_ok monthRead faulty.bind)⟩
  have lookedAt {next : Nat → Nat → Nat → Except Fault Date}
      (faulty : Faulty (next year.number month.number day.number)) :
      Faulty (value year.chars >>= fun first => value month.chars >>= fun second =>
        value day.chars >>= next first second) :=
    faulty_bind_of_ok yearRead (faulty_bind_of_ok monthRead (faulty_bind_of_ok dayRead faulty))
  rcases bounded_cases year.number with ⟨yearSmall, yearKept⟩ | ⟨large, faulty⟩
  case inr => exact .inr ⟨fun fits => large fits.1.small, lookedAt faulty.bind⟩
  rcases bounded_cases month.number with ⟨monthSmall, monthKept⟩ | ⟨large, faulty⟩
  case inr =>
    exact .inr ⟨fun fits => large fits.2.1.small,
      lookedAt (faulty_bind_of_ok yearKept faulty.bind)⟩
  rcases bounded_cases day.number with ⟨daySmall, dayKept⟩ | ⟨large, faulty⟩
  case inr =>
    exact .inr ⟨fun fits => large fits.2.2.small,
      lookedAt (faulty_bind_of_ok yearKept (faulty_bind_of_ok monthKept faulty.bind))⟩
  refine .inl ⟨⟨⟨yearDecimal, yearShort, yearSmall⟩, ⟨monthDecimal, monthShort, monthSmall⟩,
    ⟨dayDecimal, dayShort, daySmall⟩⟩, ?_⟩
  cases made : Date.of? year.number month.number day.number <;>
    simp only [yearRead, monthRead, dayRead, Bind.bind, Except.bind, yearKept, monthKept, dayKept,
      made]

theorem is_digit_group_iff {chars : List Char} :
    isDigitGroup chars = true ↔ ∃ group : DigitGroup, group.chars = chars := by
  rw [isDigitGroup, Bool.and_eq_true, Bool.not_eq_true', List.isEmpty_eq_false_iff,
    List.all_eq_true]
  constructor
  · rintro ⟨nonempty, digits⟩
    exact ⟨⟨chars, nonempty, digits⟩, rfl⟩
  · rintro ⟨group, rfl⟩
    exact ⟨group.nonempty, group.digits⟩

section Groups

variable {separator : Char} (noDigit : looksLikeDigit separator = false)

include noDigit

theorem DigitGroup.not_mem (group : DigitGroup) : separator ∉ group.chars := by
  intro member
  rw [group.digits separator member] at noDigit
  cases noDigit

theorem groups?_joined (first second third : DigitGroup) :
    groups? separator (DigitGroup.joined separator first second third) =
      some (first.chars, second.chars, third.chars) := by
  have pieces : splitChars separator (DigitGroup.joined separator first second third) =
      [first.chars, second.chars, third.chars] := by
    rw [DigitGroup.joined, split_chars_append_cons (first.not_mem noDigit),
      split_chars_append_cons (second.not_mem noDigit),
      split_chars_of_not_mem (third.not_mem noDigit)]
  have all (group : DigitGroup) : isDigitGroup group.chars = true :=
    is_digit_group_iff.2 ⟨group, rfl⟩
  simp only [groups?, pieces, all, Bool.and_self, if_true]

theorem groups?_joined_of_ne {other : Char} (different : separator ≠ other)
    (first second third : DigitGroup) :
    groups? separator (DigitGroup.joined other first second third) = none := by
  have free : separator ∉ DigitGroup.joined other first second third := by
    simp only [DigitGroup.joined, List.mem_append, List.mem_cons, not_or]
    exact ⟨first.not_mem noDigit, different, second.not_mem noDigit, different,
      third.not_mem noDigit⟩
  rw [groups?, split_chars_of_not_mem free]

end Groups

theorem exists_joined_of_groups? {separator : Char} {chars : List Char}
    {pieces : List Char × List Char × List Char} (found : groups? separator chars = some pieces) :
    ∃ first second third : DigitGroup, pieces = (first.chars, second.chars, third.chars) ∧
      chars = DigitGroup.joined separator first second third := by
  rw [groups?] at found
  split at found
  case h_2 => cases found
  case h_1 first second third cut =>
    split at found
    case isFalse => cases found
    case isTrue digits =>
      cases found
      rw [Bool.and_eq_true, Bool.and_eq_true, is_digit_group_iff, is_digit_group_iff,
        is_digit_group_iff] at digits
      obtain ⟨⟨⟨first, rfl⟩, second, rfl⟩, third, rfl⟩ := digits
      refine ⟨first, second, third, rfl, ?_⟩
      rw [← intercalate_split_chars separator chars, cut, List.intercalate_cons_cons,
        List.intercalate_cons_cons, List.intercalate_singleton, DigitGroup.joined]
      simp

section Dates

variable {year month day : DigitGroup} {text : String} {date : Date}

theorem no_digit_separators : looksLikeDigit '-' = false ∧ looksLikeDigit '.' = false ∧
    looksLikeDigit '/' = false := by
  decide

theorem read_of_written (written : Written year month day text) :
    read text = ofGroups year.chars month.chars day.chars := by
  obtain ⟨dash, point, slash⟩ := no_digit_separators
  cases written with
  | dashes same => simp only [read, same, groups?_joined dash]
  | points same =>
      have noDashes := groups?_joined_of_ne dash (by decide : '-' ≠ '.') day month year
      simp only [read, same, noDashes, groups?_joined point, Option.some_or]
  | slashes same =>
      have noDashes := groups?_joined_of_ne dash (by decide : '-' ≠ '/') day month year
      have noPoints := groups?_joined_of_ne point (by decide : '.' ≠ '/') day month year
      simp only [read, same, noDashes, noPoints, groups?_joined slash, Option.none_or]

theorem written_or_no_date (text : String) :
    (∃ year month day, Written year month day text) ∨ read text = .error .noDate := by
  cases dashes : groups? '-' text.toList with
  | some pieces =>
      obtain ⟨year, month, day, _, same⟩ := exists_joined_of_groups? dashes
      exact .inl ⟨year, month, day, .dashes same⟩
  | none =>
      cases points : groups? '.' text.toList with
      | some pieces =>
          obtain ⟨day, month, year, _, same⟩ := exists_joined_of_groups? points
          exact .inl ⟨year, month, day, .points same⟩
      | none =>
          cases slashes : groups? '/' text.toList with
          | some pieces =>
              obtain ⟨day, month, year, _, same⟩ := exists_joined_of_groups? slashes
              exact .inl ⟨year, month, day, .slashes same⟩
          | none =>
              right
              simp only [read, dashes, points, slashes, Option.or_none]

theorem of?_eq_some_iff {year month day : Nat} :
    Date.of? year month day = some date ↔
      year = date.year ∧ month = date.month ∧ day = date.day := by
  rw [Date.of?]
  constructor
  · intro made
    split at made
    · cases made
      exact ⟨rfl, rfl, rfl⟩
    · cases made
  · rintro ⟨rfl, rfl, rfl⟩
    rw [dif_pos date.inCalendar]

theorem read_eq_ok_iff : read text = .ok date ↔ Tells text date := by
  constructor
  · intro done
    rcases written_or_no_date text with ⟨year, month, day, written⟩ | noDate
    · rw [read_of_written written] at done
      rcases of_groups_cases year month day with ⟨⟨yearFits, monthFits, dayFits⟩, result⟩ |
        ⟨_, fault, _, failed⟩
      · rw [result] at done
        split at done
        · rename_i made
          cases done
          exact ⟨year, month, day, written, yearFits, monthFits, dayFits, of?_eq_some_iff.1 made⟩
        · cases done
      · rw [failed] at done
        cases done
    · rw [noDate] at done
      cases done
  · rintro ⟨year, month, day, written, yearFits, monthFits, dayFits, same⟩
    rw [read_of_written written]
    rcases of_groups_cases year month day with ⟨_, result⟩ | ⟨refused, _⟩
    · rw [result, of?_eq_some_iff.2 same]
    · exact absurd ⟨yearFits, monthFits, dayFits⟩ refused

theorem faulty_read_iff : Faulty (read text) ↔ IsUnreadable text := by
  constructor
  · rintro ⟨fault, known, failed⟩
    rcases written_or_no_date text with ⟨year, month, day, written⟩ | noDate
    · rw [read_of_written written] at failed
      rcases of_groups_cases year month day with ⟨_, result⟩ | ⟨refused, _⟩
      · rw [result] at failed
        split at failed
        · cases failed
        · cases failed
          exact absurd rfl known
      · exact ⟨year, month, day, written, refused⟩
    · rw [noDate] at failed
      cases failed
      exact absurd rfl known
  · rintro ⟨year, month, day, written, refused⟩
    rw [read_of_written written]
    rcases of_groups_cases year month day with ⟨fits, _⟩ | ⟨_, faulty⟩
    · exact absurd fits refused
    · exact faulty

end Dates

end LibraryDetection.ReleaseDate
