import LibraryDetection.Validation.Scalar
import LibraryDetection.Library.Date

/-!
# Days

A day is written as a date, as a moment at midnight, or as the seconds of such a moment
since the first of January 1970.  Large counts are taken as milliseconds.
-/

namespace LibraryDetection.Validation

set_option autoImplicit false

open LibraryDetection.Text LibraryDetection.Number

def secondsLimit : Int := 20000000000

def earliestSecond : Int := -11676096000

def latestSecond : Int := 253402300799

def secondsPerDay : Int := 86400

structure Moment where
  year : Nat
  month : Nat
  day : Nat
  /-- Whether the time of the day is zero to the microsecond. -/
  midnight : Bool
  deriving DecidableEq

def digitField? (chars : List Char) : Option Nat :=
  if chars.all isAsciiDigit then some (digitsValue chars) else none

def takeDate? : List Char → Option (Nat × Nat × Nat × List Char)
  | a :: b :: c :: d :: '-' :: e :: f :: '-' :: g :: h :: rest => do
      let year ← digitField? [a, b, c, d]
      let month ← digitField? [e, f]
      let day ← digitField? [g, h]
      if Calendar.hasDay year month day then some (year, month, day, rest) else none
  | _ => none

def takeTwo? (bound : Nat) : List Char → Option (Nat × List Char)
  | a :: b :: rest => do
      let value ← digitField? [a, b]
      if value < bound then some (value, rest) else none
  | _ => none

def takeMicroseconds? (chars : List Char) : Option (Nat × List Char) :=
  match chars with
  | mark :: rest =>
      if mark = '.' ∨ mark = ',' then
        match takeDigits rest with
        | ([], _) => none
        | (digits, left) => some (digitsValue ((digits ++ zeros 6).take 6), left)
      else some (0, chars)
  | [] => some (0, [])

/-- A time zone up to the end: none, the letter Z, or an offset of less than a day. -/
def isZone : List Char → Bool
  | [] => true
  | ['Z'] => true
  | ['z'] => true
  | sign :: rest =>
      if sign = '+' ∨ sign = '-' ∨ sign = Char.ofNat 0x2212 then
        match takeTwo? 24 rest with
        | some (_, ':' :: minutes) => (takeTwo? 60 minutes).any fun found => found.2.isEmpty
        | some (_, minutes) => (takeTwo? 60 minutes).any fun found => found.2.isEmpty
        | none => false
      else false

def isMidnight? (chars : List Char) : Option Bool :=
  match takeTwo? 24 chars with
  | some (hours, ':' :: rest) =>
      match takeTwo? 60 rest with
      | some (minutes, ':' :: rest) =>
          match takeTwo? 60 rest with
          | some (seconds, rest) =>
              match takeMicroseconds? rest with
              | some (micros, rest) =>
                  if isZone rest then some (hours + minutes + seconds + micros == 0) else none
              | none => none
          | none => none
      | some (minutes, rest) =>
          if isZone rest then some (hours + minutes == 0) else none
      | none => none
  | _ => none

def momentOfText? (chars : List Char) : Option Moment := do
  let (year, month, day, rest) ← takeDate? chars
  match rest with
  | separator :: time =>
      if separator ∈ ['T', 't', ' ', '_'] then
        (isMidnight? time).map fun midnight => ⟨year, month, day, midnight⟩
      else none
  | [] => none

def momentOfCount? (count : Int) (micros : Nat) : Option Moment :=
  let large := secondsLimit < count.natAbs
  let seconds := if large then Int.tdiv count 1000 else count
  let extra := if large then Int.tmod count 1000 * 1000 else 0
  let total := extra + micros
  let seconds := seconds + total.fdiv 1000000
  let micros := total.fmod 1000000
  if seconds < earliestSecond ∨ latestSecond < seconds then none
  else
    (Date.ofEpochDays? (seconds.fdiv secondsPerDay)).map fun date =>
      ⟨date.year, date.month, date.day, seconds.fmod secondsPerDay = 0 ∧ micros = 0⟩

/-- Counts are words of 64 bits; larger ones are taken as the largest. -/
def clamped (count : Int) : Int :=
  if (wholeBound : Int) ≤ count then wholeBound - 1
  else if count < -(wholeBound : Int) then -(wholeBound : Int)
  else count

/-- The moment of a fraction of seconds: the whole seconds below it, and the size of
the fraction rounded to microseconds. -/
def momentOfFraction? (negative : Bool) (top bottom : Nat) : Option Moment :=
  let value : Int := if negative then -(top : Int) else top
  let micros := (2 * (top % bottom * 1000000) + bottom) / (2 * bottom)
  momentOfCount? (clamped (value.fdiv bottom)) micros

def momentOfReal? (value : Float) : Option Moment :=
  match binary? value with
  | some parts => momentOfFraction? parts.negative parts.fraction.1 parts.fraction.2
  | none => none

def countOfText? (chars : List Char) : Option Int := do
  let (negative, digits) := takeSign chars
  if digits.isEmpty || !digits.all isAsciiDigit then none
  else
    let value : Int := digitsValue digits
    if value < wholeBound then some (if negative then -value else value) else none

def momentOfDecimal? (chars : List Char) : Option Moment :=
  let (negative, rest) := takeSign chars
  match takeDigits rest with
  | ([], _) => none
  | (digits, '.' :: places) =>
      if places.all isAsciiDigit then
        momentOfFraction? negative (digitsValue (digits ++ places)) (Nat.pow 10 places.length)
      else none
  | _ => none

def dayOfMoment : Option Moment → Checked Date
  | none => .violates .momentText
  | some moment =>
      if moment.midnight then
        match Date.of? moment.year moment.month moment.day with
        | some date => .valid date
        | none => .violates .dateText
      else .violates .midnight

def dayOfText (value : String) : Checked Date :=
  let chars := value.toList
  match takeDate? chars with
  | some (year, month, day, []) =>
      match Date.of? year month day with
      | some date => .valid date
      | none => .violates .dateText
  | _ =>
      match momentOfText? chars with
      | some moment => dayOfMoment (some moment)
      | none =>
          match countOfText? chars with
          | some count => dayOfMoment (momentOfCount? count 0)
          | none => dayOfMoment (momentOfDecimal? chars)

def day : Json → Checked Date
  | .text value => dayOfText value
  | .whole value =>
      if -(wholeBound : Int) ≤ value ∧ value < wholeBound then
        dayOfMoment (momentOfCount? value 0)
      else .violates .date
  | .real value => dayOfMoment (momentOfReal? value)
  | _ => .violates .date

end LibraryDetection.Validation
