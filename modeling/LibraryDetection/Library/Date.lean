import LibraryDetection.Number.Layout

/-!
# Calendar dates

Days of the Gregorian calendar from year 1 to year 9999.
-/

namespace LibraryDetection

set_option autoImplicit false

namespace Calendar

def isLeap (year : Nat) : Bool :=
  year % 4 == 0 && (year % 100 != 0 || year % 400 == 0)

def daysInMonth (year month : Nat) : Nat :=
  if month = 2 then (if isLeap year then 29 else 28)
  else if month = 4 ∨ month = 6 ∨ month = 9 ∨ month = 11 then 30
  else 31

def hasDay (year month day : Nat) : Bool :=
  1 ≤ month && month ≤ 12 && 1 ≤ day && day ≤ daysInMonth year month

def isDate (year month day : Nat) : Bool :=
  1 ≤ year && year ≤ 9999 && hasDay year month day

def daysBeforeYear (year : Nat) : Nat :=
  if year = 0 then 0
  else 365 * year + (year - 1) / 4 - (year - 1) / 100 + (year - 1) / 400 + 1

def monthAndDay (year : Nat) : Nat → Nat → Nat → Nat × Nat
  | 0, month, days => (month, days + 1)
  | tries + 1, month, days =>
      if days < daysInMonth year month then (month, days + 1)
      else monthAndDay year tries (month + 1) (days - daysInMonth year month)

end Calendar

structure Date where
  year : Nat
  month : Nat
  day : Nat
  inCalendar : Calendar.isDate year month day = true
  deriving DecidableEq

namespace Date

def of? (year month day : Nat) : Option Date :=
  if valid : Calendar.isDate year month day = true then some ⟨year, month, day, valid⟩
  else none

def text (date : Date) : String :=
  String.ofList (Number.padDigits 4 date.year ++ '-' :: Number.padDigits 2 date.month
    ++ '-' :: Number.padDigits 2 date.day)

def epochDays : Nat := 719528

def ofEpochDays? (days : Int) : Option Date :=
  let total := days + epochDays
  if total < 0 then none
  else
    let total := total.toNat
    let guess := total / 366
    let candidates := (List.range 30).map (guess + ·)
    match (candidates.filter fun year => Calendar.daysBeforeYear year ≤ total).getLast? with
    | none => none
    | some year =>
        let (month, day) :=
          Calendar.monthAndDay year 12 1 (total - Calendar.daysBeforeYear year)
        of? year month day

end Date

end LibraryDetection
