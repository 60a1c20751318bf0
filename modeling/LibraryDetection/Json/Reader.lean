import LibraryDetection.Json.Value
import LibraryDetection.Number.Literal

/-!
# Reading JSON

A fault carries the text that is left at the place it is about, so that the place need
not be counted along the way.  Reading a value takes at most two steps for every
character, which bounds the recursion.
-/

namespace LibraryDetection.Json

set_option autoImplicit false

open LibraryDetection.Text

inductive Cause
  | value
  | propertyName
  | colon
  | comma
  | openText
  | controlCharacter
  | escape
  | unicodeEscape
  | extraData
  | byteOrderMark
  /-- A whole number has more digits than are read. -/
  | digits (count : Nat)
  deriving DecidableEq, Repr

structure Fault where
  cause : Cause
  left : List Char
  deriving DecidableEq, Repr

abbrev Reading (α : Type) := Except Fault (α × List Char)

def isSpace (char : Char) : Bool :=
  char = ' ' || char = '\t' || char = '\n' || char = '\r'

def skipSpace (chars : List Char) : List Char := chars.dropWhile isSpace

def hexValue? (char : Char) : Option Nat :=
  let code := char.toNat
  if 48 ≤ code ∧ code ≤ 57 then some (code - 48)
  else if 97 ≤ code ∧ code ≤ 102 then some (code - 87)
  else if 65 ≤ code ∧ code ≤ 70 then some (code - 55)
  else none

def fourHex? : List Char → Option Nat
  | a :: b :: c :: d :: _ :: _ => do
      let a ← hexValue? a
      let b ← hexValue? b
      let c ← hexValue? c
      let d ← hexValue? d
      some (((a * 16 + b) * 16 + c) * 16 + d)
  | _ => none

def isHighSurrogate (code : Nat) : Bool := 0xD800 ≤ code && code ≤ 0xDBFF

def isLowSurrogate (code : Nat) : Bool := 0xDC00 ≤ code && code ≤ 0xDFFF

/-- Stands for half of a surrogate pair, which is no character.  Where such halves matter,
`holdsLoneSurrogate` tells whether a text has one. -/
def replacement : Char := Char.ofNat 0xFFFD

def charOfCode (code : Nat) : Char :=
  if isHighSurrogate code || isLowSurrogate code then replacement else Char.ofNat code

/-- The character of the escape `u`, given what follows the letter, and the number of
characters that belong to it, the letter included. -/
def unicodeEscape? (chars : List Char) : Option (Char × Nat) := do
  let code ← fourHex? chars
  let pair : Option Nat := match chars.drop 4 with
    | '\\' :: 'u' :: second =>
        if isHighSurrogate code then (fourHex? second).filter isLowSurrogate else none
    | _ => none
  match pair with
  | some low => some (Char.ofNat (0x10000 + (code - 0xD800) * 0x400 + (low - 0xDC00)), 11)
  | none => some (charOfCode code, 5)

def shortEscape? (char : Char) : Option Char :=
  if char = '"' ∨ char = '\\' ∨ char = '/' then some char
  else if char = 'b' then some '\x08'
  else if char = 'f' then some '\x0c'
  else if char = 'n' then some '\n'
  else if char = 'r' then some '\r'
  else if char = 't' then some '\t'
  else none

/-- The rest of a text whose opening quote stands at the front of `opening`.  Of the
characters ahead `due` belong to an escape already read; `passed` holds the characters
so far, last first. -/
def readText (opening passed : List Char) : Nat → List Char → Reading String
  | _, [] => .error ⟨.openText, opening⟩
  | due + 1, _ :: rest => readText opening passed due rest
  | 0, char :: rest =>
      if char = '"' then .ok (String.ofList passed.reverse, rest)
      else if char = '\\' then
        match rest with
        | [] => .error ⟨.openText, opening⟩
        | 'u' :: more =>
            match unicodeEscape? more with
            | some (escaped, width) => readText opening (escaped :: passed) width rest
            | none => .error ⟨.unicodeEscape, rest⟩
        | letter :: _ =>
            match shortEscape? letter with
            | some escaped => readText opening (escaped :: passed) 1 rest
            | none => .error ⟨.escape, char :: rest⟩
      else if char.toNat < 32 then .error ⟨.controlCharacter, char :: rest⟩
      else readText opening (char :: passed) 0 rest
  termination_by structural _ chars => chars

structure Numeral where
  negative : Bool
  whole : List Char
  /-- The digits behind the point, when there is one. -/
  places : List Char
  /-- The exponent, when there is one. -/
  exponent : Option Int
  deriving DecidableEq, Repr

def takeMinus : List Char → Bool × List Char
  | '-' :: rest => (true, rest)
  | chars => (false, chars)

def takeWhole : List Char → List Char × List Char
  | [] => ([], [])
  | digit :: rest =>
      if digit = '0' then (['0'], rest)
      else Number.takeDigits (digit :: rest)

def takePlaces (chars : List Char) : List Char × List Char :=
  match chars with
  | '.' :: rest =>
      match Number.takeDigits rest with
      | ([], _) => ([], chars)
      | found => found
  | _ => ([], chars)

/-- The mark of an exponent counts only before a digit, with or without a sign. -/
def takeExponent (chars : List Char) : Option Int × List Char :=
  match chars with
  | mark :: rest =>
      if mark = 'e' ∨ mark = 'E' then
        let (negative, behind) := Number.takeSign rest
        match Number.takeDigits behind with
        | ([], _) => (none, chars)
        | (digits, left) =>
            let value := (Number.digitsValue digits : Int)
            (some (if negative then -value else value), left)
      else (none, chars)
  | [] => (none, [])

def takeNumeral? (chars : List Char) : Option (Numeral × List Char) :=
  let (negative, rest) := takeMinus chars
  match takeWhole rest with
  | ([], _) => none
  | (digits, rest) =>
      let (places, rest) := takePlaces rest
      let (exponent, rest) := takeExponent rest
      some (⟨negative, digits, places, exponent⟩, rest)

def Numeral.json? (numeral : Numeral) : Except Cause Json :=
  match numeral.places, numeral.exponent with
  | [], none =>
      if Number.digitLimit < numeral.whole.length then .error (.digits numeral.whole.length)
      else
        let value := (Number.digitsValue numeral.whole : Int)
        .ok (.whole (if numeral.negative then -value else value))
  | places, exponent =>
      .ok (.real (Number.ofDecimal numeral.negative
        (Number.digitsValue (numeral.whole ++ places))
        (exponent.getD 0 - places.length)))

def words : List (String × Json) :=
  [("null", .null), ("true", .bool true), ("false", .bool false),
    ("NaN", .real (Number.ofBits false (Number.infinityBits + Nat.pow 2 51))),
    ("Infinity", .real (Number.ofBits false Number.infinityBits)),
    ("-Infinity", .real (Number.ofBits true Number.infinityBits))]

def takeWord? (chars : List Char) : List (String × Json) → Option (Json × List Char)
  | [] => none
  | (word, value) :: others =>
      match withoutStart? word.toList chars with
      | some rest => some (value, rest)
      | none => takeWord? chars others

def readScalar (chars : List Char) : Reading Json :=
  match takeWord? chars words with
  | some found => .ok found
  | none =>
      match takeNumeral? chars with
      | none => .error ⟨.value, chars⟩
      | some (numeral, rest) =>
          match numeral.json? with
          | .ok value => .ok (value, rest)
          | .error cause => .error ⟨cause, chars⟩

mutual

def readValue : Nat → List Char → Reading Json
  | 0, chars => .error ⟨.value, chars⟩
  | _ + 1, [] => .error ⟨.value, []⟩
  | fuel + 1, char :: rest =>
      if char = '"' then
        (readText (char :: rest) [] 0 rest).map fun (value, left) => (.text value, left)
      else if char = '[' then
        match skipSpace rest with
        | ']' :: left => .ok (.list [], left)
        | items => readItems fuel [] items
      else if char = '\x7b' then
        match skipSpace rest with
        | '\x7d' :: left => .ok (.object [], left)
        | fields => readFields fuel [] fields
      else readScalar (char :: rest)

/-- The items of a list from the next one on; `passed` holds those so far, last first. -/
def readItems : Nat → List Json → List Char → Reading Json
  | 0, _, chars => .error ⟨.value, chars⟩
  | fuel + 1, passed, chars =>
      match readValue fuel chars with
      | .error fault => .error fault
      | .ok (item, rest) =>
          match skipSpace rest with
          | ']' :: left => .ok (.list (item :: passed).reverse, left)
          | ',' :: left => readItems fuel (item :: passed) (skipSpace left)
          | left => .error ⟨.comma, left⟩

def readFields : Nat → List (String × Json) → List Char → Reading Json
  | 0, _, chars => .error ⟨.value, chars⟩
  | fuel + 1, passed, chars =>
      match chars with
      | '"' :: rest =>
          match readText chars [] 0 rest with
          | .error fault => .error fault
          | .ok (name, rest) =>
              match skipSpace rest with
              | ':' :: behind =>
                  match readValue fuel (skipSpace behind) with
                  | .error fault => .error fault
                  | .ok (value, rest) =>
                      match skipSpace rest with
                      | '\x7d' :: left => .ok (.object (putField name value passed), left)
                      | ',' :: left =>
                          readFields fuel (putField name value passed) (skipSpace left)
                      | left => .error ⟨.comma, left⟩
              | left => .error ⟨.colon, left⟩
      | _ => .error ⟨.propertyName, chars⟩

end

def read (chars : List Char) : Except Fault Json :=
  match chars with
  | '\ufeff' :: _ => .error ⟨.byteOrderMark, chars⟩
  | _ =>
      match readValue (2 * chars.length + 2) (skipSpace chars) with
      | .error fault => .error fault
      | .ok (value, rest) =>
          match skipSpace rest with
          | [] => .ok value
          | left => .error ⟨.extraData, left⟩

def Cause.text : Cause → String
  | .value => "Expecting value"
  | .propertyName => "Expecting property name enclosed in double quotes"
  | .colon => "Expecting ':' delimiter"
  | .comma => "Expecting ',' delimiter"
  | .openText => "Unterminated string starting at"
  | .controlCharacter => "Invalid control character at"
  | .escape => "Invalid \\escape"
  | .unicodeEscape => "Invalid \\uXXXX escape"
  | .extraData => "Extra data"
  | .byteOrderMark => "Unexpected UTF-8 BOM (decode using utf-8-sig)"
  | .digits count =>
      "Exceeds the limit (" ++ toString Number.digitLimit
        ++ " digits) for integer string conversion: value has " ++ toString count
        ++ " digits; use sys.set_int_max_str_digits() to increase the limit"

/-- The cause with its line, its column and its offset; a number that is too long is
not told the place of. -/
def Fault.message (fault : Fault) (chars : List Char) : String :=
  match fault.cause with
  | .digits count => Cause.text (.digits count)
  | cause =>
      let before := chars.take (chars.length - fault.left.length)
      let column := (before.reverse.takeWhile (· ≠ '\n')).length + 1
      cause.text ++ ": line " ++ toString (before.count '\n' + 1) ++ " column "
        ++ toString column ++ " (char " ++ toString before.length ++ ")"

end LibraryDetection.Json
