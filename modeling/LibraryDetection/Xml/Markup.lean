import LibraryDetection.Number.Literal
import LibraryDetection.Text.Fields
import LibraryDetection.Xml.Name

/-!
# XML markup

The small parts of a document: names, references, comments and instructions.  Each is
taken from the front of the characters, or refused.
-/

namespace LibraryDetection.Xml

set_option autoImplicit false

open LibraryDetection.Text

abbrev Taken (α : Type) := Option (α × List Char)

def skipSpace (chars : List Char) : List Char := chars.dropWhile isSpace

def takeName : List Char → Taken (List Char)
  | [] => none
  | char :: rest =>
      if isNameStart char then
        let (more, left) := rest.span isNameChar
        some (char :: more, left)
      else none

structure QName where
  scope : Option String
  localName : String
  deriving DecidableEq, Repr

def QName.text (name : QName) : String :=
  match name.scope with
  | some scope => scope ++ ":" ++ name.localName
  | none => name.localName

def takeQName (chars : List Char) : Taken QName :=
  match takeName chars with
  | none => none
  | some (first, ':' :: rest) =>
      (takeName rest).bind fun (second, left) =>
        if left.head? = some ':' then none
        else some (⟨some (String.ofList first), String.ofList second⟩, left)
  | some (first, left) => some (⟨none, String.ofList first⟩, left)

def charOfNumber? (code : Nat) : Option Char :=
  if h : code.isValidChar then
    let char := Char.ofNatAux code h
    if isDocumentChar char then some char else none
  else none

def isHexDigit (char : Char) : Bool :=
  isAsciiDigit char || (97 ≤ char.toNat && char.toNat ≤ 102)
    || (65 ≤ char.toNat && char.toNat ≤ 70)

def hexDigitValue (char : Char) : Nat :=
  if isAsciiDigit char then char.toNat - 48
  else if 97 ≤ char.toNat then char.toNat - 87
  else char.toNat - 55

def hexValue (digits : List Char) : Nat :=
  digits.foldl (fun value digit => value * 16 + hexDigitValue digit) 0

inductive Reference
  | char (char : Char)
  | entity (name : String)
  deriving DecidableEq, Repr

def predefined? (name : String) : Option Char :=
  [("lt", '<'), ("gt", '>'), ("amp", '&'), ("quot", '"'), ("apos", '\'')].lookup name

def Reference.resolved : Reference → Reference
  | .char meant => .char meant
  | .entity name => ((predefined? name).map Reference.char).getD (.entity name)

def takeReference (chars : List Char) : Taken Reference :=
  match chars with
  | '#' :: 'x' :: rest =>
      match rest.span isHexDigit with
      | ([], _) => none
      | (digits, ';' :: left) =>
          (charOfNumber? (hexValue digits)).map fun char => (.char char, left)
      | _ => none
  | '#' :: rest =>
      match rest.span isAsciiDigit with
      | ([], _) => none
      | (digits, ';' :: left) =>
          (charOfNumber? (Number.digitsValue digits)).map fun char => (.char char, left)
      | _ => none
  | _ =>
      match takeName chars with
      | some (name, ';' :: left) => some (.entity (String.ofList name), left)
      | _ => none

def takeUntil (stop passed : List Char) : List Char → Taken (List Char)
  | [] => none
  | char :: rest =>
      match withoutStart? stop (char :: rest) with
      | some left => some (passed.reverse, left)
      | none => if isDocumentChar char then takeUntil stop (char :: passed) rest else none

def takeComment (chars : List Char) : Option (List Char) :=
  match takeUntil ['-', '-'] [] chars with
  | some (_, '>' :: left) => some left
  | _ => none

def takeInstruction (chars : List Char) : Option (List Char) :=
  match takeName chars with
  | none => none
  | some (target, rest) =>
      if target.map Number.asciiLower = ['x', 'm', 'l'] then none
      else match rest with
        | '?' :: '>' :: left => some left
        | char :: more =>
            if isSpace char then (takeUntil ['?', '>'] [] more).map (·.2) else none
        | [] => none

end LibraryDetection.Xml
