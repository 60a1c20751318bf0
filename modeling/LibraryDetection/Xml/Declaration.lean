import LibraryDetection.Xml.Markup

/-!
# XML declarations

The words that declarations in a document type are made of.  White space only separates
them, and what may stand right behind a word depends on the word.
-/

namespace LibraryDetection.Xml

set_option autoImplicit false

open LibraryDetection.Text

inductive Frequency
  | once
  | maybe
  | anyNumber
  | atLeastOnce
  deriving DecidableEq, Repr

inductive Word
  | name (text : String)
  /-- A name with a prefix. -/
  | scopedName (text : String)
  /-- Characters of names that are no name. -/
  | nameToken (text : String)
  /-- A name, scoped or not, with a mark of how often it may stand. -/
  | marked (text : String)
  | literal (text : List Char)
  | hashName (text : String)
  | percent
  /-- A reference to a parameter entity. -/
  | parameter
  | comma
  | bar
  | openGroup
  | closeGroup (frequency : Frequency)
  | openSubset
  | closeSubset
  | finish
  /-- The opening of a declaration. -/
  | declaration (name : String)
  /-- A comment or an instruction. -/
  | aside
  deriving DecidableEq, Repr

def endsName (char : Char) : Bool :=
  isSpace char || ['>', ')', ',', '|', '[', '%'].contains char

def marks (char : Char) : Bool := char = '?' || char = '*' || char = '+'

def nameWord (run : List Char) : Word :=
  let text := String.ofList run
  match run, run.span (· ≠ ':') with
  | [], _ => .nameToken text
  | first :: _, (_, []) => if isNameStart first then .name text else .nameToken text
  | first :: _, (_, _ :: localName) =>
      if isNameStart first && !localName.isEmpty && !localName.contains ':' then
        .scopedName text
      else .nameToken text

def Word.isNamed : Word → Bool
  | .name _ => true
  | .scopedName _ => true
  | _ => false

def takeNameWord (chars : List Char) : Taken Word :=
  let (run, left) := chars.span fun char => isNameChar char || char = ':'
  let word := nameWord run
  if run.isEmpty then none
  else match left with
    | [] => none
    | next :: rest =>
        if endsName next then some (word, left)
        else if marks next && word.isNamed then some (.marked (String.ofList run), rest)
        else none

def takeLiteral (quote : Char) (chars : List Char) : Taken Word :=
  match chars.span (· ≠ quote) with
  | (text, _ :: next :: rest) =>
      if text.all isDocumentChar && (isSpace next || ['>', '%', '['].contains next) then
        some (.literal text, next :: rest)
      else none
  | _ => none

def takeHashName (chars : List Char) : Taken Word :=
  match takeName chars with
  | some (name, next :: rest) =>
      if isSpace next || [')', '>', '%', '|'].contains next then
        some (.hashName (String.ofList name), next :: rest)
      else none
  | _ => none

def takePercent (chars : List Char) : Taken Word :=
  match chars with
  | next :: rest =>
      if isSpace next || next = '%' then some (.percent, next :: rest)
      else match takeName chars with
        | some (_, ';' :: left) => some (.parameter, left)
        | _ => none
  | [] => none

def takeGroupEnd (chars : List Char) : Taken Word :=
  match chars with
  | '*' :: rest => some (.closeGroup .anyNumber, rest)
  | '?' :: rest => some (.closeGroup .maybe, rest)
  | '+' :: rest => some (.closeGroup .atLeastOnce, rest)
  | next :: rest =>
      if isSpace next || ['>', ',', '|', ')'].contains next then
        some (.closeGroup .once, next :: rest)
      else none
  | [] => none

def isKeywordChar (char : Char) : Bool :=
  (65 ≤ char.toNat && char.toNat ≤ 90) || (97 ≤ char.toNat && char.toNat ≤ 122) || char = '_'

def takeOpening (chars : List Char) : Taken Word :=
  match withoutStart? ['-', '-'] chars with
  | some comment => (takeComment comment).map fun left => (.aside, left)
  | none =>
      match chars.span isKeywordChar with
      | ([], _) => none
      | (name, next :: rest) =>
          if isSpace next then some (.declaration (String.ofList name), next :: rest) else none
      | _ => none

def takeWord (chars : List Char) : Taken Word :=
  match skipSpace chars with
  | '<' :: '!' :: rest => takeOpening rest
  | '<' :: '?' :: rest => (takeInstruction rest).map fun left => (.aside, left)
  | '"' :: rest => takeLiteral '"' rest
  | '\'' :: rest => takeLiteral '\'' rest
  | '%' :: rest => takePercent rest
  | '#' :: rest => takeHashName rest
  | ',' :: rest => some (.comma, rest)
  | '|' :: rest => some (.bar, rest)
  | '(' :: rest => some (.openGroup, rest)
  | ')' :: rest => takeGroupEnd rest
  | '[' :: rest => some (.openSubset, rest)
  | ']' :: ']' :: '>' :: _ => none
  | ']' :: rest => some (.closeSubset, rest)
  | '>' :: rest => some (.finish, rest)
  | rest => takeNameWord rest

def takeWords (stop : Word → Bool) : Nat → List Word → List Char → Taken (List Word × Word)
  | 0, _, _ => none
  | fuel + 1, passed, chars =>
      match takeWord chars with
      | none => none
      | some (word, left) =>
          if stop word then some ((passed.reverse, word), left)
          else takeWords stop fuel (word :: passed) left

end LibraryDetection.Xml
