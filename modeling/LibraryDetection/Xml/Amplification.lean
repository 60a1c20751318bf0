import LibraryDetection.Text.Utf8
import LibraryDetection.Xml.Entity

/-!
# Amplification by XML entities

A small document can stand for an enormous one, since its entities may refer to each other many
times.  A reader counts the bytes of the document that it has passed, and apart from them the
bytes of every text that was put in the place of a reference.  Once there are many of them, they
must not be more than a fixed multiple of the bytes of the document.
-/

namespace LibraryDetection.Xml

set_option autoImplicit false

open LibraryDetection.Text

def byteCount (chars : List Char) : Nat := (chars.flatMap Utf8.encodeChar).length

/-- A piece of a document: the bytes it takes up, and the entities it refers to. -/
structure Piece where
  size : Nat
  references : List String

def spanTag : Option Char → List Char → List Char × List Char
  | _, [] => ([], [])
  | none, '>' :: left => (['>'], left)
  | none, char :: rest =>
      let (inside, left) := spanTag (if char = '"' || char = '\'' then some char else none) rest
      (char :: inside, left)
  | some quote, char :: rest =>
      let (inside, left) := spanTag (if char = quote then none else some quote) rest
      (char :: inside, left)

/-- What is left behind a comment, an instruction or quoted data, given what follows the bracket
that opens it. -/
def afterAside? (chars : List Char) : Option (List Char) :=
  match chars with
  | '?' :: rest => takeInstruction rest
  | '!' :: rest =>
      match withoutStart? ['-', '-'] rest with
      | some comment => takeComment comment
      | none =>
          ((withoutStart? "[CDATA[".toList rest).bind (takeUntil "]]>".toList [])).map (·.2)
  | _ => none

def referencesIn : Nat → List Char → List String
  | 0, _ => []
  | _ + 1, [] => []
  | fuel + 1, '&' :: rest =>
      match takeReference rest with
      | some (.entity name, left) => name :: referencesIn fuel left
      | _ => referencesIn fuel rest
  | fuel + 1, _ :: rest => referencesIn fuel rest

def takePiece (first : Char) (rest : List Char) : Piece × List Char :=
  let own := (Utf8.encodeChar first).length
  if first = '&' then
    match takeReference rest with
    | some (.entity name, left) => (⟨own + Utf8.size name + 1, [name]⟩, left)
    | some (.char _, left) =>
        (⟨own + byteCount (rest.take (rest.length - left.length)), []⟩, left)
    | none => (⟨own, []⟩, rest)
  else if first = '<' then
    match afterAside? rest with
    | some left => (⟨own + byteCount (rest.take (rest.length - left.length)), []⟩, left)
    | none =>
        let (tag, left) := spanTag none rest
        (⟨own + byteCount tag, referencesIn (tag.length + 1) tag⟩, left)
  else
    let (run, left) := rest.span fun char => char ≠ '<' && char ≠ '&' && char ≠ '\n'
    (⟨own + byteCount run, []⟩, left)

/-- The pieces of a content.  Each takes a character at least, which `fuel` counts. -/
def pieces : Nat → List Char → List Piece
  | 0, _ => []
  | _ + 1, [] => []
  | fuel + 1, first :: rest =>
      let (piece, left) := takePiece first rest
      piece :: pieces fuel left

/-- The bytes that are put in the place of a reference, if entities bring the given ones. -/
def costOf (costs : List (String × Nat)) (name : String) : Nat :=
  if (predefined? name).isSome then 1 else (costs.lookup name).getD 0

def costOfAll (costs : List (String × Nat)) (names : List String) : Nat :=
  names.foldl (fun bytes name => bytes + costOf costs name) 0

/-- The bytes that each entity brings, the entities it refers to included, looking `depth`
entities deep. -/
def entityCosts (entities : Entities) : Nat → List (String × Nat)
  | 0 => []
  | depth + 1 =>
      let costs := entityCosts entities depth
      entities.map fun (name, text) =>
        let text := text.getD []
        (name, byteCount text +
          costOfAll costs ((pieces (text.length + 1) text).flatMap (·.references)))

/-- What was read so far: the bytes of the document, and those of the entities put in. -/
structure Meter where
  direct : Nat := 0
  indirect : Nat := 0

namespace Meter

def output (meter : Meter) : Nat := meter.direct + meter.indirect

def activation : Nat := 8388608

def greatestFactor : Nat := 100

def isTolerated (meter : Meter) : Bool :=
  meter.output < activation || meter.output ≤ greatestFactor * meter.direct

/-- Whether the pieces are read to the end.  All that a piece brings is counted before the
next one. -/
def admits (costs : List (String × Nat)) (meter : Meter) : List Piece → Bool
  | [] => true
  | piece :: rest =>
      let next : Meter :=
        ⟨meter.direct + piece.size, meter.indirect + costOfAll costs piece.references⟩
      next.isTolerated && next.admits costs rest

end Meter

end LibraryDetection.Xml
