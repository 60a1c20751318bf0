import LibraryDetection.ClassDump.Signature
import LibraryDetection.Proofs.Text.Fields
import Mathlib.Data.List.TakeDrop
import Mathlib.Data.List.TakeWhile

/-!
# Masked signatures

A member signature is a name with the types of a method or of a field behind it.  Fuzzy
signatures mask the reference types outside the framework; as a reference is looked for at
every letter L, the name is left alone only if it is free of that letter, or if no reference
stands behind it.
-/

namespace LibraryDetection

set_option autoImplicit false

open LibraryDetection.Text

/-- A name without the characters that separate names from each other and from types. -/
structure Identifier where
  chars : List Char
  nonempty : chars ≠ []
  free : ∀ char ∈ ['.', ';', '[', '/', '(', ')', ':'], char ∉ chars

theorem not_mem_of_all {special chars : List Char}
    (free : special.all (fun char => !chars.contains char) = true) :
    ∀ char ∈ special, char ∉ chars := by
  intro char member
  simpa using List.all_eq_true.1 free char member

structure ReferenceName where
  chars : List Char
  nonempty : chars ≠ []
  free : ';' ∉ chars

inductive Primitive
  | byte
  | char
  | double
  | float
  | int
  | long
  | short
  | boolean

def Primitive.code : Primitive → Char
  | .byte => 'B'
  | .char => 'C'
  | .double => 'D'
  | .float => 'F'
  | .int => 'I'
  | .long => 'J'
  | .short => 'S'
  | .boolean => 'Z'

inductive ValueType
  | primitive (kind : Primitive)
  | reference (name : ReferenceName)
  | array (element : ValueType)

inductive Signature
  | method (name : Identifier) (parameters : List ValueType) (result : Option ValueType)
  | field (name : Identifier) (type : ValueType)

namespace ReferenceName

def plain (name : ReferenceName) : List Char := 'L' :: (name.chars ++ [';'])

def masked (name : ReferenceName) : List Char :=
  if isFrameworkType name.chars then name.plain else ['X']

end ReferenceName

def ValueType.spelled (spell : ReferenceName → List Char) : ValueType → List Char
  | .primitive kind => [kind.code]
  | .reference name => spell name
  | .array element => '[' :: element.spelled spell

namespace Signature

def name : Signature → Identifier
  | .method name _ _ => name
  | .field name _ => name

def spelledTypes (spell : ReferenceName → List Char) : Signature → List Char
  | .method _ parameters none =>
      '(' :: (parameters.flatMap (·.spelled spell) ++ [')', 'V'])
  | .method _ parameters (some result) =>
      '(' :: (parameters.flatMap (·.spelled spell) ++ ')' :: result.spelled spell)
  | .field _ type => ':' :: type.spelled spell

def spelled (spell : ReferenceName → List Char) (signature : Signature) : String :=
  String.ofList (signature.name.chars ++ signature.spelledTypes spell)

def text (signature : Signature) : String := signature.spelled ReferenceName.plain

/-- The signature with each reference outside the framework masked and nothing else changed. -/
def masked (signature : Signature) : String := signature.spelled ReferenceName.masked

end Signature

inductive Piece
  | mark (char : Char) (plain : char ≠ 'L' ∧ char ≠ ';')
  | reference (name : ReferenceName)

namespace Piece

def spelled (spell : ReferenceName → List Char) : Piece → List Char
  | .mark char _ => [char]
  | .reference name => spell name

def behindReference? : List Piece → Option (List Piece)
  | [] => none
  | .mark _ _ :: pieces => behindReference? pieces
  | .reference _ :: pieces => some pieces

end Piece

theorem Primitive.code_plain (kind : Primitive) : kind.code ≠ 'L' ∧ kind.code ≠ ';' := by
  cases kind <;> decide

def ValueType.pieces : ValueType → List Piece
  | .primitive kind => [.mark kind.code kind.code_plain]
  | .reference name => [.reference name]
  | .array element => .mark '[' (by decide) :: element.pieces

theorem ValueType.flatMap_pieces (spell : ReferenceName → List Char) (type : ValueType) :
    type.pieces.flatMap (·.spelled spell) = type.spelled spell := by
  induction type with
  | primitive kind => rfl
  | reference name => simp [pieces, spelled, Piece.spelled]
  | array element ih =>
      rw [pieces, List.flatMap_cons, ih]
      rfl

namespace Signature

def separator : Signature → Char
  | .method _ _ _ => '('
  | .field _ _ => ':'

def pieces : Signature → List Piece
  | .method _ parameters none =>
      parameters.flatMap ValueType.pieces ++ [.mark ')' (by decide), .mark 'V' (by decide)]
  | .method _ parameters (some result) =>
      parameters.flatMap ValueType.pieces ++ .mark ')' (by decide) :: result.pieces
  | .field _ type => type.pieces

theorem separator_mem (signature : Signature) :
    signature.separator = '(' ∨ signature.separator = ':' := by
  cases signature with
  | method => exact .inl rfl
  | field => exact .inr rfl

theorem spelled_types_eq (spell : ReferenceName → List Char) (signature : Signature) :
    signature.spelledTypes spell =
      signature.separator :: signature.pieces.flatMap (·.spelled spell) := by
  have parametersEq (parameters : List ValueType) :
      (parameters.flatMap ValueType.pieces).flatMap (·.spelled spell) =
        parameters.flatMap (·.spelled spell) := by
    rw [List.flatMap_assoc]
    simp only [ValueType.flatMap_pieces]
  cases signature with
  | method name parameters result =>
      cases result with
      | none =>
          rw [pieces, List.flatMap_append, parametersEq]
          rfl
      | some result =>
          rw [pieces, List.flatMap_append, List.flatMap_cons, parametersEq,
            ValueType.flatMap_pieces]
          rfl
  | field name type =>
      rw [pieces, ValueType.flatMap_pieces]
      rfl

end Signature

theorem decide_ne_of_not_mem {chars : List Char} {other : Char} (free : other ∉ chars) :
    ∀ char ∈ chars, decide (char ≠ other) = true := by
  intro char member
  exact decide_eq_true (ne_of_mem_of_not_mem member free)

theorem reference_name?_append_semicolon {name : List Char} (nonempty : name ≠ [])
    (free : ';' ∉ name) (rest : List Char) : referenceName? (name ++ ';' :: rest) = some name := by
  have inName := decide_ne_of_not_mem free
  have cut : (name ++ ';' :: rest).span (· ≠ ';') = (name, ';' :: rest) := by
    rw [List.span_eq_takeWhile_dropWhile, List.takeWhile_append_of_pos inName,
      List.dropWhile_append_of_pos inName]
    simp
  rw [referenceName?, cut]
  cases name with
  | nil => exact absurd rfl nonempty
  | cons char others => rfl

theorem reference_name?_of_not_mem {chars : List Char} (free : ';' ∉ chars) :
    referenceName? chars = none := by
  have all := decide_ne_of_not_mem free
  have whole : chars.span (· ≠ ';') = (chars, []) := by
    rw [List.span_eq_takeWhile_dropWhile, List.takeWhile_eq_self_iff.2 all,
      List.dropWhile_eq_nil_iff.2 all]
  rw [referenceName?, whole]
  cases chars <;> rfl

theorem fuzzy_from_eq_drop (due : Nat) (chars : List Char) :
    fuzzyFrom due chars = fuzzyFrom 0 (chars.drop due) := by
  induction chars generalizing due with
  | nil => cases due <;> rfl
  | cons char rest ih =>
      cases due with
      | zero => rfl
      | succ due => exact ih due

theorem fuzzy_from_append_of_not_mem {front : List Char} (free : 'L' ∉ front) (rest : List Char) :
    fuzzyFrom 0 (front ++ rest) = front ++ fuzzyFrom 0 rest := by
  induction front with
  | nil => rfl
  | cons char others ih =>
      have different : char ≠ 'L' := (List.ne_of_not_mem_cons free).symm
      rw [List.cons_append, fuzzyFrom, if_neg different,
        ih (List.not_mem_of_not_mem_cons free), List.cons_append]

theorem fuzzy_from_of_not_mem {chars : List Char} (free : ';' ∉ chars) :
    fuzzyFrom 0 chars = chars := by
  induction chars with
  | nil => rfl
  | cons char rest ih =>
      have restFree : ';' ∉ rest := List.not_mem_of_not_mem_cons free
      simp only [fuzzyFrom, reference_name?_of_not_mem restFree, ih restFree, ite_self]

theorem fuzzy_from_reference (name : ReferenceName) (rest : List Char) :
    fuzzyFrom 0 (name.plain ++ rest) = name.masked ++ fuzzyFrom 0 rest := by
  have found : referenceName? (name.chars ++ ';' :: rest) = some name.chars :=
    reference_name?_append_semicolon name.nonempty name.free rest
  have behind : (name.chars ++ ';' :: rest).drop (name.chars.length + 1) = rest := by
    simp [List.drop_append]
  rw [ReferenceName.plain, List.cons_append, List.append_assoc, List.singleton_append, fuzzyFrom,
    if_pos rfl, found]
  simp only [fuzzy_from_eq_drop (name.chars.length + 1), behind]
  rfl

theorem fuzzy_from_pieces (pieces : List Piece) :
    fuzzyFrom 0 (pieces.flatMap (·.spelled ReferenceName.plain)) =
      pieces.flatMap (·.spelled ReferenceName.masked) := by
  induction pieces with
  | nil => rfl
  | cons piece pieces ih =>
      rw [List.flatMap_cons, List.flatMap_cons]
      cases piece with
      | mark char plain =>
          have free : 'L' ∉ [char] := by simpa using plain.1.symm
          rw [Piece.spelled, fuzzy_from_append_of_not_mem free, ih]
          rfl
      | reference name => rw [Piece.spelled, fuzzy_from_reference, ih]; rfl

theorem takeWhile_append_ne {name : List Char} (letter : 'L' ∈ name) (rest more : List Char) :
    name.takeWhile (· ≠ 'L') ++ 'X' :: rest ≠ name ++ more := by
  induction name with
  | nil => cases letter
  | cons char others ih =>
      by_cases isLetter : char = 'L'
      · simp [isLetter]
      · have inOthers := (List.mem_cons.1 letter).resolve_left (Ne.symm isLetter)
        simpa [isLetter] using ih inOthers

theorem is_framework_type_eq_false {part : List Char} (free : '/' ∉ part) {separator : Char}
    (separates : separator = '(' ∨ separator = ':') (rest : List Char) :
    isFrameworkType (part ++ separator :: rest) = false := by
  have packages : ∀ package ∈ frameworkPackages,
      '/' ∈ package.toList ∧ '(' ∉ package.toList ∧ ':' ∉ package.toList := by
    decide
  rw [isFrameworkType, List.any_eq_false]
  intro package member
  obtain ⟨slash, noBracket, noColon⟩ := packages package member
  have separatorFree : separator ∉ package.toList := by
    cases separates with
    | inl bracket => rwa [bracket]
    | inr colon => rwa [colon]
  rw [starts_with_iff]
  exact not_is_prefix_of_barrier slash free separatorFree rest

namespace Piece

theorem not_mem_spelled_of_behind_reference?_eq_none {pieces : List Piece}
    (noReference : behindReference? pieces = none) (spell : ReferenceName → List Char) :
    ';' ∉ pieces.flatMap (·.spelled spell) := by
  induction pieces with
  | nil => exact List.not_mem_nil
  | cons piece pieces ih =>
      cases piece with
      | mark char plain => simpa [spelled, plain.2.symm] using ih noReference
      | reference name => cases noReference

theorem spelled_eq_of_behind_reference?_eq_none {pieces : List Piece}
    (noReference : behindReference? pieces = none) (spell other : ReferenceName → List Char) :
    pieces.flatMap (·.spelled spell) = pieces.flatMap (·.spelled other) := by
  induction pieces with
  | nil => rfl
  | cons piece pieces ih =>
      cases piece with
      | mark char plain => rw [List.flatMap_cons, List.flatMap_cons, ih noReference]; rfl
      | reference name => cases noReference

theorem exists_spelled_eq_of_behind_reference? {pieces rest : List Piece}
    (first : behindReference? pieces = some rest) :
    ∃ front, front ≠ [] ∧ ';' ∉ front ∧ pieces.flatMap (·.spelled ReferenceName.plain) =
      front ++ ';' :: rest.flatMap (·.spelled ReferenceName.plain) := by
  induction pieces with
  | nil => cases first
  | cons piece pieces ih =>
      cases piece with
      | mark char plain =>
          obtain ⟨front, nonempty, free, same⟩ := ih first
          refine ⟨char :: front, List.cons_ne_nil _ _, ?_, ?_⟩
          · exact List.not_mem_cons_of_ne_of_not_mem plain.2.symm free
          · rw [List.flatMap_cons, same]
            rfl
      | reference name =>
          cases first
          refine ⟨'L' :: name.chars, List.cons_ne_nil _ _, ?_, ?_⟩
          · exact List.not_mem_cons_of_ne_of_not_mem (by decide) name.free
          · simp [spelled, ReferenceName.plain]

end Piece

namespace Signature

theorem toList_text (signature : Signature) :
    signature.text.toList = signature.name.chars ++ signature.separator ::
      signature.pieces.flatMap (·.spelled ReferenceName.plain) := by
  rw [text, spelled, spelled_types_eq, String.toList_ofList]

theorem masked_eq (signature : Signature) :
    signature.masked = String.ofList (signature.name.chars ++ signature.separator ::
      signature.pieces.flatMap (·.spelled ReferenceName.masked)) := by
  rw [masked, spelled, spelled_types_eq]

theorem separator_ne (signature : Signature) :
    signature.separator ≠ 'L' ∧ signature.separator ≠ ';' := by
  cases signature.separator_mem with
  | inl bracket => rw [bracket]; decide
  | inr colon => rw [colon]; decide

theorem fuzzy_signature_text_of_not_mem {signature : Signature}
    (free : 'L' ∉ signature.name.chars) : fuzzySignature signature.text = signature.masked := by
  have separates : 'L' ∉ [signature.separator] := by simpa using signature.separator_ne.1.symm
  rw [fuzzySignature, toList_text, masked_eq, fuzzy_from_append_of_not_mem free,
    ← List.singleton_append, fuzzy_from_append_of_not_mem separates, fuzzy_from_pieces]
  rfl

theorem fuzzy_signature_text_of_no_reference {signature : Signature}
    (noReference : Piece.behindReference? signature.pieces = none) :
    fuzzySignature signature.text = signature.masked := by
  have nameFree : ';' ∉ signature.name.chars := signature.name.free ';' (by decide)
  have free : ';' ∉ signature.text.toList := by
    rw [toList_text, List.mem_append, List.mem_cons, not_or, not_or]
    exact ⟨nameFree, signature.separator_ne.2.symm,
      Piece.not_mem_spelled_of_behind_reference?_eq_none noReference _⟩
  rw [fuzzySignature, fuzzy_from_of_not_mem free, masked_eq, toList_text,
    Piece.spelled_eq_of_behind_reference?_eq_none noReference ReferenceName.plain]

/-- From the first letter L of the name on, everything up to the end of the first reference is
masked as one reference. -/
theorem fuzzy_signature_text_of_mem {signature : Signature} (letter : 'L' ∈ signature.name.chars)
    {rest : List Piece} (first : Piece.behindReference? signature.pieces = some rest) :
    fuzzySignature signature.text =
      String.ofList (signature.name.chars.takeWhile (· ≠ 'L') ++
        'X' :: rest.flatMap (·.spelled ReferenceName.masked)) := by
  obtain ⟨front, back, cut, frontFree⟩ := List.eq_append_cons_of_mem letter
  obtain ⟨inner, _, innerFree, same⟩ := Piece.exists_spelled_eq_of_behind_reference? first
  have nameFree (char : Char) (special : char ∈ ['.', ';', '[', '/', '(', ')', ':']) :
      char ∉ back := by
    have notInName := signature.name.free char special
    rw [cut, List.mem_append, List.mem_cons, not_or, not_or] at notInName
    exact notInName.2.2
  let swallowed : ReferenceName :=
    { chars := back ++ signature.separator :: inner
      nonempty := by simp
      free := by
        rw [List.mem_append, List.mem_cons, not_or, not_or]
        exact ⟨nameFree ';' (by decide), signature.separator_ne.2.symm, innerFree⟩ }
  have isMasked : swallowed.masked = ['X'] := by
    rw [ReferenceName.masked, is_framework_type_eq_false (nameFree '/' (by decide))
      signature.separator_mem]
    rfl
  have spelledSo : signature.text.toList = front ++ (swallowed.plain ++
      rest.flatMap (·.spelled ReferenceName.plain)) := by
    rw [toList_text, cut, same]
    simp [swallowed, ReferenceName.plain]
  have start : signature.name.chars.takeWhile (· ≠ 'L') = front := by
    rw [cut, List.takeWhile_append_of_pos (decide_ne_of_not_mem frontFree)]
    simp
  rw [fuzzySignature, spelledSo, fuzzy_from_append_of_not_mem frontFree, fuzzy_from_reference,
    isMasked, fuzzy_from_pieces, start]
  rfl

/-- What fuzzy signatures keep: where the name holds the letter L and a reference stands behind
it, the name is cut off at that letter and masked together with everything up to the end of the
first reference. -/
def fuzzied (signature : Signature) : String :=
  if 'L' ∈ signature.name.chars then
    match Piece.behindReference? signature.pieces with
    | some rest =>
        String.ofList (signature.name.chars.takeWhile (· ≠ 'L') ++
          'X' :: rest.flatMap (·.spelled ReferenceName.masked))
    | none => signature.masked
  else signature.masked

theorem fuzzy_signature_text_eq_fuzzied (signature : Signature) :
    fuzzySignature signature.text = signature.fuzzied := by
  rw [fuzzied]
  split
  · rename_i letter
    split
    · rename_i rest first
      exact fuzzy_signature_text_of_mem letter first
    · rename_i noReference
      exact fuzzy_signature_text_of_no_reference noReference
  · rename_i free
    exact fuzzy_signature_text_of_not_mem free

/-- References are masked and nothing else is changed exactly if the name is free of the letter
L or no reference stands behind it. -/
theorem fuzzy_signature_text (signature : Signature) :
    fuzzySignature signature.text = signature.fuzzied ∧
      (fuzzySignature signature.text = signature.masked ↔
        'L' ∉ signature.name.chars ∨ Piece.behindReference? signature.pieces = none) := by
  constructor
  · exact fuzzy_signature_text_eq_fuzzied signature
  constructor
  · intro same
    by_cases letter : 'L' ∈ signature.name.chars
    · cases first : Piece.behindReference? signature.pieces with
      | none => exact .inr rfl
      | some rest =>
          rw [fuzzy_signature_text_of_mem letter first, masked_eq, String.ofList_inj] at same
          exact absurd same (takeWhile_append_ne letter _ _)
    · exact .inl letter
  · rintro (free | noReference)
    · exact fuzzy_signature_text_of_not_mem free
    · exact fuzzy_signature_text_of_no_reference noReference

def getList (type : ReferenceName) : Signature :=
  .method ⟨"getList".toList, by decide, not_mem_of_all (by decide)⟩
    [.reference type, .primitive .int] none

/-- Its name is cut off, and its first parameter is lost with it. -/
theorem fuzzy_signature_cuts_get_list :
    ∃ type : ReferenceName,
      (getList type).text = "getList(Lcom/example/Foo;I)V" ∧
        (getList type).masked = "getList(XI)V" ∧
          fuzzySignature (getList type).text = "getXI)V" :=
  ⟨⟨"com/example/Foo".toList, by decide, by decide⟩, by decide, by decide, by decide⟩

end Signature

end LibraryDetection
