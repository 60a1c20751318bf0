import LibraryDetection.Proofs.ClassDump.Masking
import LibraryDetection.Proofs.Collection.Pairs
import LibraryDetection.Proofs.Digest.Structural

/-!
# Fuzzy descriptors under other names

Classes whose members differ in nothing but the names of types outside the framework have the
same fuzzy signatures and the same content, whatever the classes themselves are called and
whether or not their names stand in front of the members.
-/

namespace LibraryDetection

set_option autoImplicit false

open LibraryDetection.Text

inductive ReferenceName.Renamed : ReferenceName → ReferenceName → Prop
  | same (name : ReferenceName) : Renamed name name
  | outside {name other : ReferenceName} (nameOutside : isFrameworkType name.chars = false)
      (otherOutside : isFrameworkType other.chars = false) : Renamed name other

inductive ValueType.Renamed : ValueType → ValueType → Prop
  | primitive (kind : Primitive) : Renamed (.primitive kind) (.primitive kind)
  | reference {name other : ReferenceName} (renamed : name.Renamed other) :
      Renamed (.reference name) (.reference other)
  | array {element other : ValueType} (renamed : element.Renamed other) :
      Renamed (.array element) (.array other)

inductive Signature.Renamed : Signature → Signature → Prop
  | method (name : Identifier) {parameters others : List ValueType}
      {result other : Option ValueType}
      (parametersRenamed : List.Forall₂ ValueType.Renamed parameters others)
      (resultRenamed : Option.Rel ValueType.Renamed result other) :
      Renamed (.method name parameters result) (.method name others other)
  | field (name : Identifier) {type other : ValueType} (renamed : type.Renamed other) :
      Renamed (.field name type) (.field name other)

inductive Piece.Renamed : Piece → Piece → Prop
  | mark (char : Char) (plain : char ≠ 'L' ∧ char ≠ ';') :
      Renamed (.mark char plain) (.mark char plain)
  | reference {name other : ReferenceName} (renamed : name.Renamed other) :
      Renamed (.reference name) (.reference other)

theorem ReferenceName.Renamed.masked_eq {name other : ReferenceName}
    (renamed : name.Renamed other) : name.masked = other.masked := by
  cases renamed with
  | same => rfl
  | outside nameOutside otherOutside => rw [masked, masked, nameOutside, otherOutside]; rfl

theorem ValueType.Renamed.pieces {type other : ValueType} (renamed : type.Renamed other) :
    List.Forall₂ Piece.Renamed type.pieces other.pieces := by
  induction renamed with
  | primitive kind => exact .cons (.mark _ _) .nil
  | reference renamed => exact .cons (.reference renamed) .nil
  | array _ ih => exact .cons (.mark _ _) ih

namespace Piece

variable {pieces others : List Piece}

theorem spelled_masked_eq (renamed : List.Forall₂ Piece.Renamed pieces others) :
    pieces.flatMap (·.spelled ReferenceName.masked) =
      others.flatMap (·.spelled ReferenceName.masked) := by
  induction renamed with
  | nil => rfl
  | cons piece _ ih =>
      rw [List.flatMap_cons, List.flatMap_cons, ih]
      cases piece with
      | mark => rfl
      | reference renamed => rw [spelled, spelled, renamed.masked_eq]

theorem behind_reference?_rel (renamed : List.Forall₂ Piece.Renamed pieces others) :
    Option.Rel (List.Forall₂ Piece.Renamed) (behindReference? pieces)
      (behindReference? others) := by
  induction renamed with
  | nil => exact .none
  | cons piece rest ih =>
      cases piece with
      | mark => exact ih
      | reference => exact .some rest

end Piece

namespace Signature.Renamed

variable {signature other : Signature} (renamed : signature.Renamed other)

include renamed

theorem name_eq : signature.name = other.name := by
  cases renamed <;> rfl

theorem separator_eq : signature.separator = other.separator := by
  cases renamed <;> rfl

theorem pieces : List.Forall₂ Piece.Renamed signature.pieces other.pieces := by
  cases renamed with
  | method name parametersRenamed resultRenamed =>
      have parameters := List.rel_flatMap parametersRenamed fun _ _ type => type.pieces
      cases resultRenamed with
      | none => exact List.rel_append parameters (.cons (.mark _ _) (.cons (.mark _ _) .nil))
      | some result => exact List.rel_append parameters (.cons (.mark _ _) result.pieces)
  | field name type => exact type.pieces

theorem masked_eq : signature.masked = other.masked := by
  rw [Signature.masked_eq, Signature.masked_eq, renamed.name_eq, renamed.separator_eq,
    Piece.spelled_masked_eq renamed.pieces]

theorem fuzzied_eq : signature.fuzzied = other.fuzzied := by
  have behind := Piece.behind_reference?_rel renamed.pieces
  rw [fuzzied, fuzzied, renamed.name_eq, renamed.masked_eq]
  generalize Piece.behindReference? signature.pieces = rest at behind
  generalize Piece.behindReference? other.pieces = otherRest at behind
  cases behind with
  | none => rfl
  | some restRenamed => simp only [Piece.spelled_masked_eq restRenamed]

end Signature.Renamed

def IsDottedName (name : String) : Prop :=
  ∃ segments : List Identifier,
    segments ≠ [] ∧ name = join "." (segments.map fun segment => String.ofList segment.chars)

/-- A signature as it is, or with the name of its class in front, with dots or with slashes. -/
inductive SpelledIn (owner bare : String) : String → Prop
  | bare : SpelledIn owner bare bare
  | dotted : SpelledIn owner bare (owner ++ "." ++ bare)
  | slashed : SpelledIn owner bare (replaceChar '.' '/' owner ++ "." ++ bare)

section Owner

variable {owner : String} (dotted : IsDottedName owner)

include dotted

theorem IsDottedName.not_mem {char : Char} (special : char = '(' ∨ char = ':') :
    char ∉ owner.toList := by
  obtain ⟨segments, _, rfl⟩ := dotted
  rw [join, String.toList_intercalate]
  intro member
  rcases mem_intercalate member with separates | ⟨piece, isPiece, found⟩
  · rcases special with rfl | rfl <;> exact absurd separates (by decide)
  · rw [List.map_map] at isPiece
    obtain ⟨segment, _, rfl⟩ := List.mem_map.1 isPiece
    refine segment.free char ?_ (by simpa using found)
    rcases special with rfl | rfl <;> decide

theorem IsDottedName.not_mem_of_mem_owner_marks {mark : String} (isMark : mark ∈ ownerMarks owner)
    {char : Char} (special : char = '(' ∨ char = ':') : char ∉ mark.toList := by
  have notInOwner := dotted.not_mem special
  have notDot : char ≠ '.' ∧ char ≠ '/' := by rcases special with rfl | rfl <;> decide
  simp only [ownerMarks, List.mem_cons, List.not_mem_nil, or_false] at isMark
  rcases isMark with rfl | rfl
  · rw [String.toList_append, List.mem_append, not_or]
    exact ⟨notInOwner, by simpa using notDot.1⟩
  · rw [String.toList_append, List.mem_append, not_or, replaceChar, String.toList_map]
    refine ⟨?_, by simpa using notDot.1⟩
    intro member
    obtain ⟨origin, inOwner, same⟩ := List.mem_map.1 member
    split at same
    · exact notDot.2 same.symm
    · exact notInOwner (same ▸ inOwner)

theorem without_start?_owner_mark_text {mark : String} (isMark : mark ∈ ownerMarks owner)
    (signature : Signature) : withoutStart? mark.toList signature.text.toList = none := by
  have dotInMark : '.' ∈ mark.toList := by
    simp only [ownerMarks, List.mem_cons, List.not_mem_nil, or_false] at isMark
    rcases isMark with rfl | rfl <;> simp
  have dotNotInName : '.' ∉ signature.name.chars := signature.name.free '.' (by decide)
  have separatorFree := dotted.not_mem_of_mem_owner_marks isMark signature.separator_mem
  rw [Option.eq_none_iff_forall_ne_some]
  intro rest begins
  rw [without_start?_eq_some_iff, Signature.toList_text] at begins
  exact not_is_prefix_of_barrier dotInMark dotNotInName separatorFree _ ⟨rest, begins⟩

theorem without_owner_of_spelled_in {signature : Signature} {text : String}
    (spelled : SpelledIn owner signature.text text) : withoutOwner owner text = signature.text := by
  have dropped (mark : String) :
      withoutStart? mark.toList (mark ++ signature.text).toList = some signature.text.toList := by
    rw [without_start?_eq_some_iff, String.toList_append]
  rw [withoutOwner, ownerMarks]
  cases spelled with
  | bare =>
      have neither (mark : String) (isMark : mark ∈ ownerMarks owner) :
          withoutStart? mark.toList signature.text.toList = none :=
        without_start?_owner_mark_text dotted isMark signature
      simp only [ownerMarks, List.forall_mem_cons] at neither
      simp only [List.findSome?_cons, neither.1, neither.2.1, List.findSome?_nil]
  | dotted =>
      simp only [List.findSome?_cons, dropped, String.ofList_toList]
  | slashed =>
      cases first : withoutStart? (owner ++ ".").toList
          (replaceChar '.' '/' owner ++ "." ++ signature.text).toList with
      | none => simp only [List.findSome?_cons, first, dropped, String.ofList_toList]
      | some rest =>
          -- both forms are of one length, so that this one leaves the same behind it
          have sameLength : (owner ++ ".").toList.length =
              (replaceChar '.' '/' owner ++ ".").toList.length := by
            simp [replaceChar]
          have cut : (owner ++ ".").toList ++ rest =
              (replaceChar '.' '/' owner ++ ".").toList ++ signature.text.toList :=
            (without_start?_eq_some_iff.1 first).trans String.toList_append
          have sameRest : rest = signature.text.toList := (List.append_inj cut sameLength).2
          simp only [List.findSome?_cons, first, sameRest, String.ofList_toList]

theorem normal_signature_of_spelled_in {signature : Signature} {text : String}
    (spelled : SpelledIn owner signature.text text) :
    normalSignature true owner text = signature.fuzzied := by
  rw [normalSignature, without_owner_of_spelled_in dotted spelled]
  exact signature.fuzzy_signature_text_eq_fuzzied

end Owner

/-- Members of two classes with the same flags whose signatures differ in nothing but the names
of types outside the framework. -/
structure Member.Renamed (owner otherOwner : String) (member other : Member) : Prop where
  isPublic : member.isPublic = other.isPublic
  isSynthetic : member.isSynthetic = other.isSynthetic
  isBridge : member.isBridge = other.isBridge
  signatures : ∃ signature otherSignature : Signature, signature.Renamed otherSignature ∧
    SpelledIn owner signature.text member.signature ∧
      SpelledIn otherOwner otherSignature.text other.signature

namespace Member.Renamed

variable {owner otherOwner : String} {member other : Member}
  (renamed : member.Renamed owner otherOwner other)

include renamed

theorem includes_eq (options : MemberOptions) :
    options.includes member = options.includes other := by
  rw [MemberOptions.includes, MemberOptions.includes, renamed.isPublic, renamed.isSynthetic,
    renamed.isBridge]

theorem normal_signature_eq (dotted : IsDottedName owner) (otherDotted : IsDottedName otherOwner) :
    normalSignature true owner member.signature =
      normalSignature true otherOwner other.signature := by
  obtain ⟨signature, otherSignature, sameBut, spelled, otherSpelled⟩ := renamed.signatures
  rw [normal_signature_of_spelled_in dotted spelled,
    normal_signature_of_spelled_in otherDotted otherSpelled]
  exact sameBut.fuzzied_eq

end Member.Renamed

def Signature.nextField (type : ReferenceName) : Signature :=
  .field ⟨"next".toList, by decide, not_mem_of_all (by decide)⟩ (.reference type)

namespace DumpedClass

variable {dumped other : DumpedClass}

theorem mem_signatures_fuzzy_iff (dotted : IsDottedName dumped.name) (publicOnly : Bool)
    (spelled : ∀ member ∈ dumped.members, ∃ signature : Signature,
      SpelledIn dumped.name signature.text member.signature) (text : String) :
    text ∈ (dumped.toDescriptor ⟨publicOnly, true⟩).signatures ↔
      ∃ member ∈ dumped.members, MemberOptions.includes ⟨publicOnly, true⟩ member = true ∧
        ∃ signature : Signature, SpelledIn dumped.name signature.text member.signature ∧
          text = signature.fuzzied := by
  rw [toDescriptor, ClassDescriptor.make, mem_text_set, signatures, List.mem_map]
  constructor
  · rintro ⟨member, counts, rfl⟩
    obtain ⟨isMember, included⟩ := List.mem_filter.1 counts
    obtain ⟨signature, here⟩ := spelled member isMember
    exact ⟨member, isMember, included, signature, here, normal_signature_of_spelled_in dotted here⟩
  · rintro ⟨member, isMember, included, signature, here, rfl⟩
    exact ⟨member, List.mem_filter.2 ⟨isMember, included⟩,
      normal_signature_of_spelled_in dotted here⟩

/-- Fuzzy descriptors of classes that differ in nothing but names outside the framework have the
same signatures, those of the members that count, and the same content. -/
theorem to_descriptor_fuzzy_of_renamed (dotted : IsDottedName dumped.name)
    (otherDotted : IsDottedName other.name)
    (renamed : Paired (Member.Renamed dumped.name other.name) dumped.members other.members)
    (publicOnly : Bool) :
    (dumped.toDescriptor ⟨publicOnly, true⟩).signatures =
        (other.toDescriptor ⟨publicOnly, true⟩).signatures ∧
      (dumped.toDescriptor ⟨publicOnly, true⟩).contentHash =
        (other.toDescriptor ⟨publicOnly, true⟩).contentHash ∧
      ∀ text, text ∈ (dumped.toDescriptor ⟨publicOnly, true⟩).signatures ↔
        ∃ member ∈ dumped.members, MemberOptions.includes ⟨publicOnly, true⟩ member = true ∧
          ∃ signature : Signature, SpelledIn dumped.name signature.text member.signature ∧
            text = signature.fuzzied := by
  have included := renamed.filter fun _ _ pair => pair.includes_eq ⟨publicOnly, true⟩
  have sameBag : (dumped.signatures ⟨publicOnly, true⟩).Perm
      (other.signatures ⟨publicOnly, true⟩) :=
    included.map_perm fun _ _ pair => pair.normal_signature_eq dotted otherDotted
  refine ⟨text_set_eq_of_mem_iff fun _ => sameBag.mem_iff,
    Digest.content_hash_eq_of_mem_iff fun _ => sameBag.mem_iff, ?_⟩
  apply mem_signatures_fuzzy_iff dotted publicOnly
  intro member isMember
  obtain ⟨partner, _, pair⟩ := renamed.exists_partner isMember
  obtain ⟨signature, _, _, spelled, _⟩ := pair.signatures
  exact ⟨signature, spelled⟩

def linked : DumpedClass :=
  { name := "com.example.Foo", kind := .topLevel, isPublic := true
    members := [⟨"com.example.Foo.getList(Lcom/example/Bar;I)V", true, false, false, true⟩,
      ⟨"next:Lcom/example/Foo;", true, false, false, false⟩] }

def linkedShort : DumpedClass :=
  { name := "a.b", kind := .topLevel, isPublic := true
    members := [⟨"a/b.next:La/b;", true, false, false, false⟩,
      ⟨"getList(La/c;I)V", true, false, false, true⟩] }

theorem linked_fuzzy_eq_linked_short :
    (linked.toDescriptor ⟨true, true⟩).signatures =
        (linkedShort.toDescriptor ⟨true, true⟩).signatures ∧
      (linked.toDescriptor ⟨true, true⟩).contentHash =
        (linkedShort.toDescriptor ⟨true, true⟩).contentHash := by
  let foo : ReferenceName := ⟨"com/example/Foo".toList, by decide, by decide⟩
  let bar : ReferenceName := ⟨"com/example/Bar".toList, by decide, by decide⟩
  let shortFoo : ReferenceName := ⟨"a/b".toList, by decide, by decide⟩
  let shortBar : ReferenceName := ⟨"a/c".toList, by decide, by decide⟩
  have listRenamed : (Signature.getList bar).Renamed (Signature.getList shortBar) :=
    .method _ (.cons (.reference (.outside rfl rfl)) (.cons (.primitive .int) .nil)) .none
  have nextRenamed : (Signature.nextField foo).Renamed (Signature.nextField shortFoo) :=
    .field _ (.reference (.outside rfl rfl))
  have firstMember : Member.Renamed linked.name linkedShort.name
      ⟨"com.example.Foo.getList(Lcom/example/Bar;I)V", true, false, false, true⟩
      ⟨"getList(La/c;I)V", true, false, false, true⟩ :=
    ⟨rfl, rfl, rfl, _, _, listRenamed, .dotted, .bare⟩
  have inFront :
      SpelledIn linkedShort.name (Signature.nextField shortFoo).text "a/b.next:La/b;" := by
    have slashedName : replaceChar '.' '/' linkedShort.name = "a/b" := by
      rw [← String.toList_inj, replaceChar, String.toList_map]
      decide
    have spelledSo : SpelledIn linkedShort.name (Signature.nextField shortFoo).text
        (replaceChar '.' '/' linkedShort.name ++ "." ++ (Signature.nextField shortFoo).text) :=
      .slashed
    rwa [slashedName] at spelledSo
  have secondMember : Member.Renamed linked.name linkedShort.name
      ⟨"next:Lcom/example/Foo;", true, false, false, false⟩
      ⟨"a/b.next:La/b;", true, false, false, false⟩ :=
    ⟨rfl, rfl, rfl, _, _, nextRenamed, .bare, inFront⟩
  have descriptors := @to_descriptor_fuzzy_of_renamed linked linkedShort ?_ ?_ ?_ true
  · exact ⟨descriptors.1, descriptors.2.1⟩
  · exact ⟨[⟨"com".toList, by decide, not_mem_of_all (by decide)⟩,
      ⟨"example".toList, by decide, not_mem_of_all (by decide)⟩,
      ⟨"Foo".toList, by decide, not_mem_of_all (by decide)⟩], by decide, by decide⟩
  · exact ⟨[⟨"a".toList, by decide, not_mem_of_all (by decide)⟩,
      ⟨"b".toList, by decide, not_mem_of_all (by decide)⟩], by decide, by decide⟩
  · exact ⟨_, List.Perm.swap _ _ _, .cons firstMember (.cons secondMember .nil)⟩

end DumpedClass

end LibraryDetection
