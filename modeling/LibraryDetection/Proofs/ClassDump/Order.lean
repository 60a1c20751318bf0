import LibraryDetection.ClassDump.Signature
import LibraryDetection.ClassDump.Statistics
import LibraryDetection.Proofs.ClassDump.Reader
import LibraryDetection.Proofs.Collection.Pairs
import LibraryDetection.Proofs.Digest.Structural

/-!
# The order of a dump

Records in another order, the methods and the fields of each in another order as well, are
refused where the records are refused.  They give the same statistics, and the same
descriptors in another order.
-/

namespace LibraryDetection

set_option autoImplicit false

/-- A field of two records has the same value, or lists the same members in any order. -/
inductive FieldReordered (name : String) : Option Json → Option Json → Prop
  | same (value : Option Json) : FieldReordered name value value
  | members {items others : List Json} (isMembers : name = "methods" ∨ name = "fields")
      (order : items.Perm others) : FieldReordered name (some (.list items)) (some (.list others))

/-- The records differ in nothing but the order of the methods and that of the fields. -/
inductive RecordReordered : Json → Json → Prop
  | same (record : Json) : RecordReordered record record
  | object {fields others : List (String × Json)}
      (alike : ∀ name, FieldReordered name (Json.field? name fields) (Json.field? name others)) :
      RecordReordered (.object fields) (.object others)

theorem FieldReordered.symm {name : String} {value other : Option Json}
    (alike : FieldReordered name value other) : FieldReordered name other value := by
  cases alike with
  | same => exact .same value
  | members isMembers order => exact .members isMembers order.symm

theorem FieldReordered.eq {name : String} {value other : Option Json}
    (alike : FieldReordered name value other) (isOther : name ≠ "methods" ∧ name ≠ "fields") :
    value = other := by
  cases alike with
  | same => rfl
  | members isMembers => exact absurd isMembers (not_or.2 isOther)

theorem RecordReordered.symm {record other : Json} (alike : RecordReordered record other) :
    RecordReordered other record := by
  cases alike with
  | same => exact .same record
  | object alike => exact .object fun name => (alike name).symm

structure DumpedClass.Reordered (dumped other : DumpedClass) : Prop where
  name : dumped.name = other.name
  kind : dumped.kind = other.kind
  isPublic : dumped.isPublic = other.isPublic
  members : dumped.members.Perm other.members

section Members

variable {isMethod : Bool} {className : String} {items others : List Json}
  {members : List Member}

theorem members_of_eq_ok_iff :
    membersOf isMethod className items = .ok members ↔
      List.Forall₂ (fun item member => Member.ofJson isMethod className item = .ok member)
        items members := by
  induction items generalizing members with
  | nil =>
      rw [membersOf, Except.ok.injEq]
      constructor
      · rintro rfl
        exact .nil
      · intro pairs
        cases pairs
        rfl
  | cons item rest ih =>
      rw [membersOf]
      constructor
      · intro done
        split at done
        · cases done
        · rename_i member first
          split at done
          · cases done
          · rename_i more below
            cases done
            exact .cons first (ih.1 below)
      · intro pairs
        cases pairs with
        | @cons _ member _ more first below => rw [first, ih.2 below]

theorem exists_members_of_of_perm (order : items.Perm others)
    (read : membersOf isMethod className items = .ok members) :
    ∃ more, membersOf isMethod className others = .ok more ∧ members.Perm more := by
  obtain ⟨more, pairs, reordered⟩ :=
    List.perm_comp_forall₂ order.symm (members_of_eq_ok_iff.1 read)
  exact ⟨more, members_of_eq_ok_iff.2 pairs, reordered.symm⟩

theorem exists_members_in {field : String} {fields otherFields : List (String × Json)}
    (alike : FieldReordered field (Json.field? field fields) (Json.field? field otherFields))
    (read : membersIn field isMethod className fields = .ok members) :
    ∃ more, membersIn field isMethod className otherFields = .ok more ∧ members.Perm more := by
  rw [membersIn] at read ⊢
  generalize Json.field? field fields = value at alike read
  generalize Json.field? field otherFields = other at alike ⊢
  cases alike with
  | same => exact ⟨members, read, List.Perm.refl members⟩
  | members _ order => exact exists_members_of_of_perm order read

end Members

namespace DumpedClass

variable {fields others : List (String × Json)} {dumped : DumpedClass}

theorem exists_of_fields {name : String}
    (alike : ∀ field, FieldReordered field (Json.field? field fields) (Json.field? field others))
    (read : ofFields name fields = .ok dumped) :
    ∃ other, ofFields name others = .ok other ∧ dumped.Reordered other := by
  have kinds : kindIn name others = kindIn name fields := by
    rw [kindIn, kindIn, (alike "kind").eq (by decide)]
  have flags : flag "public" true others = flag "public" true fields := by
    rw [flag, flag, (alike "public").eq (by decide)]
  rw [ofFields] at read ⊢
  rw [kinds, flags]
  split at read
  · cases read
  · split at read
    · cases read
    · rename_i methods readMethods
      split at read
      · cases read
      · rename_i rest readRest
        cases read
        obtain ⟨moreMethods, again, methodOrder⟩ := exists_members_in (alike "methods") readMethods
        obtain ⟨moreFields, againFields, fieldOrder⟩ := exists_members_in (alike "fields") readRest
        rw [again, againFields]
        exact ⟨_, rfl, rfl, rfl, rfl, methodOrder.append fieldOrder⟩

theorem exists_of_json {record other : Json} {index : Nat} (alike : RecordReordered record other)
    (read : ofJson index record = .ok dumped) :
    ∃ more, ofJson index other = .ok more ∧ dumped.Reordered more := by
  cases alike with
  | same => exact ⟨dumped, read, rfl, rfl, rfl, List.Perm.refl _⟩
  | object alike =>
      rw [ofJson] at read ⊢
      rw [← (alike "name").eq (by decide)]
      split at read
      · rename_i name named
        split at read
        · cases read
        · rename_i nonempty
          rw [if_neg nonempty]
          exact exists_of_fields alike read
      · cases read

theorem exists_all_of_json {records others : List Json} {classes : List DumpedClass}
    (alike : Paired RecordReordered records others) (read : allOfJson 0 records = .ok classes) :
    ∃ more, allOfJson 0 others = .ok more ∧ Paired Reordered classes more := by
  obtain ⟨partners, order, pairs⟩ := alike
  have each : ∃ inPlace, List.Forall₂ (fun item dumped => ofJson 0 item = .ok dumped)
      partners inPlace ∧ List.Forall₂ Reordered classes inPlace := by
    have readEach := (all_of_json_eq_ok_iff 0).1 read
    clear read order
    induction pairs generalizing classes with
    | nil =>
        cases readEach
        exact ⟨[], .nil, .nil⟩
    | cons pair _ ih =>
        cases readEach with
        | cons first rest =>
            obtain ⟨other, readOther, same⟩ := exists_of_json pair first
            obtain ⟨inPlace, readRest, sameRest⟩ := ih rest
            exact ⟨other :: inPlace, .cons readOther readRest, .cons same sameRest⟩
  obtain ⟨inPlace, readEach, sameEach⟩ := each
  obtain ⟨more, readMore, reordered⟩ :=
    exists_all_of_json_of_perm order.symm ((all_of_json_eq_ok_iff 0).2 readEach)
  exact ⟨more, readMore, inPlace, reordered.symm, sameEach⟩

namespace Reordered

variable {other : DumpedClass} (alike : dumped.Reordered other)

include alike

theorem to_descriptor_eq (options : MemberOptions) :
    dumped.toDescriptor options = other.toDescriptor options := by
  have signatures : (dumped.signatures options).Perm (other.signatures options) := by
    rw [signatures, signatures, alike.name]
    exact (alike.members.filter _).map _
  rw [toDescriptor, toDescriptor, packagePath, packagePath, simpleName, simpleName, alike.name,
    alike.kind, ClassDescriptor.make, ClassDescriptor.make,
    text_set_eq_of_mem_iff fun _ => signatures.mem_iff,
    Digest.content_hash_eq_of_mem_iff fun _ => signatures.mem_iff]

theorem own_methods_perm : dumped.ownMethods.Perm other.ownMethods :=
  (alike.members.filter _).filter _

theorem public_methods_perm : dumped.publicMethods.Perm other.publicMethods := by
  rw [publicMethods, publicMethods, alike.name]
  exact (alike.own_methods_perm.filter _).map _

end Reordered

end DumpedClass

section Paired

variable {classes others : List DumpedClass} (alike : Paired DumpedClass.Reordered classes others)

include alike

theorem descriptors_perm (options : MemberOptions) :
    (classes.map (·.toDescriptor options)).Perm (others.map (·.toDescriptor options)) :=
  alike.map_perm fun _ _ pair => pair.to_descriptor_eq options

theorem DumpStatistics.of_classes_eq : ofClasses classes = ofClasses others := by
  have inner : classes.countP (·.isInner) = others.countP (·.isInner) :=
    alike.countP_eq fun _ _ pair => by
      rw [DumpedClass.isInner, DumpedClass.simpleName, pair.name]
      rfl
  have reachable : classes.countP (·.isPublic) = others.countP (·.isPublic) :=
    alike.countP_eq fun _ _ pair => pair.isPublic
  have kinds (kind : ClassKind) :
      classes.countP (·.kind = kind) = others.countP (·.kind = kind) :=
    alike.countP_eq fun _ _ pair => by rw [pair.kind]
  have methods := alike.flatMap_perm fun _ _ pair => pair.public_methods_perm
  have own := alike.flatMap_perm fun _ _ pair => pair.own_methods_perm
  simp only [ofClasses, alike.length_eq, inner, reachable, kinds,
    text_set_eq_of_mem_iff fun _ => methods.mem_iff, own.countP_eq]

end Paired

end LibraryDetection
