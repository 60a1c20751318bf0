import LibraryDetection.Proofs.ClassDump.File
import LibraryDetection.Proofs.ClassDump.Order
import LibraryDetection.Proofs.Collection.Pairs

/-!
# The grammar of class dumps

Which JSON values are class dumps, and which classes they tell, without the steps of a
reader.  The reader takes the dumps of the grammar and no other value, and it gives the
classes that they tell.
-/

namespace LibraryDetection

set_option autoImplicit false

namespace Json

inductive IsMember : Json → Prop
  | text (signature : String) : IsMember (.text signature)
  | object {fields : List (String × Json)} {signature : String}
      (signed : field? "signature" fields = some (.text signature)) : IsMember (.object fields)

def MayListMembers (name : String) (fields : List (String × Json)) : Prop :=
  ∀ value, field? name fields = some value →
    ∃ items, value = .list items ∧ ∀ item ∈ items, item.IsMember

def MayNameKind (fields : List (String × Json)) : Prop :=
  ∀ value, field? "kind" fields = some value →
    value = .null ∨ ∃ kind ∈ ClassKind.all, value = .text kind.label

/-- A record of a class: an object with a name that is not empty, whose kind, methods and fields
are as they should be wherever they are given. -/
inductive IsClass : Json → Prop
  | object {fields : List (String × Json)} {name : String}
      (named : field? "name" fields = some (.text name)) (nonempty : name ≠ "")
      (kind : MayNameKind fields) (methods : MayListMembers "methods" fields)
      (others : MayListMembers "fields" fields) : IsClass (.object fields)

def Lists (dump : Json) (items : List Json) : Prop :=
  dump = .list items ∨
    ∃ fields, dump = .object fields ∧ field? "classes" fields = some (.list items)

def IsClassDump (dump : Json) : Prop := ∃ items, dump.Lists items ∧ ∀ item ∈ items, item.IsClass

inductive Falsy : Json → Prop
  | null : Falsy .null
  | bool : Falsy (.bool false)
  | whole : Falsy (.whole 0)
  | real {value : Float} (zero : (value == 0.0) = true) : Falsy (.real value)
  | text : Falsy (.text "")
  | list : Falsy (.list [])
  | object : Falsy (.object [])

theorem truth_eq_false_iff (value : Json) : value.truth = false ↔ value.Falsy := by
  constructor
  · intro untrue
    cases value with
    | null => exact .null
    | bool value =>
        simp only [truth] at untrue
        subst untrue
        exact .bool
    | whole value =>
        simp only [truth, decide_eq_false_iff_not, ne_eq, not_not] at untrue
        subst untrue
        exact .whole
    | real value =>
        apply Falsy.real
        simpa [truth] using untrue
    | text value =>
        simp only [truth, decide_eq_false_iff_not, ne_eq, not_not] at untrue
        subst untrue
        exact .text
    | list items =>
        simp only [truth, Bool.not_eq_false', List.isEmpty_iff] at untrue
        subst untrue
        exact .list
    | object fields =>
        simp only [truth, Bool.not_eq_false', List.isEmpty_iff] at untrue
        subst untrue
        exact .object
  · intro falsy
    cases falsy with
    | real zero => simp [truth, zero]
    | _ => rfl

inductive Answers (name : String) (absent : Bool) (fields : List (String × Json)) : Bool → Prop
  | absent (missing : field? name fields = none) : Answers name absent fields absent
  | no {value : Json} (told : field? name fields = some value) (falsy : value.Falsy) :
      Answers name absent fields false
  | yes {value : Json} (told : field? name fields = some value) (truthy : ¬ value.Falsy) :
      Answers name absent fields true

theorem flag_eq_iff {name : String} {absent answer : Bool} {fields : List (String × Json)} :
    flag name absent fields = answer ↔ Answers name absent fields answer := by
  unfold flag
  constructor
  · intro same
    cases told : field? name fields with
    | none =>
        rw [told] at same
        subst same
        exact .absent told
    | some value =>
        simp only [told] at same
        cases answer with
        | false => exact .no told ((truth_eq_false_iff value).1 same)
        | true =>
            apply Answers.yes told
            simp [← truth_eq_false_iff, same]
  · intro answers
    cases answers with
    | absent missing => rw [missing]
    | no told falsy =>
        rw [told]
        exact (truth_eq_false_iff _).2 falsy
    | yes told truthy =>
        rw [told]
        simpa [← truth_eq_false_iff] using truthy

end Json

/-- A bare signature is that of a public member; an object says more of its own. -/
inductive Member.ToldBy (isMethod : Bool) : Json → Member → Prop
  | text (signature : String) :
      ToldBy isMethod (.text signature) ⟨signature, true, false, false, isMethod⟩
  | object {fields : List (String × Json)} {member : Member}
      (signed : Json.field? "signature" fields = some (.text member.signature))
      (isPublic : Json.Answers "public" true fields member.isPublic)
      (isSynthetic : Json.Answers "synthetic" false fields member.isSynthetic)
      (isBridge : Json.Answers "bridge" false fields member.isBridge)
      (kept : member.isMethod = isMethod) : ToldBy isMethod (.object fields) member

inductive MembersToldBy (name : String) (isMethod : Bool) (fields : List (String × Json)) :
    List Member → Prop
  | absent (missing : Json.field? name fields = none) : MembersToldBy name isMethod fields []
  | listed {items : List Json} {members : List Member}
      (told : Json.field? name fields = some (.list items))
      (each : List.Forall₂ (Member.ToldBy isMethod) items members) :
      MembersToldBy name isMethod fields members

inductive KindToldBy (className : String) (fields : List (String × Json)) : ClassKind → Prop
  | named {kind : ClassKind} (known : kind ∈ ClassKind.all)
      (told : Json.field? "kind" fields = some (.text kind.label)) :
      KindToldBy className fields kind
  | inferred
      (silent : Json.field? "kind" fields = none ∨ Json.field? "kind" fields = some .null) :
      KindToldBy className fields (ClassKind.ofName className)

/-- The class of a record: its name has points for slashes, and its methods come before its
fields. -/
inductive DumpedClass.ToldBy : Json → DumpedClass → Prop
  | object {fields : List (String × Json)} {name : String} {dumped : DumpedClass}
      {methods others : List Member}
      (named : Json.field? "name" fields = some (.text name)) (nonempty : name ≠ "")
      (dotted : dumped.name.toList = name.toList.map fun char => if char = '/' then '.' else char)
      (kind : KindToldBy dumped.name fields dumped.kind)
      (isPublic : Json.Answers "public" true fields dumped.isPublic)
      (toldMethods : MembersToldBy "methods" true fields methods)
      (toldOthers : MembersToldBy "fields" false fields others)
      (members : dumped.members = methods ++ others) : ToldBy (.object fields) dumped

section Fields

variable {className name : String} {isMethod : Bool} {fields : List (String × Json)} {item : Json}

theorem Member.of_json_eq_ok_iff {member : Member} :
    ofJson isMethod className item = .ok member ↔ ToldBy isMethod item member := by
  constructor
  · intro read
    cases item with
    | text signature =>
        cases read
        exact .text signature
    | object fields =>
        rw [ofJson] at read
        split at read
        case h_1 signature signed =>
          cases read
          exact .object signed (Json.flag_eq_iff.1 rfl) (Json.flag_eq_iff.1 rfl)
            (Json.flag_eq_iff.1 rfl) rfl
        case h_2 => cases read
    | _ => cases read
  · intro told
    cases told with
    | text signature => rfl
    | object signed isPublic isSynthetic isBridge kept =>
        rw [ofJson, signed]
        dsimp only
        rw [Json.flag_eq_iff.2 isPublic, Json.flag_eq_iff.2 isSynthetic,
          Json.flag_eq_iff.2 isBridge, ← kept]

theorem Member.exists_told_by_iff : (∃ member, ToldBy isMethod item member) ↔ item.IsMember := by
  constructor
  · intro told
    obtain ⟨member, told⟩ := told
    cases told with
    | text signature => exact .text signature
    | object signed => exact .object signed
  · intro isMember
    cases isMember with
    | text signature => exact ⟨_, .text signature⟩
    | @object fields signature signed =>
        exact ⟨⟨signature, _, _, _, isMethod⟩, .object signed (Json.flag_eq_iff.1 rfl)
          (Json.flag_eq_iff.1 rfl) (Json.flag_eq_iff.1 rfl) rfl⟩

theorem members_in_eq_ok_iff {members : List Member} :
    membersIn name isMethod className fields = .ok members ↔
      MembersToldBy name isMethod fields members := by
  have ofItems : ∀ items, membersOf isMethod className items = .ok members ↔
      List.Forall₂ (Member.ToldBy isMethod) items members := by
    intro items
    rw [members_of_eq_ok_iff]
    simp only [Member.of_json_eq_ok_iff]
  rw [membersIn]
  constructor
  · intro read
    split at read
    case h_1 missing =>
      cases read
      exact .absent missing
    case h_2 items told => exact .listed told ((ofItems items).1 read)
    case h_3 => cases read
  · intro told
    cases told with
    | absent missing => rw [missing]
    | listed listed each =>
        rw [listed]
        exact (ofItems _).2 each

theorem exists_members_told_by_iff :
    (∃ members, MembersToldBy name isMethod fields members) ↔ Json.MayListMembers name fields := by
  constructor
  · intro told value found
    obtain ⟨members, told⟩ := told
    cases told with
    | absent missing =>
        rw [missing] at found
        cases found
    | @listed items members listed each =>
        rw [listed] at found
        cases found
        refine ⟨items, rfl, ?_⟩
        intro item inItems
        exact Member.exists_told_by_iff.1 (exists_forall₂_iff.1 ⟨members, each⟩ item inItems)
  · intro lists
    cases found : Json.field? name fields with
    | none => exact ⟨[], .absent found⟩
    | some value =>
        obtain ⟨items, rfl, each⟩ := lists value found
        obtain ⟨members, told⟩ := exists_forall₂_iff.2 fun item inItems =>
          (@Member.exists_told_by_iff isMethod item).2 (each item inItems)
        exact ⟨members, .listed found told⟩

theorem kind_in_eq_ok_iff {kind : ClassKind} :
    kindIn className fields = .ok kind ↔ KindToldBy className fields kind := by
  rw [kindIn]
  constructor
  · intro read
    split at read
    case h_1 missing =>
      cases read
      exact .inferred (.inl missing)
    case h_2 isNull =>
      cases read
      exact .inferred (.inr isNull)
    case h_3 label told =>
      split at read
      case h_1 kind known =>
        cases read
        have labelled : kind.label = label := by simpa using List.find?_some known
        rw [← labelled] at told
        exact .named (List.mem_of_find?_eq_some known) told
      case h_2 => cases read
    case h_4 => cases read
  · intro told
    cases told with
    | named known told =>
        rw [told]
        dsimp only
        rw [ClassKind.known?_label known]
    | inferred silent =>
        cases silent with
        | inl missing => rw [missing]
        | inr isNull => rw [isNull]

theorem exists_kind_told_by_iff :
    (∃ kind, KindToldBy className fields kind) ↔ Json.MayNameKind fields := by
  constructor
  · intro told value found
    obtain ⟨kind, told⟩ := told
    cases told with
    | named known told =>
        rw [told] at found
        cases found
        exact .inr ⟨kind, known, rfl⟩
    | inferred silent =>
        rw [found] at silent
        cases silent with
        | inl missing => cases missing
        | inr isNull => exact .inl (Option.some.inj isNull)
  · intro names
    cases found : Json.field? "kind" fields with
    | none => exact ⟨_, .inferred (.inl found)⟩
    | some value =>
        cases names value found with
        | inl isNull => exact ⟨_, .inferred (.inr (isNull ▸ found))⟩
        | inr named =>
            obtain ⟨kind, known, rfl⟩ := named
            exact ⟨kind, .named known found⟩

end Fields

namespace DumpedClass

open LibraryDetection.Text

variable {item : Json} {dumped : DumpedClass}

theorem toList_dotted (name : String) :
    (replaceChar '/' '.' name).toList =
      name.toList.map fun char => if char = '/' then '.' else char := by
  rw [replaceChar, String.toList_map]

theorem of_fields_eq_ok_iff {name : String} {fields : List (String × Json)} :
    ofFields name fields = .ok dumped ↔
      dumped.name = name ∧ KindToldBy name fields dumped.kind ∧
        Json.Answers "public" true fields dumped.isPublic ∧
        ∃ methods others, MembersToldBy "methods" true fields methods ∧
          MembersToldBy "fields" false fields others ∧ dumped.members = methods ++ others := by
  simp only [← kind_in_eq_ok_iff, ← Json.flag_eq_iff, ← @members_in_eq_ok_iff name]
  rw [ofFields]
  constructor
  · intro read
    split at read
    · cases read
    · rename_i kind toldKind
      split at read
      · cases read
      · rename_i methods toldMethods
        split at read
        · cases read
        · rename_i others toldOthers
          cases read
          exact ⟨rfl, toldKind, rfl, methods, others, toldMethods, toldOthers, rfl⟩
  · intro told
    obtain ⟨rfl, kind, isPublic, methods, others, toldMethods, toldOthers, members⟩ := told
    rw [kind]
    dsimp only
    rw [toldMethods]
    dsimp only
    rw [toldOthers]
    dsimp only
    rw [isPublic, ← members]

theorem of_json_eq_ok_iff : ofJson 0 item = .ok dumped ↔ ToldBy item dumped := by
  constructor
  · intro read
    cases item with
    | object fields =>
        rw [ofJson] at read
        split at read
        case h_1 name named =>
          split at read
          case isTrue => cases read
          case isFalse nonempty =>
            obtain ⟨dotted, kind, isPublic, methods, others, toldMethods, toldOthers, members⟩ :=
              of_fields_eq_ok_iff.1 read
            refine .object named nonempty ?_ (dotted ▸ kind) isPublic toldMethods toldOthers members
            rw [dotted, toList_dotted]
        case h_2 => cases read
    | _ => cases read
  · intro told
    cases told with
    | @object fields name _ methods others named nonempty dotted kind isPublic toldMethods
        toldOthers members =>
        have same : dumped.name = replaceChar '/' '.' name := by
          apply String.toList_injective
          rw [dotted, toList_dotted]
        rw [ofJson, named]
        dsimp only
        rw [if_neg nonempty, of_fields_eq_ok_iff]
        exact ⟨same, same ▸ kind, isPublic, methods, others, toldMethods, toldOthers, members⟩

theorem exists_told_by_iff : (∃ dumped, ToldBy item dumped) ↔ item.IsClass := by
  constructor
  · intro told
    obtain ⟨dumped, told⟩ := told
    cases told with
    | object named nonempty dotted kind isPublic toldMethods toldOthers members =>
        exact .object named nonempty (exists_kind_told_by_iff.1 ⟨_, kind⟩)
          (exists_members_told_by_iff.1 ⟨_, toldMethods⟩)
          (exists_members_told_by_iff.1 ⟨_, toldOthers⟩)
  · intro isClass
    cases isClass with
    | @object fields name named nonempty kind methods others =>
        obtain ⟨found, toldKind⟩ :=
          (@exists_kind_told_by_iff (replaceChar '/' '.' name) fields).2 kind
        obtain ⟨own, toldMethods⟩ := (@exists_members_told_by_iff _ true _).2 methods
        obtain ⟨more, toldOthers⟩ := (@exists_members_told_by_iff _ false _).2 others
        exact ⟨⟨_, found, _, own ++ more⟩, .object named nonempty (toList_dotted name) toldKind
          (Json.flag_eq_iff.1 rfl) toldMethods toldOthers rfl⟩

end DumpedClass

/-- The reader takes the values of the grammar and refuses all others; it gives the classes
that the items of the dump tell, one after the other. -/
theorem read_class_dump_follows_grammar (dump : Json) :
    ((∃ classes, readClassDump dump = .ok classes) ↔ dump.IsClassDump) ∧
      ((∃ fault, readClassDump dump = .error fault) ↔ ¬ dump.IsClassDump) ∧
      ∀ classes, readClassDump dump = .ok classes ↔
        ∃ items, dump.Lists items ∧ List.Forall₂ DumpedClass.ToldBy items classes := by
  have told : ∀ classes, readClassDump dump = .ok classes ↔
      ∃ items, dump.Lists items ∧ List.Forall₂ DumpedClass.ToldBy items classes := by
    intro classes
    rw [FileTree.read_class_dump_eq_ok_iff]
    simp only [DumpedClass.all_of_json_eq_ok_iff, DumpedClass.of_json_eq_ok_iff]
    rfl
  have accepted : (∃ classes, readClassDump dump = .ok classes) ↔ dump.IsClassDump := by
    simp only [told, Json.IsClassDump, ← DumpedClass.exists_told_by_iff, ← exists_forall₂_iff]
    constructor
    · intro read
      obtain ⟨classes, items, lists, each⟩ := read
      exact ⟨items, lists, classes, each⟩
    · intro isDump
      obtain ⟨items, lists, classes, each⟩ := isDump
      exact ⟨classes, items, lists, each⟩
  refine ⟨accepted, ?_, told⟩
  rw [← accepted]
  cases readClassDump dump <;> simp

end LibraryDetection
