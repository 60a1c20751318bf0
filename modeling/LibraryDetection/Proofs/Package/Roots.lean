import LibraryDetection.Package.Roots
import LibraryDetection.Proofs.Collection.Pairs
import LibraryDetection.Proofs.Package.Renaming

/-!
# Root packages by their classes

The way down from a package stops at the longest path that leads to all of its classes.
The roots of a tree of classes are therefore longest common prefixes of package paths: one
of all of them, or one for each first segment.
-/

namespace LibraryDetection

set_option autoImplicit false

structure LongestCommonPrefix (paths : List PackagePath) (path : PackagePath) : Prop where
  common : ∀ member ∈ paths, path <+: member
  longest : ∀ other : PackagePath, (∀ member ∈ paths, other <+: member) → other <+: path

def occupiedPaths (classes : List ClassDescriptor) : List PackagePath :=
  (classes.filter (·.kind ≠ .synthetic)).map (·.package)

theorem mem_occupied_paths {classes : List ClassDescriptor} {path : PackagePath} :
    path ∈ occupiedPaths classes ↔
      ∃ descriptor ∈ classes, descriptor.kind ≠ .synthetic ∧ descriptor.package = path := by
  simp [occupiedPaths, and_assoc]

namespace PackageNode

theorem descent_cases (node : PackageNode) :
    (∃ only, node.classes = [] ∧ node.children = [only] ∧
      node.descent = only.segment :: only.descent) ∨
    ((node.classes ≠ [] ∨ ∀ only, node.children ≠ [only]) ∧ node.descent = []) := by
  cases node with
  | mk segment classes children =>
      cases classes with
      | cons descriptor others =>
          apply Or.inr
          simp [descent]
      | nil =>
          cases children with
          | nil =>
              apply Or.inr
              simp [descent, descentAll]
          | cons only others =>
              cases others with
              | nil =>
                  apply Or.inl
                  exact ⟨only, rfl, rfl, by simp [descent, descentAll]⟩
              | cons second rest =>
                  apply Or.inr
                  simp [descent, descentAll]

theorem descent_of_only {node only : PackageNode} (empty : node.classes = [])
    (single : node.children = [only]) : node.descent = only.segment :: only.descent := by
  cases descent_cases node with
  | inr stops => simp [empty, single] at stops
  | inl goes =>
      obtain ⟨child, _, isOnly, down⟩ := goes
      have same : child = only := by simpa [single] using isOnly.symm
      rw [down, same]

theorem exists_find?_descent (node : PackageNode) :
    ∃ found, node.find? node.descent = some found := by
  induction node with
  | node segment classes children ih =>
      cases descent_cases ⟨segment, classes, children⟩ with
      | inl goes =>
          obtain ⟨only, _, single, down⟩ := goes
          change children = [only] at single
          subst single
          obtain ⟨found, present⟩ := ih only List.mem_cons_self
          rw [down]
          exact ⟨found, by simp [find?, present]⟩
      | inr stops =>
          rw [stops.2]
          exact ⟨_, rfl⟩

variable {node : PackageNode} {path : PackagePath} {member : ClassDescriptor}

theorem class_count_pos_of_mem_classes_at (held : member ∈ classesAt path node) :
    0 < node.classCount := by
  induction path generalizing node with
  | nil =>
      have own : 0 < node.classes.length := List.length_pos_of_mem held
      rw [class_count_eq]
      omega
  | cons segment rest ih =>
      rw [classes_at_cons] at held
      cases found : node.children.find? (·.segment = segment) with
      | none => simp [found] at held
      | some child =>
          simp only [found] at held
          exact class_count_pos_of_child node (List.mem_of_find?_eq_some found) (ih held)

theorem descent_is_prefix_of_mem (held : member ∈ classesAt path node) : node.descent <+: path := by
  induction node generalizing path with
  | node segment classes children ih =>
      cases descent_cases ⟨segment, classes, children⟩ with
      | inr stops =>
          rw [stops.2]
          exact List.nil_prefix
      | inl goes =>
          obtain ⟨only, empty, single, down⟩ := goes
          change classes = [] at empty
          change children = [only] at single
          subst empty
          subst single
          rw [down]
          cases path with
          | nil => simp [classes_at_nil] at held
          | cons first rest =>
              rw [classes_at_cons] at held
              by_cases named : only.segment = first
              · simp only [List.find?_cons, named, decide_true] at held
                rw [named, List.cons_prefix_cons]
                exact ⟨rfl, ih only List.mem_cons_self held⟩
              · simp [named] at held

theorem one_lt_length_children_iff
    (ordered : node.children.Pairwise fun a b => a.segment < b.segment) :
    1 < node.children.length ↔
      ∃ one ∈ node.children.map (·.segment), ∃ other ∈ node.children.map (·.segment),
        one ≠ other := by
  match children : node.children with
  | [] => simp
  | [only] => simp
  | one :: other :: rest =>
      rw [children] at ordered
      have before : one.segment < other.segment := by
        apply (List.pairwise_cons.1 ordered).1
        simp
      simp only [List.length_cons, Nat.lt_add_left_iff_pos, Nat.zero_lt_succ, true_iff]
      exact ⟨one.segment, by simp, other.segment, by simp, ne_of_lt before⟩

theorem exists_only_child (wellFormed : node.WellFormed) (inhabited : 0 < node.classCount)
    (empty : node.classes = []) {first : String}
    (named : ∀ child ∈ node.children, child.segment = first) :
    ∃ only, node.children = [only] := by
  have some : node.children ≠ [] := by
    intro none
    simp [class_count_eq, empty, none, classCountAll] at inhabited
  have atMost : ¬ 1 < node.children.length := by
    rw [one_lt_length_children_iff wellFormed.ordered]
    intro several
    obtain ⟨one, isOne, other, isOther, different⟩ := several
    obtain ⟨child, isChild, rfl⟩ := List.mem_map.1 isOne
    obtain ⟨second, isSecond, rfl⟩ := List.mem_map.1 isOther
    exact different ((named child isChild).trans (named second isSecond).symm)
  have atLeast := List.length_pos_of_ne_nil some
  apply List.length_eq_one_iff.1
  omega

theorem is_prefix_descent_of_common (wellFormed : node.WellFormed) (inhabited : 0 < node.classCount)
    {other : PackagePath}
    (common : ∀ path member, member ∈ classesAt path node → other <+: path) :
    other <+: node.descent := by
  induction other generalizing node with
  | nil => exact List.nil_prefix
  | cons first rest ih =>
      have empty : node.classes = [] := by
        apply List.eq_nil_iff_forall_not_mem.2
        intro member own
        have below := common [] member own
        simp at below
      have named : ∀ child ∈ node.children, child.segment = first := by
        intro child isChild
        obtain ⟨path, member, held⟩ :=
          exists_class_of_pos (wellFormed.within child isChild) (wellFormed.inhabited child isChild)
        rw [← classes_at_child wellFormed isChild] at held
        have below := common _ member held
        simp only [List.cons_prefix_cons] at below
        exact below.1.symm
      obtain ⟨only, single⟩ := exists_only_child wellFormed inhabited empty named
      have isChild : only ∈ node.children := by simp [single]
      rw [descent_of_only empty single, named only isChild, List.cons_prefix_cons]
      apply And.intro rfl
      apply ih (wellFormed.within only isChild) (wellFormed.inhabited only isChild)
      intro path member held
      rw [← classes_at_child wellFormed isChild] at held
      have below := common _ member held
      simp only [List.cons_prefix_cons] at below
      exact below.2

end PackageNode

namespace PackageTree

open PackageNode

section OfClasses

variable {classes : List ClassDescriptor} {tree : PackageTree} {start : PackagePath}
  {node : PackageNode}

/-- The classes at and below a package agree in the path of its dominant root and in no
longer one. -/
theorem longest_common_prefix_descent (made : ofClasses classes = .ok tree)
    (present : tree.root.find? start = some node) (inhabited : 0 < node.classCount)
    {paths : List PackagePath}
    (those : ∀ path, path ∈ paths ↔ path ∈ occupiedPaths classes ∧ start <+: path) :
    LongestCommonPrefix paths (start ++ node.descent) := by
  have formed := well_formed_of_find? (well_formed_of_of_classes made) present
  have held : ∀ rest, start ++ rest ∈ paths ↔ ∃ member, member ∈ classesAt rest node := by
    intro rest
    rw [those, mem_occupied_paths, ← classes_at_append start rest present]
    simp [mem_classes_at_of_classes made]
  have below : ∀ path ∈ paths, ∃ rest, path = start ++ rest := by
    intro path isPath
    obtain ⟨rest, same⟩ := ((those path).1 isPath).2
    exact ⟨rest, same.symm⟩
  constructor
  · intro path isPath
    obtain ⟨rest, rfl⟩ := below path isPath
    obtain ⟨member, inside⟩ := (held rest).1 isPath
    exact (List.prefix_append_right_inj start).2 (descent_is_prefix_of_mem inside)
  · intro other common
    obtain ⟨first, one, inside⟩ := exists_class_of_pos formed inhabited
    have isPath := (held first).2 ⟨one, inside⟩
    cases List.prefix_or_prefix_of_prefix (common _ isPath) (List.prefix_append start first) with
    | inl short => exact short.trans (List.prefix_append start _)
    | inr long =>
        obtain ⟨more, rfl⟩ := long
        apply (List.prefix_append_right_inj start).2
        apply is_prefix_descent_of_common formed inhabited
        intro rest member inNode
        have within := common _ ((held rest).2 ⟨member, inNode⟩)
        exact (List.prefix_append_right_inj start).1 within

theorem singleton_prefix_iff (first : String) (path : PackagePath) :
    [first] <+: path ↔ path.head? = some first := by
  cases path with
  | nil => simp
  | cons segment rest => simp [List.cons_prefix_cons, eq_comm]

theorem mem_top_level_iff (made : ofClasses classes = .ok tree) (first : String) :
    first ∈ tree.root.children.map (·.segment) ↔
      ∃ path ∈ occupiedPaths classes, path.head? = some first := by
  have root : tree.root.find? [] = some tree.root := rfl
  rw [segment_mem_children_iff made root, IsPackage]
  simp only [List.nil_append, List.cons_ne_nil, false_or, singleton_prefix_iff, mem_occupied_paths]
  constructor
  · intro below
    obtain ⟨descriptor, isClass, kept, starts⟩ := below
    exact ⟨descriptor.package, ⟨descriptor, isClass, kept, rfl⟩, starts⟩
  · intro below
    obtain ⟨path, ⟨descriptor, isClass, kept, rfl⟩, starts⟩ := below
    exact ⟨descriptor, isClass, kept, starts⟩

theorem isEmpty_root_classes_iff (made : ofClasses classes = .ok tree) :
    tree.root.classes.isEmpty = true ↔ [] ∉ occupiedPaths classes := by
  have root : tree.root.find? [] = some tree.root := rfl
  rw [List.isEmpty_iff, List.eq_nil_iff_forall_not_mem, mem_occupied_paths]
  simp [mem_classes_of_find? made root]

/-- There are several roots when no class is in the default package and the paths of the
classes do not all start alike. -/
theorem has_multiple_roots_iff (made : ofClasses classes = .ok tree) :
    tree.hasMultipleRoots = true ↔
      [] ∉ occupiedPaths classes ∧
        ∃ one ∈ occupiedPaths classes, ∃ other ∈ occupiedPaths classes,
          one.head? ≠ other.head? := by
  rw [hasMultipleRoots, Bool.and_eq_true, decide_eq_true_eq, isEmpty_root_classes_iff made,
    and_comm, and_congr_right_iff,
    one_lt_length_children_iff (well_formed_of_of_classes made).ordered]
  simp only [mem_top_level_iff made]
  intro noDefault
  constructor
  · intro several
    obtain ⟨one, ⟨path, isPath, starts⟩, other, ⟨second, isSecond, secondStarts⟩, different⟩ :=
      several
    refine ⟨path, isPath, second, isSecond, ?_⟩
    rw [starts, secondStarts]
    simpa using different
  · intro unlike
    obtain ⟨path, isPath, second, isSecond, different⟩ := unlike
    have starts : ∀ member ∈ occupiedPaths classes, ∃ first, member.head? = some first := by
      intro member isMember
      cases member with
      | nil => exact absurd isMember noDefault
      | cons first rest => exact ⟨first, rfl⟩
    obtain ⟨first, atFirst⟩ := starts path isPath
    obtain ⟨other, atOther⟩ := starts second isSecond
    rw [atFirst, atOther] at different
    exact ⟨first, ⟨path, isPath, atFirst⟩, other, ⟨second, isSecond, atOther⟩,
      fun same => different (congrArg some same)⟩

/-- What root detection finds in the tree of some classes: where they all begin, whether they
begin apart, and then where those of each top-level package begin. -/
structure RootsFound (classes : List ClassDescriptor) (tree : PackageTree) : Prop where
  rootPath : LongestCommonPrefix (occupiedPaths classes) tree.rootPath
  unnamed_iff : tree.rootPackage? = none ↔ tree.hasMultipleRoots = true
  multiple_iff : tree.hasMultipleRoots = true ↔
    [] ∉ occupiedPaths classes ∧
      ∃ one ∈ occupiedPaths classes, ∃ other ∈ occupiedPaths classes, one.head? ≠ other.head?
  /-- One root for each first segment, in the order of these segments. -/
  grouped : tree.hasMultipleRoots = true → ∃ firsts : List String,
    firsts.Pairwise (· < ·) ∧
    (∀ first, first ∈ firsts ↔ ∃ path ∈ occupiedPaths classes, path.head? = some first) ∧
    List.Forall₂ (fun first root =>
        LongestCommonPrefix ((occupiedPaths classes).filter (·.head? = some first)) root)
      firsts tree.topLevelRoots
  single : tree.hasMultipleRoots = false → tree.topLevelRoots = [tree.rootPath]

theorem grouped_top_level_roots (made : ofClasses classes = .ok tree)
    (several : tree.hasMultipleRoots = true) :
    List.Forall₂ (fun first root =>
        LongestCommonPrefix ((occupiedPaths classes).filter (·.head? = some first)) root)
      (tree.root.children.map (·.segment)) tree.topLevelRoots := by
  have formed := well_formed_of_of_classes made
  rw [topLevelRoots, if_pos several, List.forall₂_map_left_iff, List.forall₂_map_right_iff,
    List.forall₂_same]
  intro child isChild
  have root : tree.root.find? [] = some tree.root := rfl
  have present : tree.root.find? [child.segment] = some child := find?_child formed root isChild
  apply longest_common_prefix_descent made present (formed.inhabited child isChild)
  intro path
  rw [List.mem_filter, decide_eq_true_eq, singleton_prefix_iff]

/-- Root detection finds longest common prefixes, whatever the classes: of all of them for the
dominant root, and of those with one first segment for the root of a top-level package. -/
theorem roots_of_classes
    (valid : ∀ descriptor ∈ classes, descriptor.kind ≠ .synthetic → descriptor.package.Valid)
    (inhabited : ∃ descriptor ∈ classes, descriptor.kind ≠ .synthetic) :
    ∃ tree, ofClasses classes = .ok tree ∧ RootsFound classes tree := by
  obtain ⟨tree, made⟩ := of_classes_is_ok_iff.2 valid
  obtain ⟨descriptor, isClass, kept⟩ := inhabited
  have held : descriptor ∈ classesAt descriptor.package tree.root :=
    (mem_classes_at_of_classes made _ _).2 ⟨isClass, kept, rfl⟩
  have root : tree.root.find? [] = some tree.root := rfl
  refine ⟨tree, made, ?_⟩
  constructor
  · apply longest_common_prefix_descent made root (class_count_pos_of_mem_classes_at held)
    simp
  · simp [rootPackage?]
  · exact has_multiple_roots_iff made
  · intro several
    exact ⟨tree.root.children.map (·.segment),
      List.pairwise_map.2 (well_formed_of_of_classes made).ordered, mem_top_level_iff made,
      grouped_top_level_roots made several⟩
  · intro one
    simp [topLevelRoots, one]

end OfClasses

/-- Two packages below one of `com`, a third under `org`, and a synthetic class beside them. -/
def companyClasses : List ClassDescriptor :=
  [ClassDescriptor.make ["com", "codec", "text"] "Codec" ["encode()V"] .topLevel,
    ClassDescriptor.make ["org", "table", "row"] "Table$Row" [] .inner,
    ClassDescriptor.make ["com", "codec", "binary"] "Base" [] .enumeration,
    ClassDescriptor.make [] "Bridge" [] .synthetic]

theorem roots_of_companies :
    (∀ descriptor ∈ companyClasses, descriptor.kind ≠ .synthetic → descriptor.package.Valid) ∧
      (∃ descriptor ∈ companyClasses, descriptor.kind ≠ .synthetic) ∧
      ∃ tree, ofClasses companyClasses = .ok tree ∧ RootsFound companyClasses tree := by
  have valid : ∀ descriptor ∈ companyClasses, descriptor.kind ≠ .synthetic →
      descriptor.package.Valid := of_classes_is_ok_iff.1 ⟨_, rfl⟩
  have inhabited : ∃ descriptor ∈ companyClasses, descriptor.kind ≠ .synthetic := by decide
  exact ⟨valid, inhabited, roots_of_classes valid inhabited⟩

example : (ofClasses companyClasses).map topLevelRoots =
    .ok [["com", "codec"], ["org", "table", "row"]] := rfl

section Renamed

variable {names : Renaming} {classes : List ClassDescriptor} {tree renamed : PackageTree}

theorem exists_find?_iff_is_package (made : ofClasses classes = .ok tree) (path : PackagePath) :
    (∃ node, tree.root.find? path = some node) ↔ IsPackage classes path := by
  constructor
  · intro found
    obtain ⟨node, present⟩ := found
    cases List.eq_nil_or_concat path with
    | inl empty => exact .inl empty
    | inr last =>
        obtain ⟨front, segment, rfl⟩ := last
        rw [List.concat_eq_append, find?_append, Option.bind_eq_some_iff] at present
        obtain ⟨parent, atParent, isChild⟩ := present
        rw [List.concat_eq_append]
        apply (segment_mem_children_iff made atParent segment).1
        rw [PackageNode.find?] at isChild
        cases child : parent.children.find? (·.segment = segment) with
        | none => simp [child] at isChild
        | some found =>
            apply List.mem_map.2
            exact ⟨found, List.mem_of_find?_eq_some child, by simpa using List.find?_some child⟩
  · intro isPackage
    cases isPackage with
    | inl empty => exact ⟨tree.root, by rw [empty, PackageNode.find?]⟩
    | inr below =>
        obtain ⟨descriptor, isClass, kept, rest, place⟩ := below
        have held := (mem_classes_at_of_classes made _ descriptor).2 ⟨isClass, kept, place.symm⟩
        obtain ⟨whole, found⟩ := find?_isSome_of_mem_classes_at held
        rw [find?_append, Option.bind_eq_some_iff] at found
        obtain ⟨node, present, _⟩ := found
        exact ⟨node, present⟩

variable (keeps : names.KeepsShape classes) (made : ofClasses classes = .ok tree)
  (renamedMade : ofClasses (classes.map names.apply) = .ok renamed)

include keeps made renamedMade

theorem descent_renamed {path : PackagePath} {node image : PackageNode}
    (isPackage : IsPackage classes path) (present : tree.root.find? path = some node)
    (imagePresent : renamed.root.find? (names.package path) = some image) :
    names.package (path ++ node.descent) = names.package path ++ image.descent := by
  induction node generalizing path image with
  | node segment own children ih =>
      have ownPerm := classes_perm_renamed keeps made renamedMade isPackage present imagePresent
      have childPerm := children_perm_renamed keeps made renamedMade isPackage present imagePresent
      have ownEmpty : own = [] ↔ image.classes = [] := by
        have sizes := ownPerm.length_eq
        rw [List.length_map] at sizes
        rw [← List.length_eq_zero_iff, ← List.length_eq_zero_iff, ← sizes]
      have sameNumber : children.length = image.children.length := by
        simpa using childPerm.length_eq
      cases descent_cases ⟨segment, own, children⟩ with
      | inr stops =>
          have imageStops : image.descent = [] := by
            cases descent_cases image with
            | inr stopped => exact stopped.2
            | inl goes =>
                obtain ⟨partner, empty, single, _⟩ := goes
                rw [single, List.length_singleton, List.length_eq_one_iff] at sameNumber
                obtain ⟨only, isOnly⟩ := sameNumber
                simp [ownEmpty.2 empty, isOnly] at stops
          rw [stops.2, imageStops, List.append_nil, List.append_nil]
      | inl goes =>
          obtain ⟨only, empty, single, down⟩ := goes
          change children = [only] at single
          subst single
          obtain ⟨partner, isPartner⟩ := List.length_eq_one_iff.1 sameNumber.symm
          have samePlace : names.package (path ++ [only.segment]) =
              names.package path ++ [partner.segment] := by
            simpa [isPartner] using childPerm
          have imageDown := descent_of_only (ownEmpty.1 empty) isPartner
          have isOnly : only ∈ [only] := List.mem_cons_self
          have onlyIs := (segment_mem_children_iff made present only.segment).1 (by simp)
          have onlyPresent := find?_child (well_formed_of_of_classes made) present isOnly
          have partnerPresent := find?_child (well_formed_of_of_classes renamedMade) imagePresent
            (isPartner ▸ List.mem_cons_self : partner ∈ image.children)
          rw [← samePlace] at partnerPresent
          have below := ih only isOnly onlyIs onlyPresent partnerPresent
          rw [down, imageDown, List.append_cons, below, samePlace, List.append_assoc]
          rfl

theorem root_path_renamed : renamed.rootPath = names.package tree.rootPath := by
  have imageRoot : renamed.root.find? (names.package []) = some renamed.root := by
    rw [keeps.root, PackageNode.find?]
  have way := descent_renamed keeps made renamedMade (.inl rfl) rfl imageRoot
  rw [keeps.root] at way
  exact way.symm

theorem top_level_roots_perm_renamed :
    (tree.topLevelRoots.map names.package).Perm renamed.topLevelRoots := by
  have root : tree.root.find? [] = some tree.root := rfl
  have imageRoot : renamed.root.find? (names.package []) = some renamed.root := by
    rw [keeps.root, PackageNode.find?]
  have ownPerm := classes_perm_renamed keeps made renamedMade (.inl rfl) root imageRoot
  have childPerm := children_perm_renamed keeps made renamedMade (.inl rfl) root imageRoot
  have sameMultiple : tree.hasMultipleRoots = renamed.hasMultipleRoots := by
    have sizes := childPerm.length_eq
    rw [List.length_map, List.length_map] at sizes
    rw [hasMultipleRoots, hasMultipleRoots, sizes, ← ownPerm.isEmpty_eq, List.isEmpty_map]
  rw [topLevelRoots, topLevelRoots, sameMultiple]
  split
  case isFalse => rw [List.map_singleton, ← root_path_renamed keeps made renamedMade]
  case isTrue several =>
    obtain ⟨partners, order, pairs⟩ := exists_pairs_of_map_perm childPerm
    rw [List.map_map]
    apply map_perm_of_pairs order pairs
    intro child isChild partner isPartner samePlace
    have childIs := (segment_mem_children_iff made root child.segment).1
      (List.mem_map_of_mem isChild)
    have childPresent := find?_child (well_formed_of_of_classes made) root isChild
    have partnerPresent := find?_child (well_formed_of_of_classes renamedMade) imageRoot isPartner
    rw [← samePlace] at partnerPresent
    have way := descent_renamed keeps made renamedMade childIs childPresent partnerPresent
    rw [samePlace, keeps.root] at way
    exact way

end Renamed

end PackageTree

end LibraryDetection
