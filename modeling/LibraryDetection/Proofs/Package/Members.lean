import LibraryDetection.Proofs.Package.Tree

/-!
# Classes by path

A package tree read as the classes it holds at each path.  Adding a class changes what is
read at the path of its package and nowhere else, so that a tree of classes holds at each
path the classes of that package and no others, in whatever order they came.
-/

namespace LibraryDetection

set_option autoImplicit false

namespace PackageNode

/-- The own classes of the package at a path, none where there is no package. -/
def classesAt (path : PackagePath) (node : PackageNode) : List ClassDescriptor :=
  match node.find? path with
  | some found => found.classes
  | none => []

theorem find?_append (path rest : PackagePath) (node : PackageNode) :
    find? (path ++ rest) node = (find? path node).bind (find? rest) := by
  induction path generalizing node with
  | nil => rfl
  | cons segment path ih =>
      simp only [List.cons_append, find?]
      cases node.children.find? (·.segment = segment) with
      | none => rfl
      | some child => exact ih child

theorem classes_at_append (path rest : PackagePath) {node found : PackageNode}
    (present : node.find? path = some found) :
    classesAt (path ++ rest) node = classesAt rest found := by
  rw [classesAt, find?_append, present]
  rfl

theorem classes_at_nil (node : PackageNode) : classesAt [] node = node.classes := rfl

theorem classes_at_cons (segment : String) (rest : PackagePath) (node : PackageNode) :
    classesAt (segment :: rest) node =
      match node.children.find? (·.segment = segment) with
      | some child => classesAt rest child
      | none => [] := by
  rw [classesAt, find?]
  cases node.children.find? (·.segment = segment) <;> rfl

theorem classes_at_bare (segment : String) (path : PackagePath) :
    classesAt path (bare segment) = [] := by
  cases path <;> rfl

theorem classes_at_child {node child : PackageNode} (wellFormed : node.WellFormed)
    (member : child ∈ node.children) (rest : PackagePath) :
    classesAt (child.segment :: rest) node = classesAt rest child := by
  rw [classes_at_cons, find?_of_mem wellFormed.ordered member]

theorem mem_classes_at_insert (descriptor : ClassDescriptor) (path : PackagePath)
    {node : PackageNode} (wellFormed : node.WellFormed) (member : ClassDescriptor)
    (other : PackagePath) :
    member ∈ classesAt other (insert descriptor path node) ↔
      (member = descriptor ∧ other = path) ∨ member ∈ classesAt other node := by
  induction path generalizing node other with
  | nil =>
      cases other with
      | nil =>
          rw [classes_at_nil, classes_at_nil]
          simp only [insert, List.mem_insert_iff, and_true]
      | cons segment rest =>
          rw [classes_at_cons, classes_at_cons]
          simp only [insert, reduceCtorEq, and_false, false_or]
  | cons segment path ih =>
      cases other with
      | nil =>
          rw [classes_at_nil, classes_at_nil]
          simp only [insert, reduceCtorEq, and_false, false_or]
      | cons place rest =>
          rw [classes_at_cons, classes_at_cons]
          simp only [insert]
          rw [find?_change_child (segment_insert descriptor path) wellFormed.ordered]
          by_cases same : place = segment
          · subst same
            simp only [if_true, List.cons.injEq, true_and]
            cases found : node.children.find? (·.segment = place) with
            | none =>
                rw [Option.getD_none, ih (well_formed_bare place), classes_at_bare]
            | some child =>
                have inside := wellFormed.within child (List.mem_of_find?_eq_some found)
                rw [Option.getD_some, ih inside]
          · simp only [same, if_false, List.cons.injEq, false_and, and_false, false_or]

theorem exists_mem_of_class_count_all_pos {children : List PackageNode}
    (inhabited : 0 < classCountAll children) : ∃ child ∈ children, 0 < child.classCount := by
  induction children with
  | nil => exact absurd inhabited (by simp [classCountAll])
  | cons head others ih =>
      rw [classCountAll] at inhabited
      by_cases here : 0 < head.classCount
      · exact ⟨head, List.mem_cons_self, here⟩
      · obtain ⟨child, member, below⟩ := ih (by omega)
        exact ⟨child, List.mem_cons_of_mem head member, below⟩

theorem exists_class_of_pos {node : PackageNode} (wellFormed : node.WellFormed)
    (inhabited : 0 < node.classCount) : ∃ path member, member ∈ classesAt path node := by
  induction node with
  | node segment classes children ih =>
      rw [class_count_eq] at inhabited
      cases classes with
      | cons descriptor others => exact ⟨[], descriptor, List.mem_cons_self⟩
      | nil =>
          simp only [List.length_nil, Nat.zero_add] at inhabited
          obtain ⟨child, isChild, below⟩ := exists_mem_of_class_count_all_pos inhabited
          obtain ⟨path, member, found⟩ := ih child isChild (wellFormed.within child isChild) below
          refine ⟨child.segment :: path, member, ?_⟩
          rw [classes_at_child wellFormed isChild]
          exact found

theorem find?_isSome_of_mem_classes_at {path : PackagePath} {node : PackageNode}
    {member : ClassDescriptor} (found : member ∈ classesAt path node) :
    ∃ package, node.find? path = some package := by
  rw [classesAt] at found
  cases present : node.find? path with
  | some package => exact ⟨package, rfl⟩
  | none =>
      rw [present] at found
      exact absurd found List.not_mem_nil

theorem well_formed_of_find? {path : PackagePath} {node found : PackageNode}
    (wellFormed : node.WellFormed) (present : node.find? path = some found) :
    found.WellFormed := by
  induction path generalizing node with
  | nil =>
      rw [find?, Option.some.injEq] at present
      exact present ▸ wellFormed
  | cons segment rest ih =>
      rw [find?] at present
      cases isChild : node.children.find? (·.segment = segment) with
      | none => simp [isChild] at present
      | some child =>
          rw [isChild] at present
          exact ih (wellFormed.within child (List.mem_of_find?_eq_some isChild)) present

theorem segment_of_find? {segment : String} {path : PackagePath} {node found : PackageNode}
    (present : node.find? (segment :: path) = some found) :
    found.segment = (segment :: path).getLast (List.cons_ne_nil segment path) := by
  induction path generalizing node segment with
  | nil =>
      rw [find?] at present
      cases isChild : node.children.find? (·.segment = segment) with
      | none => simp [isChild] at present
      | some child =>
          simp only [isChild, find?, Option.some.injEq] at present
          have named := List.find?_some isChild
          rw [← present, List.getLast_singleton]
          exact of_decide_eq_true named
  | cons next rest ih =>
      rw [find?] at present
      cases isChild : node.children.find? (·.segment = segment) with
      | none => simp [isChild] at present
      | some child =>
          rw [isChild] at present
          rw [List.getLast_cons (List.cons_ne_nil next rest)]
          exact ih present

theorem segment_mem_children {one other : PackageNode} (wellFormed : one.WellFormed)
    (part : ∀ path member, member ∈ classesAt path one → member ∈ classesAt path other) :
    ∀ segment ∈ one.children.map (·.segment), segment ∈ other.children.map (·.segment) := by
  intro segment member
  obtain ⟨child, isChild, rfl⟩ := List.mem_map.1 member
  obtain ⟨path, descriptor, found⟩ :=
    exists_class_of_pos (wellFormed.within child isChild) (wellFormed.inhabited child isChild)
  rw [← classes_at_child wellFormed isChild] at found
  have there := part _ descriptor found
  rw [classes_at_cons] at there
  cases present : other.children.find? (·.segment = child.segment) with
  | none => simp [present] at there
  | some partner =>
      have named := List.find?_some present
      simp only [decide_eq_true_eq] at named
      exact List.mem_map.2 ⟨partner, List.mem_of_find?_eq_some present, named⟩

theorem map_segment_children_eq {left right : PackageNode} (leftFormed : left.WellFormed)
    (rightFormed : right.WellFormed)
    (same : ∀ path member, member ∈ classesAt path left ↔ member ∈ classesAt path right) :
    left.children.map (·.segment) = right.children.map (·.segment) := by
  have leftOrder : (left.children.map (·.segment)).Pairwise (· < ·) :=
    List.pairwise_map.2 leftFormed.ordered
  have rightOrder : (right.children.map (·.segment)).Pairwise (· < ·) :=
    List.pairwise_map.2 rightFormed.ordered
  refine List.Perm.eq_of_pairwise ?_ leftOrder rightOrder ?_
  · intro a b _ _ first second
    exact absurd second (lt_asymm first)
  · apply (List.perm_ext_iff_of_nodup (leftOrder.imp ne_of_lt) (rightOrder.imp ne_of_lt)).2
    intro segment
    constructor
    · apply segment_mem_children leftFormed
      intro path member
      exact (same path member).1
    · apply segment_mem_children rightFormed
      intro path member
      exact (same path member).2

theorem forall₂_children {left right : PackageNode} (leftFormed : left.WellFormed)
    (rightFormed : right.WellFormed)
    (same : ∀ path member, member ∈ classesAt path left ↔ member ∈ classesAt path right) :
    List.Forall₂ (fun a b => a ∈ left.children ∧ b ∈ right.children ∧ a.segment = b.segment ∧
        ∀ path member, member ∈ classesAt path a ↔ member ∈ classesAt path b)
      left.children right.children := by
  have segments := map_segment_children_eq leftFormed rightFormed same
  have lengths : left.children.length = right.children.length := by
    have mapped := congrArg List.length segments
    rwa [List.length_map, List.length_map] at mapped
  refine List.forall₂_iff_get.2 ⟨lengths, ?_⟩
  intro index leftBound rightBound
  have isLeft := List.get_mem left.children ⟨index, leftBound⟩
  have isRight := List.get_mem right.children ⟨index, rightBound⟩
  have named : (left.children.get ⟨index, leftBound⟩).segment =
      (right.children.get ⟨index, rightBound⟩).segment := by
    have entry := congrArg (fun texts : List String => texts[index]?) segments
    simpa [leftBound, rightBound] using entry
  refine ⟨isLeft, isRight, named, ?_⟩
  intro path member
  rw [← classes_at_child leftFormed isLeft, ← classes_at_child rightFormed isRight, named]
  exact same _ member

end PackageNode

namespace PackageTree

open PackageNode

theorem add_in_place_eq (tree : PackageTree) (descriptor : ClassDescriptor) :
    addInPlace descriptor tree =
      match descriptor.malformed? with
      | some malformed => .error malformed tree
      | none => .ok () ⟨tree.root.insert descriptor descriptor.package⟩ := by
  rw [addInPlace]
  cases descriptor.malformed? <;> rfl

theorem add_eq_ok_iff (tree grown : PackageTree) (descriptor : ClassDescriptor) :
    tree.add descriptor = .ok grown ↔
      descriptor.package.Valid ∧ grown = ⟨tree.root.insert descriptor descriptor.package⟩ := by
  rw [add, add_in_place_eq, ClassDescriptor.malformed?, ← PackagePath.fault?_eq_none_iff]
  cases descriptor.package.fault? with
  | some fault => simp
  | none => simp [eq_comm]

theorem add_all_spec {classes : List ClassDescriptor} {tree grown : PackageTree}
    (wellFormed : tree.root.WellFormed) (added : tree.addAll classes = .ok grown) :
    grown.root.WellFormed ∧ grown.root.segment = tree.root.segment ∧
      ∀ path member, member ∈ classesAt path grown.root ↔
        (member ∈ classes ∧ member.package = path) ∨ member ∈ classesAt path tree.root := by
  induction classes generalizing tree with
  | nil =>
      rw [addAll, Except.ok.injEq] at added
      subst added
      exact ⟨wellFormed, rfl, fun path member => by simp⟩
  | cons descriptor rest ih =>
      rw [addAll] at added
      cases step : tree.add descriptor with
      | error malformed => simp [step] at added
      | ok next =>
          rw [step] at added
          obtain ⟨_, rfl⟩ := (add_eq_ok_iff tree next descriptor).1 step
          obtain ⟨formed, named, held⟩ := ih (well_formed_insert _ _ wellFormed) added
          refine ⟨formed, named.trans (segment_insert _ _ _), ?_⟩
          intro path member
          rw [held path member, mem_classes_at_insert _ _ wellFormed, List.mem_cons]
          constructor
          · rintro (⟨inRest, place⟩ | ⟨rfl, rfl⟩ | before)
            · exact .inl ⟨.inr inRest, place⟩
            · exact .inl ⟨.inl rfl, rfl⟩
            · exact .inr before
          · rintro (⟨rfl | inRest, place⟩ | before)
            · exact .inr (.inl ⟨rfl, place.symm⟩)
            · exact .inl ⟨inRest, place⟩
            · exact .inr (.inr before)

theorem well_formed_empty : empty.root.WellFormed := well_formed_bare ""

theorem add_all_is_ok_iff (tree : PackageTree) (classes : List ClassDescriptor) :
    (∃ grown, tree.addAll classes = .ok grown) ↔
      ∀ descriptor ∈ classes, descriptor.package.Valid := by
  induction classes generalizing tree with
  | nil => simp [addAll]
  | cons descriptor rest ih =>
      rw [addAll, List.forall_mem_cons]
      cases step : tree.add descriptor with
      | error malformed =>
          have refused : ¬ descriptor.package.Valid := by
            intro valid
            have accepted := (add_eq_ok_iff tree _ descriptor).2 ⟨valid, rfl⟩
            rw [step] at accepted
            cases accepted
          simp [refused]
      | ok next =>
          have valid := ((add_eq_ok_iff tree next descriptor).1 step).1
          simp only [ih next, valid, true_and]

section OfClasses

variable {classes : List ClassDescriptor} {tree : PackageTree}

theorem well_formed_of_of_classes (made : ofClasses classes = .ok tree) : tree.root.WellFormed :=
  (add_all_spec well_formed_empty made).1

theorem segment_of_of_classes (made : ofClasses classes = .ok tree) : tree.root.segment = "" :=
  (add_all_spec well_formed_empty made).2.1

theorem mem_classes_at_of_classes (made : ofClasses classes = .ok tree) (path : PackagePath)
    (member : ClassDescriptor) :
    member ∈ classesAt path tree.root ↔
      member ∈ classes ∧ member.kind ≠ .synthetic ∧ member.package = path := by
  have nothing : classesAt path empty.root = [] := classes_at_bare "" path
  rw [(add_all_spec well_formed_empty made).2.2 path member, nothing]
  simp [List.mem_filter, and_assoc]

theorem of_classes_is_ok_iff :
    (∃ tree, ofClasses classes = .ok tree) ↔
      ∀ member ∈ classes, member.kind ≠ .synthetic → member.package.Valid := by
  rw [ofClasses, add_all_is_ok_iff]
  simp [List.mem_filter]

end OfClasses

end PackageTree

end LibraryDetection
