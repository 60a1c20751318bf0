import LibraryDetection.Proofs.Package.Walk
import Mathlib.Data.List.Induction

/-!
# Runs of calls that add classes

A package tree in hand is changed by one call after another, each of which adds a class or
fails.  One invariant carries a run: the packages are in order, and each holds the classes
of its own path that were taken.  What the tree looks like after any run follows from it.
-/

namespace LibraryDetection

set_option autoImplicit false

open LibraryDetection.Text

namespace PackageTree

open PackageNode

/-- The tree after some calls, and the classes of those calls that did not fail. -/
structure Growth where
  tree : PackageTree
  taken : List ClassDescriptor

namespace Growth

def call (state : Growth) (descriptor : ClassDescriptor) : Growth :=
  match addInPlace descriptor state.tree with
  | .ok _ tree => ⟨tree, state.taken ++ [descriptor]⟩
  | .error _ tree => ⟨tree, state.taken⟩

def after (calls : List ClassDescriptor) : Growth := calls.foldl call ⟨PackageTree.empty, []⟩

theorem call_eq (state : Growth) (descriptor : ClassDescriptor) :
    state.call descriptor =
      if descriptor.package.fault? = none then
        ⟨⟨state.tree.root.insert descriptor descriptor.package⟩, state.taken ++ [descriptor]⟩
      else state := by
  rw [call, add_in_place_eq, ClassDescriptor.malformed?]
  cases descriptor.package.fault? <;> rfl

theorem taken_after (calls : List ClassDescriptor) :
    (after calls).taken = calls.filter fun descriptor => descriptor.package.fault? = none := by
  induction calls using List.reverseRecOn with
  | nil => rfl
  | append_singleton calls descriptor ih =>
      rw [after, List.foldl_concat, ← after, call_eq, List.filter_append, ← ih]
      by_cases valid : descriptor.package.fault? = none <;> simp [valid]

/-- The packages are in order, and at each path stand the classes of that package that were
taken. -/
structure Sound (state : Growth) : Prop where
  formed : state.tree.root.WellFormed
  named : state.tree.root.segment = ""
  valid : ∀ descriptor ∈ state.taken, descriptor.package.Valid
  held : ∀ path descriptor, descriptor ∈ classesAt path state.tree.root ↔
    descriptor ∈ state.taken ∧ descriptor.package = path

theorem sound_empty : Sound ⟨PackageTree.empty, []⟩ where
  formed := well_formed_empty
  named := rfl
  valid := by simp
  held := by
    intro path descriptor
    have nothing : classesAt path empty.root = [] := classes_at_bare "" path
    simp [nothing]

theorem Sound.call {state : Growth} (sound : state.Sound) (descriptor : ClassDescriptor) :
    (state.call descriptor).Sound := by
  rw [call_eq]
  split
  case isFalse => exact sound
  case isTrue accepted =>
    have taken : ∀ member, member ∈ state.taken ++ [descriptor] ↔
        member ∈ state.taken ∨ member = descriptor := by
      simp
    refine ⟨well_formed_insert _ _ sound.formed, (segment_insert _ _ _).trans sound.named, ?_, ?_⟩
    · intro member isTaken
      rcases (taken member).1 isTaken with before | rfl
      · exact sound.valid member before
      · exact PackagePath.fault?_eq_none_iff.1 accepted
    · intro path member
      rw [mem_classes_at_insert _ _ sound.formed, sound.held, taken]
      constructor
      · rintro (⟨rfl, rfl⟩ | ⟨before, place⟩)
        · exact ⟨.inr rfl, rfl⟩
        · exact ⟨.inl before, place⟩
      · rintro ⟨before | rfl, place⟩
        · exact .inr ⟨before, place⟩
        · exact .inl ⟨rfl, place.symm⟩

theorem sound_after (calls : List ClassDescriptor) : (after calls).Sound := by
  induction calls using List.reverseRecOn with
  | nil => exact sound_empty
  | append_singleton calls descriptor ih =>
      rw [after, List.foldl_concat, ← after]
      exact ih.call descriptor

section Sound

variable {state : Growth}

theorem Sound.find?_of_mem_nodes (sound : state.Sound) {path : PackagePath} {node : PackageNode}
    (isNode : (path, node) ∈ state.tree.nodes) : state.tree.root.find? path = some node := by
  obtain ⟨_, rfl, present⟩ := (mem_walk_iff sound.formed [] path).1 isNode
  exact present

theorem Sound.class_count_pos (sound : state.Sound) {path : PackagePath} {node : PackageNode}
    (isNode : (path, node) ∈ state.tree.nodes) (below : path ≠ []) : 0 < node.classCount := by
  have present := sound.find?_of_mem_nodes isNode
  rw [← List.dropLast_concat_getLast below, find?_append, Option.bind_eq_some_iff] at present
  obtain ⟨parent, atParent, isChild⟩ := present
  rw [PackageNode.find?] at isChild
  cases found : parent.children.find? (·.segment = path.getLast below) with
  | none => simp [found] at isChild
  | some child =>
      simp only [found, PackageNode.find?, Option.some.injEq] at isChild
      subst isChild
      exact (well_formed_of_find? sound.formed atParent).inhabited _
        (List.mem_of_find?_eq_some found)

theorem Sound.exists_class_below (sound : state.Sound) {path : PackagePath} {node : PackageNode}
    (isNode : (path, node) ∈ state.tree.nodes) (below : path ≠ []) :
    ∃ rest, ∃ descriptor ∈ classesAt rest node,
      descriptor ∈ state.taken ∧ descriptor.package = path ++ rest := by
  have present := sound.find?_of_mem_nodes isNode
  obtain ⟨rest, descriptor, inside⟩ :=
    exists_class_of_pos (well_formed_of_find? sound.formed present)
      (sound.class_count_pos isNode below)
  refine ⟨rest, descriptor, inside, ?_⟩
  rw [← classes_at_append path rest present] at inside
  exact (sound.held _ descriptor).1 inside

theorem Sound.valid_path (sound : state.Sound) {path : PackagePath} {node : PackageNode}
    (isNode : (path, node) ∈ state.tree.nodes) : path.Valid := by
  by_cases atRoot : path = []
  · simp [atRoot, PackagePath.Valid]
  · obtain ⟨rest, descriptor, _, isTaken, place⟩ := sound.exists_class_below isNode atRoot
    intro segment isSegment
    refine sound.valid descriptor isTaken segment ?_
    rw [place]
    exact List.mem_append_left rest isSegment

theorem Sound.segment_mem_path (sound : state.Sound) {path : PackagePath} {node : PackageNode}
    (isNode : (path, node) ∈ state.tree.nodes) (below : path ≠ []) : node.segment ∈ path := by
  have present := sound.find?_of_mem_nodes isNode
  cases path with
  | nil => exact absurd rfl below
  | cons first rest =>
      rw [segment_of_find? present]
      exact List.getLast_mem _

theorem Sound.mem_classes_iff (sound : state.Sound) {path : PackagePath} {node : PackageNode}
    (isNode : (path, node) ∈ state.tree.nodes) (descriptor : ClassDescriptor) :
    descriptor ∈ node.classes ↔ descriptor ∈ state.taken ∧ descriptor.package = path := by
  rw [← sound.held, classesAt, sound.find?_of_mem_nodes isNode]

theorem Sound.class_count_eq (sound : state.Sound) :
    state.tree.classCount = (distinct state.taken).length := by
  have once := nodup_walk sound.formed fun path descriptor member =>
    ((sound.held path descriptor).1 member).2
  rw [classCount, class_count_eq_length_walk _ []]
  refine List.Perm.length_eq ((List.perm_ext_iff_of_nodup once (nodup_distinct _)).2 ?_)
  intro descriptor
  rw [mem_distinct, List.mem_flatMap]
  constructor
  · rintro ⟨⟨path, node⟩, isNode, inside⟩
    exact ((sound.mem_classes_iff isNode descriptor).1 inside).1
  · intro isTaken
    have inside := (sound.held descriptor.package descriptor).2 ⟨isTaken, rfl⟩
    obtain ⟨node, present⟩ := find?_isSome_of_mem_classes_at inside
    rw [classesAt, present] at inside
    exact ⟨(descriptor.package, node),
      (mem_walk_iff sound.formed [] _).2 ⟨_, rfl, present⟩, inside⟩

end Sound

/-- The shape of a package tree that took some classes, package by package of its walk. -/
structure Consistent (state : Growth) : Prop where
  /-- What is stored under a segment is the child that bears it. -/
  keyed : ∀ path node, (path, node) ∈ state.tree.nodes → ∀ segment child,
    node.children.find? (·.segment = segment) = some child ↔
      child ∈ node.children ∧ child.segment = segment
  nonempty : ∀ path node, (path, node) ∈ state.tree.nodes → path ≠ [] → node.segment ≠ ""
  trimmed : ∀ path node, (path, node) ∈ state.tree.nodes → path ≠ [] →
    node.segment = trim node.segment
  unseparated : ∀ path node, (path, node) ∈ state.tree.nodes → path ≠ [] →
    ∀ char ∈ node.segment.toList, char ≠ '.' ∧ char ≠ '/' ∧ char ≠ '\\'
  placed : ∀ path node, (path, node) ∈ state.tree.nodes →
    ∀ descriptor ∈ node.classes, descriptor.package = path
  inhabited : ∀ path node, (path, node) ∈ state.tree.nodes → path ≠ [] → 0 < node.classCount
  counted : state.tree.classCount = (distinct state.taken).length

theorem Sound.consistent {state : Growth} (sound : state.Sound) : state.Consistent where
  keyed := by
    intro path node isNode segment child
    have formed := well_formed_of_find? sound.formed (sound.find?_of_mem_nodes isNode)
    constructor
    · intro found
      have named := List.find?_some found
      exact ⟨List.mem_of_find?_eq_some found, by simpa using named⟩
    · rintro ⟨isChild, rfl⟩
      exact find?_of_mem formed.ordered isChild
  nonempty := by
    intro path node isNode below
    have sane := sound.valid_path isNode _ (sound.segment_mem_path isNode below)
    exact (segment_fault?_eq_none_iff.1 sane).1
  trimmed := by
    intro path node isNode below
    have sane := sound.valid_path isNode _ (sound.segment_mem_path isNode below)
    exact (segment_fault?_eq_none_iff.1 sane).2.1
  unseparated := by
    intro path node isNode below char isChar
    have sane := sound.valid_path isNode _ (sound.segment_mem_path isNode below)
    have separates := (segment_fault?_eq_none_iff.1 sane).2.2 char isChar
    simpa [isSeparator, and_assoc] using separates
  placed := by
    intro path node isNode descriptor inside
    exact ((sound.mem_classes_iff isNode descriptor).1 inside).2
  inhabited := by
    intro path node
    exact sound.class_count_pos
  counted := sound.class_count_eq

/-- After every run of calls the tree is consistent with the classes it took, and a further
call that fails leaves it as it is. -/
theorem consistent_after_calls (calls : List ClassDescriptor) :
    (after calls).Consistent ∧ ∀ descriptor malformed left,
      addInPlace descriptor (after calls).tree = .error malformed left →
        left = (after calls).tree := by
  refine ⟨(sound_after calls).consistent, ?_⟩
  intro descriptor malformed left failed
  rw [add_in_place_eq] at failed
  cases fault : descriptor.malformed? with
  | none => simp [fault] at failed
  | some reason =>
      simp only [fault, EStateM.Result.error.injEq] at failed
      exact failed.2.symm

end Growth

end PackageTree

end LibraryDetection
