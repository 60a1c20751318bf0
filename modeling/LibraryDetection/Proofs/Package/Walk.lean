import LibraryDetection.Proofs.Collection.Stack
import LibraryDetection.Proofs.Package.Members
import Mathlib.Algebra.GroupWithZero.Nat
import Mathlib.Data.List.Lex
import Mathlib.Data.List.Nodup

/-!
# Walks over package trees

The walk meets every package at its own path and the paths in rising order, and the
classes of a tree are those of its packages.
-/

namespace LibraryDetection

set_option autoImplicit false

namespace PackageNode

theorem walk_all_eq_flatMap (path : PackagePath) (children : List PackageNode) :
    walkAll path children = children.flatMap fun child => child.walk (path ++ [child.segment]) := by
  induction children with
  | nil => rfl
  | cons child others ih => rw [walkAll, ih, List.flatMap_cons]

theorem walk_eq (path : PackagePath) (node : PackageNode) :
    node.walk path =
      (path, node) :: node.children.flatMap fun child => child.walk (path ++ [child.segment]) := by
  cases node
  rw [walk, walk_all_eq_flatMap]

def childEntries (entry : PackagePath × PackageNode) : List (PackagePath × PackageNode) :=
  entry.2.children.map fun child => (entry.1 ++ [child.segment], child)

theorem shrinks_child_entries : Shrinks childEntries := by
  refine ⟨fun entry => sizeOf entry.2, ?_⟩
  rintro ⟨path, segment, classes, children⟩
  have fewer : (children.map fun child => sizeOf child).sum < sizeOf children := by
    induction children with
    | nil => simp
    | cons child others ih =>
        simp only [List.map_cons, List.sum_cons, List.cons.sizeOf_spec]
        omega
  simp only [childEntries, List.map_map, Function.comp_def, PackageNode.mk.sizeOf_spec]
  omega

def unstack (waiting : List (PackagePath × PackageNode)) : List (PackagePath × PackageNode) :=
  unstacked childEntries shrinks_child_entries waiting

theorem unstack_root (path : PackagePath) (node : PackageNode) :
    unstack [(path, node)] = node.walk path := by
  have walks : ∀ entry : PackagePath × PackageNode, entry.2.walk entry.1 =
      entry :: (childEntries entry).flatMap fun inner => inner.2.walk inner.1 := by
    intro entry
    rw [walk_eq, childEntries, List.flatMap_map]
  rw [unstack, unstacked_eq shrinks_child_entries walks, List.flatMap_singleton]

theorem mem_walk_iff {node found : PackageNode} (wellFormed : node.WellFormed)
    (start path : PackagePath) :
    (path, found) ∈ node.walk start ↔
      ∃ rest, path = start ++ rest ∧ node.find? rest = some found := by
  induction node generalizing start with
  | node segment classes children ih =>
      rw [walk_eq, List.mem_cons, List.mem_flatMap]
      constructor
      · rintro (here | ⟨child, isChild, below⟩)
        · obtain ⟨rfl, rfl⟩ := Prod.mk.inj here
          exact ⟨[], (List.append_nil _).symm, rfl⟩
        · obtain ⟨rest, rfl, present⟩ :=
            (ih child isChild (wellFormed.within child isChild) _).1 below
          refine ⟨child.segment :: rest, List.append_assoc _ _ _, ?_⟩
          rw [find?, find?_of_mem wellFormed.ordered isChild]
          exact present
      · rintro ⟨rest, rfl, present⟩
        cases rest with
        | nil =>
            rw [find?, Option.some.injEq] at present
            rw [List.append_nil, present]
            exact .inl rfl
        | cons first rest =>
            rw [find?] at present
            cases isFound : children.find? (·.segment = first) with
            | none =>
                rw [isFound] at present
                cases present
            | some child =>
                rw [isFound] at present
                have named : child.segment = first := by
                  simpa using List.find?_some isFound
                have isChild := List.mem_of_find?_eq_some isFound
                refine .inr ⟨child, isChild, ?_⟩
                refine (ih child isChild (wellFormed.within child isChild) _).2 ⟨rest, ?_, present⟩
                rw [named, List.append_assoc]
                rfl

theorem walk_rising {node : PackageNode} (wellFormed : node.WellFormed) (start : PackagePath) :
    (node.walk start).Pairwise fun a b => a.1 < b.1 := by
  induction node generalizing start with
  | node segment classes children ih =>
      rw [walk_eq, List.pairwise_cons, List.pairwise_flatMap]
      have below : ∀ child ∈ children, ∀ entry ∈ child.walk (start ++ [child.segment]),
          ∃ rest, entry.1 = start ++ child.segment :: rest := by
        rintro child isChild ⟨path, found⟩ inWalk
        obtain ⟨rest, rfl, _⟩ :=
          (mem_walk_iff (wellFormed.within child isChild) _ path).1 inWalk
        exact ⟨rest, List.append_assoc _ _ _⟩
      refine ⟨?_, fun child isChild => ih child isChild (wellFormed.within child isChild) _, ?_⟩
      · intro entry inWalk
        obtain ⟨child, isChild, inChild⟩ := List.mem_flatMap.1 inWalk
        obtain ⟨rest, isPath⟩ := below child isChild entry inChild
        rw [isPath]
        have longer : start ++ [] < start ++ child.segment :: rest :=
          List.append_left_lt (List.nil_lt_cons child.segment rest)
        rwa [List.append_nil] at longer
      · refine List.Pairwise.imp_of_mem ?_ wellFormed.ordered
        intro first second isFirst isSecond before one inFirst other inSecond
        obtain ⟨rest, isPath⟩ := below first isFirst one inFirst
        obtain ⟨more, isOther⟩ := below second isSecond other inSecond
        rw [isPath, isOther]
        exact List.append_left_lt (List.cons_lt_cons_iff.2 (.inl before))

theorem class_count_all_eq_sum (children : List PackageNode) :
    classCountAll children = (children.map classCount).sum := by
  induction children with
  | nil => rfl
  | cons child others ih => rw [classCountAll, ih, List.map_cons, List.sum_cons]

theorem class_count_eq_length_walk (node : PackageNode) (start : PackagePath) :
    node.classCount = ((node.walk start).flatMap (·.2.classes)).length := by
  induction node generalizing start with
  | node segment classes children ih =>
      rw [class_count_eq, class_count_all_eq_sum, walk_eq, List.flatMap_cons, List.length_append,
        List.flatMap_assoc, List.length_flatMap]
      congr 2
      exact List.map_congr_left fun child isChild => ih child isChild _

theorem nodup_walk {node : PackageNode} (wellFormed : node.WellFormed)
    (placed : ∀ path, ∀ descriptor ∈ classesAt path node, descriptor.package = path) :
    ((node.walk []).flatMap (·.2.classes)).Nodup := by
  have held : ∀ entry ∈ node.walk [],
      entry.2.WellFormed ∧ ∀ descriptor ∈ entry.2.classes, descriptor.package = entry.1 := by
    rintro ⟨path, found⟩ inWalk
    obtain ⟨_, rfl, present⟩ := (mem_walk_iff wellFormed [] path).1 inWalk
    refine ⟨well_formed_of_find? wellFormed present, fun descriptor member => ?_⟩
    refine placed path descriptor ?_
    simpa only [classesAt, present] using member
  refine List.nodup_flatMap.2 ⟨fun entry inWalk => (held entry inWalk).1.distinct, ?_⟩
  refine (walk_rising wellFormed []).imp_of_mem ?_
  intro one other isOne isOther before descriptor inOne inOther
  have same : one.1 = other.1 :=
    ((held one isOne).2 descriptor inOne).symm.trans ((held other isOther).2 descriptor inOther)
  exact absurd (same ▸ before) (lt_irrefl _)

end PackageNode

namespace PackageTree

open PackageNode

theorem mem_classes_iff {tree : PackageTree} (wellFormed : tree.root.WellFormed)
    (member : ClassDescriptor) :
    member ∈ tree.classes ↔ ∃ path, member ∈ classesAt path tree.root := by
  rw [classes, List.mem_flatMap]
  constructor
  · rintro ⟨⟨path, found⟩, inWalk, sorted⟩
    obtain ⟨rest, _, present⟩ := (mem_walk_iff wellFormed [] path).1 inWalk
    refine ⟨rest, ?_⟩
    rw [classesAt, present]
    exact mem_sort_by.1 sorted
  · rintro ⟨path, inPackage⟩
    obtain ⟨found, present⟩ := find?_isSome_of_mem_classes_at inPackage
    refine ⟨(path, found), (mem_walk_iff wellFormed [] path).2 ⟨path, rfl, present⟩, ?_⟩
    rw [classesAt, present] at inPackage
    exact mem_sort_by.2 inPackage

theorem mem_classes_of_classes {classes : List ClassDescriptor} {tree : PackageTree}
    (made : ofClasses classes = .ok tree) (member : ClassDescriptor) :
    member ∈ tree.classes ↔ member ∈ classes ∧ member.kind ≠ .synthetic := by
  rw [mem_classes_iff (well_formed_of_of_classes made)]
  simp only [mem_classes_at_of_classes made]
  constructor
  · rintro ⟨path, isClass, kept, _⟩
    exact ⟨isClass, kept⟩
  · rintro ⟨isClass, kept⟩
    exact ⟨member.package, isClass, kept, rfl⟩

end PackageTree

end LibraryDetection
