import LibraryDetection.Proofs.Collection.Stack
import LibraryDetection.Proofs.HashTree.Places
import LibraryDetection.Proofs.Package.Walk

/-!
# Walks over hash trees

The walk over a hash tree is the walk over its package tree without the packages that count
no class; only the root is met in any case.  A stack of nodes that wait gives the same
nodes in the same order, and the nodes below a place are those with a longer path.
-/

namespace LibraryDetection.HashNode

set_option autoImplicit false

def childEntries (entry : PackagePath × HashNode) : List (PackagePath × HashNode) :=
  entry.2.children.map fun child => (entry.1 ++ [child.segment], child)

theorem shrinks_child_entries : Shrinks childEntries := by
  refine ⟨fun entry => sizeOf entry.2, ?_⟩
  rintro ⟨path, segment, nodeHash, subtreeHash, classHashes, classCount, children⟩
  have fewer : (children.map fun child => sizeOf child).sum < sizeOf children := by
    induction children with
    | nil => simp
    | cons child others ih =>
        simp only [List.map_cons, List.sum_cons, List.cons.sizeOf_spec]
        omega
  simp only [childEntries, List.map_map, Function.comp_def, HashNode.mk.sizeOf_spec]
  omega

def unstack (waiting : List (PackagePath × HashNode)) : List (PackagePath × HashNode) :=
  unstacked childEntries shrinks_child_entries waiting

theorem unstack_eq (waiting : List (PackagePath × HashNode)) :
    unstack waiting = waiting.flatMap fun entry => entry.2.walk entry.1 := by
  apply unstacked_eq
  intro entry
  rw [walk_eq, childEntries, List.flatMap_map]

theorem unstack_root (tree : HashTree) :
    unstack [(tree.rootPath, tree.root)] = tree.nodes := by
  rw [unstack_eq, List.flatMap_singleton]
  rfl

theorem flatMap_eq_of_unique {α β : Type} {items : List α} {expand : α → List β}
    (distinct : items.Nodup) {item : α} (member : item ∈ items)
    (nothing : ∀ other ∈ items, other ≠ item → expand other = []) :
    items.flatMap expand = expand item := by
  induction items with
  | nil => simp at member
  | cons head others ih =>
      rw [List.nodup_cons] at distinct
      rw [List.flatMap_cons]
      by_cases here : head = item
      · have rest : others.flatMap expand = [] := by
          rw [List.flatMap_eq_nil_iff]
          intro other inOthers
          apply nothing other (List.mem_cons_of_mem head inOthers)
          intro same
          exact distinct.1 (here ▸ same ▸ inOthers)
        rw [rest, here, List.append_nil]
      · have inOthers := (List.mem_cons.1 member).resolve_left (Ne.symm here)
        rw [nothing head List.mem_cons_self here, List.nil_append]
        apply ih distinct.2 inOthers
        intro other isOther
        exact nothing other (List.mem_cons_of_mem head isOther)

theorem filter_walk {node : HashNode} (distinct : node.Every DistinctChildren)
    {path : PackagePath} {entry : PackagePath × HashNode} (member : entry ∈ node.walk path) :
    (node.walk path).filter (fun inner => entry.1 <+: inner.1) = entry.2.walk entry.1 := by
  induction node generalizing path with
  | node segment nodeHash subtreeHash classHashes classCount children ih =>
      cases mem_walk_iff.1 member with
      | inl here =>
          rw [here, List.filter_eq_self]
          intro inner inWalk
          exact decide_eq_true (prefix_of_mem_walk inWalk)
      | inr below =>
          obtain ⟨child, isChild, inChild⟩ := below
          have starts := prefix_of_mem_walk inChild
          have notRoot : ¬ entry.1 <+: path := by
            intro above
            have shorter := (starts.trans above).length_le
            simp at shorter
          -- A sibling of the child has no node below the place.
          have elsewhere : ∀ other ∈ children, other ≠ child →
              (other.walk (path ++ [other.segment])).filter
                (fun inner => entry.1 <+: inner.1) = [] := by
            intro other isOther different
            have apart := apart_of_ne path fun same =>
              different (List.inj_on_of_nodup_map distinct.here isOther isChild same)
            rw [List.filter_eq_nil_iff]
            intro inner inOther below
            have first := starts.trans (of_decide_eq_true below)
            have second := prefix_of_mem_walk inOther
            cases List.prefix_or_prefix_of_prefix first second with
            | inl childFirst => exact apart.2 childFirst
            | inr otherFirst => exact apart.1 otherFirst
          rw [walk_eq, List.filter_cons_of_neg (by simpa using notRoot), List.filter_flatMap,
            flatMap_eq_of_unique (List.Nodup.of_map _ distinct.here) isChild elsewhere]
          exact ih child isChild (distinct.within child isChild) inChild

theorem Hashed.class_count_eq_sum {node : HashNode} (hashed : node.Hashed)
    (distinct : node.Every DistinctChildren) {path : PackagePath}
    {entry : PackagePath × HashNode} (member : entry ∈ node.walk path) :
    entry.2.classCount = (((node.walk path).filter fun inner => entry.1 <+: inner.1).map
      fun inner => inner.2.classHashes.length).sum := by
  rw [(hashed.of_mem_walk member).class_count_eq_length entry.1, filter_walk distinct member,
    List.length_flatMap]

theorem filter_walk_length (entry : PackagePath × HashNode) :
    (entry.2.walk entry.1).filter (fun inner => inner.1.length = entry.1.length + 1) =
      childEntries entry := by
  have each : ∀ child ∈ entry.2.children,
      (child.walk (entry.1 ++ [child.segment])).filter
          (fun inner => inner.1.length = entry.1.length + 1) =
        [(entry.1 ++ [child.segment], child)] := by
    intro child _
    rw [walk_eq, List.filter_cons_of_pos (by simp), List.cons_eq_cons]
    constructor
    · rfl
    rw [List.filter_eq_nil_iff]
    intro inner below
    obtain ⟨grandchild, _, inGrandchild⟩ := List.mem_flatMap.1 below
    have longer := (prefix_of_mem_walk inGrandchild).length_le
    simp only [List.length_append, List.length_singleton] at longer
    simp only [decide_eq_true_eq]
    omega
  rw [walk_eq, List.filter_cons_of_neg (by simp), List.filter_flatMap, List.flatMap_congr each,
    childEntries, List.map_eq_flatMap]

theorem child_entries_eq {node : HashNode} (distinct : node.Every DistinctChildren)
    {path : PackagePath} {entry : PackagePath × HashNode} (member : entry ∈ node.walk path) :
    childEntries entry = (node.walk path).filter fun inner =>
      entry.1 <+: inner.1 ∧ inner.1.length = entry.1.length + 1 := by
  rw [← filter_walk_length, ← filter_walk distinct member, List.filter_filter]
  apply List.filter_congr
  intro inner _
  rw [Bool.decide_and, Bool.and_comm]

variable (options : HashOptions)

def countedEntry (entry : PackagePath × PackageNode) : Bool :=
  decide (0 < (ofPackage options entry.2).classCount)

def hashedEntry (entry : PackagePath × PackageNode) : PackagePath × HashNode :=
  (entry.1, ofPackage options entry.2)

theorem class_count_le_of_mem_walk {node : PackageNode} {path : PackagePath}
    {entry : PackagePath × PackageNode} (member : entry ∈ node.walk path) :
    (ofPackage options entry.2).classCount ≤ (ofPackage options node).classCount := by
  induction node generalizing path with
  | node segment classes children ih =>
      rw [PackageNode.walk_eq, List.mem_cons, List.mem_flatMap] at member
      cases member with
      | inl here => rw [here]
      | inr below =>
          obtain ⟨child, isChild, inChild⟩ := below
          have atMost := ih child isChild inChild
          by_cases counted : 0 < (ofPackage options child).classCount
          · have hashed := hashed_of_package options ⟨segment, classes, children⟩
            have kept : ofPackage options child ∈
                (ofPackage options ⟨segment, classes, children⟩).children := by
              rw [of_package_eq]
              exact (mem_of_packages options _ _).2 ⟨child, isChild, rfl, counted⟩
            have part := le_class_count_of_mem hashed kept
            omega
          · have nonneg :=
              (hashed_of_package options ⟨segment, classes, children⟩).class_count_nonneg
            omega

theorem walk_of_package (node : PackageNode) (path : PackagePath) :
    (ofPackage options node).walk path =
      (path, ofPackage options node) ::
        ((node.children.flatMap fun child => child.walk (path ++ [child.segment])).filter
          (countedEntry options)).map (hashedEntry options) := by
  induction node generalizing path with
  | node segment classes children ih =>
      rw [walk_eq]
      congr 1
      rw [ofPackage]
      simp only [make]
      rw [flatMap_of_packages, List.filter_flatMap, List.map_flatMap]
      apply List.flatMap_congr
      intro child isChild
      rw [segment_of_package]
      split
      case isTrue counted =>
        rw [ih child isChild, PackageNode.walk_eq, List.filter_cons]
        simp [countedEntry, hashedEntry, counted]
      case isFalse uncounted =>
        symm
        rw [List.map_eq_nil_iff, List.filter_eq_nil_iff]
        intro entry member counted
        have atMost := class_count_le_of_mem_walk options member
        simp only [countedEntry, decide_eq_true_eq] at counted
        omega

theorem filter_occupied_walk (node : PackageNode) (path : PackagePath) :
    ((ofPackage options node).walk path).filter (fun entry => !entry.2.classHashes.isEmpty) =
      ((node.walk path).filter fun entry =>
        !(options.classHashes entry.2.classes).isEmpty).map (hashedEntry options) := by
  have counted : ∀ entry : PackagePath × PackageNode,
      (!(options.classHashes entry.2.classes).isEmpty && countedEntry options entry) =
        !(options.classHashes entry.2.classes).isEmpty := by
    intro entry
    rw [Bool.and_eq_left_iff_imp]
    intro occupied
    have positive : 0 < (options.classHashes entry.2.classes).length := by
      simpa [List.length_pos_iff] using occupied
    have hashed := hashed_of_package options entry.2
    have below : 0 ≤ total HashNode.classCount (ofPackage options entry.2).children :=
      total_nonneg fun child isChild => (hashed.within child isChild).class_count_nonneg
    have sum := hashed.class_count_eq
    rw [class_hashes_of_package] at sum
    simp only [countedEntry, decide_eq_true_eq]
    omega
  rw [walk_of_package, PackageNode.walk_eq, List.filter_cons, List.filter_cons, List.filter_map,
    List.filter_filter, class_hashes_of_package]
  simp only [Function.comp_def, hashedEntry, class_hashes_of_package, counted]
  split <;> rfl

end LibraryDetection.HashNode
