import LibraryDetection.Proofs.HashTree.Hashing
import Mathlib.Data.List.Infix

/-!
# Places of nodes

Every node of a hash tree stands at a path of its own, below the path of its parent.  The
nodes below two places of which neither is below the other are therefore different ones,
and a package with a class that counts is a node at its own path.
-/

namespace LibraryDetection

set_option autoImplicit false

def PackagePath.Apart (a b : PackagePath) : Prop := ¬ a <+: b ∧ ¬ b <+: a

namespace HashNode

variable {path : PackagePath} {node : HashNode} {entry : PackagePath × HashNode}

theorem prefix_of_mem_walk (member : entry ∈ node.walk path) : path <+: entry.1 := by
  induction node generalizing path with
  | node segment nodeHash subtreeHash classHashes classCount children ih =>
      rcases mem_walk_iff.1 member with rfl | ⟨child, isChild, below⟩
      · exact List.prefix_rfl
      · exact (List.prefix_append path [child.segment]).trans (ih child isChild below)

theorem mem_walk_trans (member : entry ∈ node.walk path) {inner : PackagePath × HashNode}
    (below : inner ∈ entry.2.walk entry.1) : inner ∈ node.walk path := by
  induction node generalizing path with
  | node segment nodeHash subtreeHash classHashes classCount children ih =>
      rcases mem_walk_iff.1 member with rfl | ⟨child, isChild, inChild⟩
      · exact below
      · exact mem_walk_iff.2 (.inr ⟨child, isChild, ih child isChild inChild⟩)

def DistinctChildren (node : HashNode) : Prop := (node.children.map (·.segment)).Nodup

def OrderedChildren (node : HashNode) : Prop :=
  node.children.Pairwise fun a b => a.segment < b.segment

theorem OrderedChildren.distinct {node : HashNode} (ordered : node.OrderedChildren) :
    node.DistinctChildren :=
  List.pairwise_map.2 (ordered.imp ne_of_lt)

theorem ordered_children_of_package (options : HashOptions) {package : PackageNode}
    (wellFormed : package.WellFormed) : (ofPackage options package).Every OrderedChildren := by
  induction package with
  | node segment classes children ih =>
      rw [ofPackage]
      refine .node ?_ ?_
      · have rising : (children.map (ofPackage options)).Pairwise
            fun a b => a.segment < b.segment := by
          apply List.pairwise_map.2
          simp only [segment_of_package]
          exact wellFormed.ordered
        have kept := rising.filter fun node => decide (0 < node.classCount)
        rw [← of_packages_eq] at kept
        exact kept
      · intro child member
        obtain ⟨origin, isChild, rfl, _⟩ := (mem_of_packages options children child).1 member
        exact ih origin isChild (wellFormed.within origin isChild)

theorem distinct_children_of_package (options : HashOptions) {package : PackageNode}
    (wellFormed : package.WellFormed) : (ofPackage options package).Every DistinctChildren :=
  (ordered_children_of_package options wellFormed).imp fun _ ordered => ordered.distinct

theorem nodup_flatMap_walk {places : List (PackagePath × HashNode)}
    (each : ∀ place ∈ places, ((place.2.walk place.1).map (·.1)).Nodup)
    (apart : places.Pairwise fun a b => PackagePath.Apart a.1 b.1) :
    ((places.flatMap fun place => place.2.walk place.1).map (·.1)).Nodup := by
  rw [List.map_flatMap]
  refine List.nodup_flatMap.2 ⟨each, apart.imp ?_⟩
  intro a b separate
  refine List.disjoint_left.2 ?_
  intro found inFirst inSecond
  obtain ⟨first, belowFirst, rfl⟩ := List.mem_map.1 inFirst
  obtain ⟨second, belowSecond, same⟩ := List.mem_map.1 inSecond
  have firstPrefix := prefix_of_mem_walk belowFirst
  have secondPrefix := prefix_of_mem_walk belowSecond
  rw [same] at secondPrefix
  rcases List.prefix_or_prefix_of_prefix firstPrefix secondPrefix with aFirst | bFirst
  · exact separate.1 aFirst
  · exact separate.2 bFirst

theorem not_append_prefix_of_ne (path : PackagePath) {one other : String}
    (different : one ≠ other) : ¬ path ++ [one] <+: path ++ [other] := by
  intro below
  have same := below.eq_of_length (by simp)
  exact different (List.singleton_inj.1 (List.append_cancel_left same))

theorem apart_of_ne (path : PackagePath) {one other : String} (different : one ≠ other) :
    PackagePath.Apart (path ++ [one]) (path ++ [other]) :=
  ⟨not_append_prefix_of_ne path different, not_append_prefix_of_ne path different.symm⟩

theorem nodup_walk (distinct : node.Every DistinctChildren) (path : PackagePath) :
    ((node.walk path).map (·.1)).Nodup := by
  induction node generalizing path with
  | node segment nodeHash subtreeHash classHashes classCount children ih =>
      have places : (children.flatMap fun child => child.walk (path ++ [child.segment])) =
          (children.map fun child => (path ++ [child.segment], child)).flatMap
            fun place => place.2.walk place.1 := by
        rw [List.flatMap_map]
      have below : ((children.flatMap fun child => child.walk (path ++ [child.segment])).map
          (·.1)).Nodup := by
        rw [places]
        refine nodup_flatMap_walk ?_ ?_
        · intro place member
          obtain ⟨child, isChild, rfl⟩ := List.mem_map.1 member
          exact ih child isChild (distinct.within child isChild) _
        · refine List.pairwise_map.2 ((List.pairwise_map.1 distinct.here).imp ?_)
          intro a b different
          exact apart_of_ne path different
      rw [walk_eq, List.map_cons, List.nodup_cons]
      refine ⟨?_, below⟩
      intro again
      obtain ⟨entry, member, same⟩ := List.mem_map.1 again
      obtain ⟨child, _, inChild⟩ := List.mem_flatMap.1 member
      have longer := (prefix_of_mem_walk inChild).length_le
      simp only [same, List.length_append, List.length_singleton] at longer
      omega

theorem le_class_count_of_mem {child : HashNode} (hashed : node.Hashed)
    (member : child ∈ node.children) : child.classCount ≤ node.classCount := by
  have nonneg : ∀ inner ∈ node.children, 0 ≤ inner.classCount :=
    fun inner isChild => (hashed.within inner isChild).class_count_nonneg
  have part := le_total_of_mem nonneg member
  have sum := hashed.class_count_eq
  omega

theorem mem_walk_of_find? (options : HashOptions) {place : PackagePath}
    {package found : PackageNode} (present : package.find? place = some found)
    (counted : 0 < (ofPackage options found).classCount) (path : PackagePath) :
    (path ++ place, ofPackage options found) ∈ (ofPackage options package).walk path ∧
      0 < (ofPackage options package).classCount := by
  induction place generalizing package path with
  | nil =>
      rw [PackageNode.find?, Option.some.injEq] at present
      subst present
      rw [List.append_nil]
      exact ⟨mem_walk_self path _, counted⟩
  | cons segment rest ih =>
      rw [PackageNode.find?] at present
      cases isChild : package.children.find? (·.segment = segment) with
      | none => simp [isChild] at present
      | some child =>
          simp only [isChild] at present
          obtain ⟨inChild, childCounted⟩ := ih present (path ++ [segment])
          have member := List.mem_of_find?_eq_some isChild
          have named := List.find?_some isChild
          simp only [decide_eq_true_eq] at named
          have kept : ofPackage options child ∈ (ofPackage options package).children := by
            rw [of_package_eq options package]
            exact (mem_of_packages options _ _).2 ⟨child, member, rfl, childCounted⟩
          refine ⟨mem_walk_iff.2 (.inr ⟨ofPackage options child, kept, ?_⟩), ?_⟩
          · rw [segment_of_package, named]
            rw [List.append_assoc] at inChild
            exact inChild
          · have part := le_class_count_of_mem (hashed_of_package options package) kept
            omega

end HashNode

end LibraryDetection
