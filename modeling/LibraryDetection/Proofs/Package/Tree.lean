import LibraryDetection.Package.Tree
import Mathlib.Data.List.Nodup
import Mathlib.Data.String.Basic

/-!
# Package trees by their classes

What a package tree holds is read off path by path.  Adding a class changes the classes at
its own path and nowhere else, siblings stay in order, and no package stays without a
class at or below it.  A tree that grew from classes therefore holds, at each path, the
classes of that package and no others.
-/

namespace LibraryDetection

set_option autoImplicit false

namespace PackageNode

@[induction_eliminator]
theorem induct {motive : PackageNode → Prop}
    (node : ∀ segment classes children, (∀ child ∈ children, motive child) →
      motive ⟨segment, classes, children⟩) : ∀ package, motive package
  | ⟨segment, classes, children⟩ =>
      node segment classes children fun child _ => induct node child
termination_by package => package
decreasing_by
  have smaller := List.sizeOf_lt_of_mem (by assumption : child ∈ children)
  simp only [PackageNode.mk.sizeOf_spec]
  omega

/-- No class stands twice in a package, siblings stand in rising order of their segments,
and each of them has a class at or below it. -/
inductive WellFormed : PackageNode → Prop
  | node {segment : String} {classes : List ClassDescriptor} {children : List PackageNode}
      (distinct : classes.Nodup)
      (ordered : children.Pairwise fun a b => a.segment < b.segment)
      (inhabited : ∀ child ∈ children, 0 < child.classCount)
      (within : ∀ child ∈ children, child.WellFormed) :
      WellFormed ⟨segment, classes, children⟩

namespace WellFormed

variable {node : PackageNode}

theorem distinct (wellFormed : node.WellFormed) : node.classes.Nodup := by
  cases wellFormed
  assumption

theorem ordered (wellFormed : node.WellFormed) :
    node.children.Pairwise fun a b => a.segment < b.segment := by
  cases wellFormed
  assumption

theorem inhabited (wellFormed : node.WellFormed) :
    ∀ child ∈ node.children, 0 < child.classCount := by
  cases wellFormed
  assumption

theorem within (wellFormed : node.WellFormed) : ∀ child ∈ node.children, child.WellFormed := by
  cases wellFormed
  assumption

end WellFormed

theorem well_formed_bare (segment : String) : (bare segment).WellFormed :=
  .node List.nodup_nil List.Pairwise.nil (by simp) (by simp)

theorem find?_of_mem {children : List PackageNode}
    (ordered : children.Pairwise fun a b => a.segment < b.segment) {child : PackageNode}
    (member : child ∈ children) :
    children.find? (·.segment = child.segment) = some child := by
  induction children with
  | nil => exact absurd member List.not_mem_nil
  | cons head others ih =>
      obtain ⟨before, rest⟩ := List.pairwise_cons.1 ordered
      rcases List.mem_cons.1 member with rfl | inOthers
      · simp
      · have different : head.segment ≠ child.segment := ne_of_lt (before child inOthers)
        rw [List.find?_cons_of_neg (by simpa using different)]
        exact ih rest inOthers

theorem find?_eq_none_of_lt {children : List PackageNode} {segment : String}
    (before : ∀ child ∈ children, segment < child.segment) :
    children.find? (·.segment = segment) = none := by
  refine List.find?_eq_none.2 ?_
  intro child member
  simpa using (ne_of_lt (before child member)).symm

section ChangeChild

variable {change : PackageNode → PackageNode} {segment : String}

theorem find?_change_child (keeps : ∀ node, (change node).segment = node.segment)
    {children : List PackageNode} (ordered : children.Pairwise fun a b => a.segment < b.segment)
    (other : String) :
    (changeChild segment change children).find? (·.segment = other) =
      if other = segment then
        some (change ((children.find? (·.segment = segment)).getD (bare segment)))
      else children.find? (·.segment = other) := by
  have fresh : (change (bare segment)).segment = segment := keeps (bare segment)
  induction children with
  | nil =>
      by_cases same : other = segment
      · subst same
        simp [changeChild, fresh]
      · have different : segment ≠ other := Ne.symm same
        simp [changeChild, fresh, same, different]
  | cons head others ih =>
      obtain ⟨before, rest⟩ := List.pairwise_cons.1 ordered
      simp only [changeChild]
      split
      · rename_i atHead
        subst atHead
        by_cases same : other = head.segment
        · subst same
          simp [keeps]
        · have different : head.segment ≠ other := Ne.symm same
          simp [keeps, same, different]
      · rename_i notHead
        split
        · rename_i smaller
          have absent : (head :: others).find? (·.segment = segment) = none := by
            refine find?_eq_none_of_lt ?_
            intro child member
            rcases List.mem_cons.1 member with rfl | inOthers
            · exact smaller
            · exact smaller.trans (before child inOthers)
          by_cases same : other = segment
          · subst same
            rw [List.find?_cons_of_pos (by simpa using fresh), absent]
            simp
          · have different : segment ≠ other := Ne.symm same
            rw [List.find?_cons_of_neg (by simpa [fresh] using different), if_neg same]
        · by_cases atHead : head.segment = other
          · subst atHead
            simp [notHead]
          · rw [List.find?_cons_of_neg (by simpa using atHead), ih rest,
              List.find?_cons_of_neg (by simpa using notHead),
              List.find?_cons_of_neg (by simpa using atHead)]

theorem mem_change_child {children : List PackageNode} {child : PackageNode}
    (member : child ∈ changeChild segment change children) :
    child ∈ children ∨
      ∃ old, (old ∈ children ∨ old = bare segment) ∧ old.segment = segment ∧
        child = change old := by
  induction children with
  | nil =>
      simp only [changeChild, List.mem_singleton] at member
      exact .inr ⟨bare segment, .inr rfl, rfl, member⟩
  | cons head others ih =>
      simp only [changeChild] at member
      split at member
      · rename_i atHead
        rcases List.mem_cons.1 member with same | inOthers
        · exact .inr ⟨head, .inl List.mem_cons_self, atHead, same⟩
        · exact .inl (List.mem_cons_of_mem head inOthers)
      · split at member
        · rcases List.mem_cons.1 member with same | kept
          · exact .inr ⟨bare segment, .inr rfl, rfl, same⟩
          · exact .inl kept
        · rcases List.mem_cons.1 member with same | inOthers
          · exact .inl (same ▸ List.mem_cons_self)
          · rcases ih inOthers with kept | ⟨old, origin, atSegment, changed⟩
            · exact .inl (List.mem_cons_of_mem head kept)
            · exact .inr ⟨old, origin.imp_left (List.mem_cons_of_mem head), atSegment, changed⟩

theorem ordered_change_child (keeps : ∀ node, (change node).segment = node.segment)
    {children : List PackageNode} (ordered : children.Pairwise fun a b => a.segment < b.segment) :
    (changeChild segment change children).Pairwise fun a b => a.segment < b.segment := by
  have fresh : (change (bare segment)).segment = segment := keeps (bare segment)
  induction children with
  | nil => simp [changeChild]
  | cons head others ih =>
      obtain ⟨before, rest⟩ := List.pairwise_cons.1 ordered
      simp only [changeChild]
      split
      · refine List.pairwise_cons.2 ⟨?_, rest⟩
        intro child member
        rw [keeps]
        exact before child member
      · rename_i notHead
        split
        · rename_i smaller
          refine List.pairwise_cons.2 ⟨?_, ordered⟩
          intro child member
          rw [fresh]
          rcases List.mem_cons.1 member with rfl | inOthers
          · exact smaller
          · exact smaller.trans (before child inOthers)
        · rename_i notSmaller
          refine List.pairwise_cons.2 ⟨?_, ih rest⟩
          intro child member
          rcases mem_change_child member with inOthers | ⟨old, _, atSegment, rfl⟩
          · exact before child inOthers
          · rw [keeps, atSegment]
            exact lt_of_le_of_ne (le_of_not_gt notSmaller) notHead

end ChangeChild

theorem segment_insert (descriptor : ClassDescriptor) (path : PackagePath) (node : PackageNode) :
    (insert descriptor path node).segment = node.segment := by
  cases path <;> rfl

theorem class_count_all_pos_of_mem {children : List PackageNode} {child : PackageNode}
    (member : child ∈ children) (inhabited : 0 < child.classCount) :
    0 < classCountAll children := by
  induction children with
  | nil => exact absurd member List.not_mem_nil
  | cons head others ih =>
      rw [classCountAll]
      rcases List.mem_cons.1 member with rfl | inOthers
      · omega
      · have rest := ih inOthers
        omega

theorem class_count_eq (node : PackageNode) :
    node.classCount = node.classes.length + classCountAll node.children := by
  cases node
  rw [classCount]

theorem class_count_pos_of_child (node : PackageNode) {child : PackageNode}
    (member : child ∈ node.children)
    (inhabited : 0 < child.classCount) : 0 < node.classCount := by
  have part := class_count_all_pos_of_mem member inhabited
  rw [class_count_eq]
  omega

theorem class_count_insert_pos (descriptor : ClassDescriptor) (path : PackagePath)
    (node : PackageNode) : 0 < (insert descriptor path node).classCount := by
  induction path generalizing node with
  | nil =>
      rw [class_count_eq]
      have nonempty : 0 < (node.classes.insert descriptor).length :=
        List.length_pos_of_mem List.mem_insert_self
      simp only [insert]
      omega
  | cons segment rest ih =>
      have present : ∀ children : List PackageNode,
          ∃ old, insert descriptor rest old ∈
            changeChild segment (insert descriptor rest) children := by
        intro children
        induction children with
        | nil => exact ⟨bare segment, by simp [changeChild]⟩
        | cons head others found =>
            simp only [changeChild]
            split
            · exact ⟨head, List.mem_cons_self⟩
            · split
              · exact ⟨bare segment, List.mem_cons_self⟩
              · obtain ⟨old, member⟩ := found
                exact ⟨old, List.mem_cons_of_mem head member⟩
      obtain ⟨old, member⟩ := present node.children
      exact class_count_pos_of_child (insert descriptor (segment :: rest) node) member (ih old)

theorem well_formed_insert (descriptor : ClassDescriptor) (path : PackagePath)
    {node : PackageNode} (wellFormed : node.WellFormed) :
    (insert descriptor path node).WellFormed := by
  induction path generalizing node with
  | nil =>
      exact .node (List.Nodup.insert wellFormed.distinct) wellFormed.ordered wellFormed.inhabited
        wellFormed.within
  | cons segment rest ih =>
      refine .node wellFormed.distinct
        (ordered_change_child (segment_insert descriptor rest) wellFormed.ordered) ?_ ?_
      · intro child member
        rcases mem_change_child member with kept | ⟨old, _, _, rfl⟩
        · exact wellFormed.inhabited child kept
        · exact class_count_insert_pos descriptor rest old
      · intro child member
        rcases mem_change_child member with kept | ⟨old, origin, _, rfl⟩
        · exact wellFormed.within child kept
        · rcases origin with kept | rfl
          · exact ih (wellFormed.within old kept)
          · exact ih (well_formed_bare segment)

end PackageNode

end LibraryDetection
