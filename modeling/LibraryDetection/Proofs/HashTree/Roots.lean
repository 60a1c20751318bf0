import LibraryDetection.Proofs.HashTree.Isomorphism

/-!
# Hash trees of equal package trees

Package trees that hold the same classes at every path have the same roots and are hashed
to the same trees, in whatever order their classes came.
-/

namespace LibraryDetection

set_option autoImplicit false

namespace PackageNode

variable {left right : PackageNode}

/-- The packages hold the same classes at every path.  Their trees may still differ in the order
of the classes of a package. -/
def SameClasses (left right : PackageNode) : Prop :=
  ∀ path member, member ∈ classesAt path left ↔ member ∈ classesAt path right

theorem SameClasses.classes_perm (same : left.SameClasses right) (leftFormed : left.WellFormed)
    (rightFormed : right.WellFormed) : left.classes.Perm right.classes := by
  apply (List.perm_ext_iff_of_nodup leftFormed.distinct rightFormed.distinct).2
  intro member
  exact same [] member

def Partners (left right : PackageNode) : Prop :=
  left.WellFormed ∧ right.WellFormed ∧ left.segment = right.segment ∧ left.SameClasses right

theorem SameClasses.partners (same : left.SameClasses right) (leftFormed : left.WellFormed)
    (rightFormed : right.WellFormed) : List.Forall₂ Partners left.children right.children := by
  apply (forall₂_children leftFormed rightFormed same).imp
  rintro child other ⟨isChild, isOther, named, alike⟩
  exact ⟨leftFormed.within child isChild, rightFormed.within other isOther, named, alike⟩

theorem descent_all_eq_of_forall₂ {children others : List PackageNode}
    (pairs : List.Forall₂ (fun a b => a.segment = b.segment ∧ a.descent = b.descent)
      children others) : descentAll children = descentAll others := by
  cases pairs with
  | nil => rfl
  | cons pair rest =>
      cases rest with
      | nil => rw [descentAll, descentAll, pair.1, pair.2]
      | cons second more => rfl

theorem SameClasses.descent_eq (same : left.SameClasses right) (leftFormed : left.WellFormed)
    (rightFormed : right.WellFormed) : left.descent = right.descent := by
  induction left generalizing right with
  | node segment classes children ih =>
      obtain ⟨otherSegment, otherClasses, others⟩ := right
      have own : classes.Perm otherClasses := same.classes_perm leftFormed rightFormed
      have below : descentAll children = descentAll others := by
        apply descent_all_eq_of_forall₂
        refine forall₂_imp_of_mem ?_ (same.partners leftFormed rightFormed)
        rintro child isChild other _ ⟨childFormed, otherFormed, named, alike⟩
        exact ⟨named, ih child isChild alike childFormed otherFormed⟩
      rw [descent, descent, own.isEmpty_eq, below]

theorem find?_rel_of_partners {children others : List PackageNode}
    (pairs : List.Forall₂ Partners children others) (segment : String) :
    Option.Rel Partners (children.find? (·.segment = segment))
      (others.find? (·.segment = segment)) := by
  induction pairs with
  | nil => exact .none
  | @cons child other _ _ pair _ ih =>
      rw [List.find?_cons, List.find?_cons, pair.2.2.1]
      split
      · exact .some pair
      · exact ih

theorem find?_rel (partners : left.Partners right) (path : PackagePath) :
    Option.Rel Partners (left.find? path) (right.find? path) := by
  induction path generalizing left right with
  | nil => exact .some partners
  | cons segment rest ih =>
      obtain ⟨leftFormed, rightFormed, _, same⟩ := partners
      have pairs := same.partners leftFormed rightFormed
      rw [find?, find?]
      have found := find?_rel_of_partners pairs segment
      generalize left.children.find? (·.segment = segment) = first at found ⊢
      generalize right.children.find? (·.segment = segment) = second at found ⊢
      cases found with
      | none => exact .none
      | some pair => exact ih pair

end PackageNode

namespace PackageTree

open PackageNode

variable {tree other : PackageTree}

theorem has_multiple_roots_eq (partners : tree.root.Partners other.root) :
    tree.hasMultipleRoots = other.hasMultipleRoots := by
  obtain ⟨formed, otherFormed, _, same⟩ := partners
  rw [hasMultipleRoots, hasMultipleRoots, (same.partners formed otherFormed).length_eq,
    (same.classes_perm formed otherFormed).isEmpty_eq]

theorem root_path_eq (partners : tree.root.Partners other.root) :
    tree.rootPath = other.rootPath := by
  obtain ⟨formed, otherFormed, _, same⟩ := partners
  exact same.descent_eq formed otherFormed

theorem top_level_roots_eq (partners : tree.root.Partners other.root) :
    tree.topLevelRoots = other.topLevelRoots := by
  rw [topLevelRoots, topLevelRoots, has_multiple_roots_eq partners, root_path_eq partners]
  obtain ⟨formed, otherFormed, _, same⟩ := partners
  have descents : (tree.root.children.map fun child => child.segment :: child.descent) =
      other.root.children.map fun child => child.segment :: child.descent := by
    apply map_eq_of_forall₂
    apply (same.partners formed otherFormed).imp
    rintro child partner ⟨childFormed, partnerFormed, named, alike⟩
    rw [named, alike.descent_eq childFormed partnerFormed]
  rw [descents]

theorem hash_tree_at_eq (partners : tree.root.Partners other.root) (options : HashOptions)
    (path : PackagePath) : tree.hashTreeAt options path = other.hashTreeAt options path := by
  rw [hashTreeAt, hashTreeAt, find?, find?]
  have found := find?_rel partners path
  generalize tree.root.find? path = first at found ⊢
  generalize other.root.find? path = second at found ⊢
  cases found with
  | none => rfl
  | @some node partner pair =>
      obtain ⟨formed, partnerFormed, named, same⟩ := pair
      dsimp only
      rw [HashNode.of_package_eq_of_classes_at options formed partnerFormed named same]

theorem whole_hash_tree_eq (partners : tree.root.Partners other.root) (options : HashOptions) :
    tree.wholeHashTree options = other.wholeHashTree options :=
  Except.ok.inj (hash_tree_at_eq partners options [])

theorem hash_trees_eq (partners : tree.root.Partners other.root) (options : HashOptions) :
    tree.hashTrees options = other.hashTrees options := by
  have hashed : (fun path => (tree.hashTreeAt options path).toOption) =
      fun path => (other.hashTreeAt options path).toOption := by
    funext path
    rw [hash_tree_at_eq partners options path]
  rw [hashTrees, hashTrees, top_level_roots_eq partners, hashed]

theorem partners_of_of_classes {classes others : List ClassDescriptor}
    (made : ofClasses classes = .ok tree) (otherMade : ofClasses others = .ok other)
    (same : ∀ member, member.kind ≠ .synthetic → (member ∈ classes ↔ member ∈ others)) :
    tree.root.Partners other.root := by
  refine ⟨well_formed_of_of_classes made, well_formed_of_of_classes otherMade, ?_, ?_⟩
  · rw [segment_of_of_classes made, segment_of_of_classes otherMade]
  · intro path member
    rw [mem_classes_at_of_classes made, mem_classes_at_of_classes otherMade]
    constructor
    · rintro ⟨isClass, kept, place⟩
      exact ⟨(same member kept).1 isClass, kept, place⟩
    · rintro ⟨isClass, kept, place⟩
      exact ⟨(same member kept).2 isClass, kept, place⟩

end PackageTree

end LibraryDetection
