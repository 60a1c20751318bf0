import LibraryDetection.Proofs.Fingerprint.Profile
import LibraryDetection.Proofs.Fingerprint.Record
import LibraryDetection.Proofs.Fingerprint.Restore

/-!
# Records of deep libraries

A node of a hash tree is written as an object and its children as a list within that object, so
each package that stands in another one adds two levels to the record.  A library can be stored
whatever its depth, but only a shallow one is read back.
-/

namespace LibraryDetection

set_option autoImplicit false

theorem Json.item_levels_map_text (values : List String) :
    itemLevels (values.map Json.text) = 0 := by
  apply Nat.le_zero.1
  apply item_levels_le.2
  intro item member
  obtain ⟨value, _, rfl⟩ := List.mem_map.1 member
  exact Nat.le_refl 0

theorem Json.levels_texts_le (values : List String) : (texts values).levels ≤ 1 := by
  apply levels_list_le_iff.2
  exact item_levels_le.1 (item_levels_map_text values).le

theorem Json.levels_texts {values : List String} (some : values ≠ []) :
    (texts values).levels = 1 := by
  have items : values.map Json.text ≠ [] := fun none => some (List.map_eq_nil_iff.1 none)
  rw [texts, levels_list items, item_levels_map_text]

namespace HashNode

mutual

/-- The number of packages below the node, each of them within the one before. -/
def height : HashNode → Nat
  | ⟨_, _, _, _, _, children⟩ => heightBelow children

def heightBelow : List HashNode → Nat
  | [] => 0
  | child :: others => max (child.height + 1) (heightBelow others)

end

/-- Every node at and below this one counts a class.  So a node without children holds one. -/
def Counted (node : HashNode) : Prop := node.Every fun inner => 0 < inner.classCount

theorem counted_of_package (options : HashOptions) {package : PackageNode}
    (counts : 0 < (ofPackage options package).classCount) :
    (ofPackage options package).Counted := by
  induction package with
  | node segment classes children ih =>
      refine .node counts ?_
      intro child member
      rw [ofPackage] at member
      obtain ⟨origin, isChild, rfl, below⟩ := (mem_of_packages options children child).1 member
      exact ih origin isChild below

theorem levels_to_json {node : HashNode} (hashed : node.Hashed) (counted : node.Counted) :
    node.toJson.levels = 2 * node.height + 2 := by
  induction node with
  | node segment nodeHash subtreeHash classHashes classCount children ih =>
      have below : ∀ nodes : List HashNode, (∀ child ∈ nodes, child ∈ children) →
          Json.itemLevels (nodes.map toJson) = 2 * heightBelow nodes := by
        intro nodes part
        induction nodes with
        | nil => rfl
        | cons child others rest =>
            have isChild := part child List.mem_cons_self
            have first :=
              ih child isChild (hashed.within child isChild) (counted.within child isChild)
            have others := rest fun node member => part node (List.mem_cons_of_mem child member)
            rw [List.map_cons, Json.itemLevels, first, others, heightBelow]
            omega
      have whole := below children fun child member => member
      rw [toJson, all_to_json_eq_map, height]
      cases children with
      | nil =>
          have some : classHashes ≠ [] := by
            rintro rfl
            have positive := counted.here
            rw [hashed.class_count_eq] at positive
            exact Int.lt_irrefl 0 positive
          simp only [List.map_nil, Json.levels, Json.fieldLevels, Json.levels_texts some,
            heightBelow]
          decide
      | cons child others =>
          have list : (Json.list ((child :: others).map toJson)).levels =
              2 * heightBelow (child :: others) + 1 := by
            rw [Json.levels_list (by simp), whole]
          have own := Json.levels_texts_le classHashes
          have some : 0 < heightBelow (child :: others) := by
            rw [heightBelow]
            omega
          simp only [Json.levels, Json.fieldLevels, list]
          omega

end HashNode

/-- The tallest hash trees of which a record is read back.  A node takes up two levels of the
record, itself and the list of its children, and there are levels around the root. -/
def tallest : Nat := 97

/-- No hash tree has more packages within one another than a record may have. -/
def Fingerprint.Shallow (fingerprint : Fingerprint) : Prop :=
  ∀ tree ∈ fingerprint.hashTrees, tree.root.height ≤ tallest

instance (fingerprint : Fingerprint) : Decidable fingerprint.Shallow :=
  inferInstanceAs (Decidable (∀ tree ∈ fingerprint.hashTrees, _))

theorem HashTree.levels_to_json {tree : HashTree} (hashed : tree.root.Hashed)
    (counted : tree.root.Counted) : tree.toJson.levels = 2 * tree.root.height + 3 := by
  have path := Json.levels_texts_le tree.rootPath
  have root := HashNode.levels_to_json hashed counted
  simp only [toJson, Json.levels, Json.fieldLevels, root]
  omega

theorem StoredClass.levels_to_json_le (stored : StoredClass) : stored.toJson.levels ≤ 2 := by
  have package := Json.levels_texts_le stored.package
  have signatures := Json.levels_texts_le stored.signatures
  simp only [toJson, Json.levels, Json.fieldLevels]
  omega

theorem LibraryDescription.levels_to_json (description : LibraryDescription) :
    description.toJson.levels = 1 := by
  have date : (Json.ofOption (fun date : Date => .text date.text)
      description.releaseDate).levels = 0 := by
    cases description.releaseDate <;> rfl
  have comment : (Json.ofOption .text description.comment).levels = 0 := by
    cases description.comment <;> rfl
  simp only [toJson, fields, Json.levels, Json.fieldLevels, date, comment]
  decide

namespace Fingerprint.ProfiledFrom

variable {fingerprint : Fingerprint} {classes : List ClassDescriptor} {options : HashOptions}
  {hashed : HashTree}

theorem counted_root (profiled : fingerprint.ProfiledFrom classes options)
    (member : hashed ∈ fingerprint.hashTrees) : hashed.root.Counted := by
  have counts := profiled.counted member
  obtain ⟨path, package, _, rfl⟩ := profiled.made member
  exact HashNode.counted_of_package options counts

/-- The record of a profiled library stays within the limit on nesting exactly if the library
is shallow: two levels a package and five around the root. -/
theorem levels_le_iff (profiled : fingerprint.ProfiledFrom classes options)
    {record : FingerprintRecord} (told : fingerprint.toRecord = .valid record) :
    record.toJson.levels ≤ Json.nestingLimit ↔ fingerprint.Shallow := by
  obtain ⟨_, rfl⟩ := to_record_eq_valid_iff.1 told
  have library := LibraryDescription.levels_to_json fingerprint.description
  have classes : (Json.list ((fingerprint.packageTree.classes.map
      StoredClass.ofDescriptor).map StoredClass.toJson)).levels ≤ 3 := by
    apply Json.levels_list_le_iff.2
    intro item member
    obtain ⟨stored, _, rfl⟩ := List.mem_map.1 member
    exact stored.levels_to_json_le
  have trees : (Json.list (fingerprint.hashTrees.map HashTree.toJson)).levels ≤ 198 + 1 ↔
      fingerprint.Shallow := by
    rw [Json.levels_list_le_iff, List.forall_mem_map]
    refine forall₂_congr fun tree member => ?_
    rw [HashTree.levels_to_json (profiled.built tree member).hashed_root
      (profiled.counted_root member), tallest]
    omega
  rw [← trees, Json.nestingLimit]
  simp only [FingerprintRecord.toJson, Json.levels, Json.fieldLevels, library]
  omega

end Fingerprint.ProfiledFrom

end LibraryDetection
