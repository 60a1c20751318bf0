import LibraryDetection.Fingerprint.File
import LibraryDetection.Proofs.HashTree.Hashing
import LibraryDetection.Proofs.Json.Strict
import LibraryDetection.Proofs.Library.Description

/-!
# Records told and checked

The form of a record passes the checks of records and gives the record again.  Its text is
read back as that form where the limit on nesting allows it.
-/

namespace LibraryDetection

set_option autoImplicit false

open LibraryDetection.Text LibraryDetection.Number LibraryDetection.Validation

theorem plain_texts (values : List String) : (Json.texts values).Plain := by
  apply Json.Plain.list
  intro item member
  obtain ⟨value, _, rfl⟩ := List.mem_map.1 member
  exact .text value

namespace StoredClass

theorem stored_class_to_json {stored : StoredClass} (known : stored.kind ∈ ClassKind.all) :
    storedClass stored.toJson = .valid stored := by
  obtain ⟨package, name, kind, signatures, contentHash⟩ := stored
  have byPackage (rest : List (String × Json)) :
      required "package" (list text) (("package", Json.texts package) :: rest) = .valid package :=
    required_of_field? _ rfl (list_text_texts package)
  have byKind : choice ClassKind.known? (.text kind.label) = .valid kind := by
    rw [choice, ClassKind.known?_label known]
  rw [storedClass, toJson, object, Checked.and_then_valid, byPackage,
    optional_of_field? .topLevel rfl byKind,
    optional_of_field? [] rfl (list_text_texts signatures)]
  rfl

theorem plain_to_json (stored : StoredClass) : stored.toJson.Plain := by
  apply Json.Plain.object
  · exact of_decide_eq_true rfl
  · simp only [List.forall_mem_cons]
    refine ⟨plain_texts _, .text _, .text _, plain_texts _, .text _, ?_⟩
    intro field member
    cases member

end StoredClass

namespace HashNode

theorem all_to_json_eq_map (nodes : List HashNode) : allToJson nodes = nodes.map toJson := by
  induction nodes with
  | nil => rfl
  | cons node rest ih => rw [allToJson, ih, List.map_cons]

theorem hash_nodes_from_map {nodes : List HashNode}
    (passes : ∀ node ∈ nodes, hashNode node.toJson = .valid node) (index : Nat) :
    hashNodesFrom index (nodes.map toJson) = .valid nodes := by
  induction nodes generalizing index with
  | nil => rfl
  | cons node rest ih =>
      have others := ih (fun other member => passes other (List.mem_cons_of_mem node member))
        (index + 1)
      rw [List.map_cons, hashNodesFrom, passes node List.mem_cons_self, others]
      rfl

theorem hash_node_to_json (node : HashNode) : hashNode node.toJson = .valid node := by
  induction node with
  | node segment nodeHash subtreeHash classHashes classCount children ih =>
      have below := hash_nodes_from_map ih 0
      have byHashes : list text (Json.texts classHashes) = .valid classHashes :=
        list_text_texts classHashes
      rw [toJson, all_to_json_eq_map, hashNode]
      simp only [hashNodeChildren, hashNodeList, below]
      rw [hashNodeOf, optional_of_field? [] rfl byHashes]
      rfl

def Countable (node : HashNode) : Prop :=
  node.Every fun inner => (digitsOf inner.classCount.natAbs).length ≤ digitLimit

theorem plain_to_json {node : HashNode} (countable : node.Countable) : node.toJson.Plain := by
  induction node with
  | node segment nodeHash subtreeHash classHashes classCount children ih =>
      rw [toJson, all_to_json_eq_map]
      apply Json.Plain.object
      · exact of_decide_eq_true rfl
      · simp only [List.forall_mem_cons]
        refine ⟨.text _, .text _, .text _, plain_texts _, .whole countable.here, ?_, ?_⟩
        · apply Json.Plain.list
          intro item member
          obtain ⟨child, isChild, rfl⟩ := List.mem_map.1 member
          exact ih child isChild (countable.within child isChild)
        · intro field member
          cases member

theorem float_free_to_json (node : HashNode) : node.toJson.FloatFree := by
  induction node with
  | node segment nodeHash subtreeHash classHashes classCount children ih =>
      rw [toJson, all_to_json_eq_map]
      apply Json.FloatFree.object
      simp only [List.forall_mem_cons]
      refine ⟨.text _, .text _, .text _, (plain_texts _).float_free, .whole _, ?_, ?_⟩
      · apply Json.FloatFree.list
        intro item member
        obtain ⟨child, isChild, rfl⟩ := List.mem_map.1 member
        exact ih child isChild
      · intro field member
        cases member

end HashNode

namespace HashTree

theorem hash_tree_to_json (tree : HashTree) : hashTree tree.toJson = .valid tree := by
  obtain ⟨rootPath, root, ⟨inner, duplicates⟩⟩ := tree
  have byPath (rest : List (String × Json)) :
      required "root_path" (list text) (("root_path", Json.texts rootPath) :: rest) =
        .valid rootPath :=
    required_of_field? _ rfl (list_text_texts rootPath)
  have byRoot := HashNode.hash_node_to_json root
  rw [hashTree, toJson, object, Checked.and_then_valid, byPath,
    required_of_field? hashNode rfl byRoot]
  rfl

theorem plain_to_json {tree : HashTree} (countable : tree.root.Countable) :
    tree.toJson.Plain := by
  apply Json.Plain.object
  · exact of_decide_eq_true rfl
  · simp only [List.forall_mem_cons]
    refine ⟨plain_texts _, .bool _, .bool _, HashNode.plain_to_json countable, ?_⟩
    intro field member
    cases member

theorem float_free_to_json (tree : HashTree) : tree.toJson.FloatFree := by
  apply Json.FloatFree.object
  simp only [List.forall_mem_cons]
  refine ⟨(plain_texts _).float_free, .bool _, .bool _, HashNode.float_free_to_json tree.root, ?_⟩
  intro field member
  cases member

end HashTree

namespace FingerprintRecord

/-- The counts of the record can be read and the kinds of its classes are known. -/
structure Readable (record : FingerprintRecord) : Prop where
  kinds : ∀ stored ∈ record.classes, stored.kind ∈ ClassKind.all
  counts : ∀ tree ∈ record.hashTrees, tree.root.Countable

variable {record : FingerprintRecord}

theorem fingerprint_record_to_json (readable : record.Readable) :
    fingerprintRecord record.toJson = .valid record := by
  obtain ⟨description, classes, trees⟩ := record
  have byLibrary := LibraryDescription.library_to_json description
  have byClasses : list storedClass (.list (classes.map StoredClass.toJson)) = .valid classes :=
    list_map fun stored member => StoredClass.stored_class_to_json (readable.kinds stored member)
  have byTrees : list hashTree (.list (trees.map HashTree.toJson)) = .valid trees :=
    list_map fun tree _ => HashTree.hash_tree_to_json tree
  rw [fingerprintRecord, toJson, object, Checked.and_then_valid,
    required_of_field? Validation.library rfl byLibrary,
    optional_of_field? [] rfl byClasses, optional_of_field? [] rfl byTrees]
  rfl

theorem plain_to_json (readable : record.Readable) : record.toJson.Plain := by
  apply Json.Plain.object
  · exact of_decide_eq_true rfl
  · simp only [List.forall_mem_cons]
    refine ⟨.text _, LibraryDescription.plain_to_json _, ?_, ?_, ?_⟩
    · apply Json.Plain.list
      intro item member
      obtain ⟨stored, _, rfl⟩ := List.mem_map.1 member
      exact StoredClass.plain_to_json stored
    · apply Json.Plain.list
      intro item member
      obtain ⟨tree, isTree, rfl⟩ := List.mem_map.1 member
      exact HashTree.plain_to_json (readable.counts tree isTree)
    · intro field member
      cases member

theorem of_chars_text (readable : record.Readable) :
    ofChars record.text.toList =
      if record.toJson.levels ≤ Json.nestingLimit then .valid record
      else .violates .validJson := by
  rw [ofChars, text, Json.read_strictly_write (plain_to_json readable)]
  by_cases fits : record.toJson.levels ≤ Json.nestingLimit
  · rw [if_pos fits, if_pos fits]
    exact fingerprint_record_to_json readable
  · rw [if_neg fits, if_neg fits]

theorem eq_of_of_chars_text (readable : record.Readable) {other : FingerprintRecord}
    (read : ofChars record.text.toList = .valid other) : other = record := by
  rw [of_chars_text readable] at read
  split at read
  · cases read
    rfl
  · cases read

theorem float_free_to_json (record : FingerprintRecord) : record.toJson.FloatFree := by
  apply Json.FloatFree.object
  simp only [List.forall_mem_cons]
  refine ⟨.text _, (LibraryDescription.plain_to_json _).float_free, ?_, ?_, ?_⟩
  · apply Json.FloatFree.list
    intro item member
    obtain ⟨stored, _, rfl⟩ := List.mem_map.1 member
    exact (StoredClass.plain_to_json stored).float_free
  · apply Json.FloatFree.list
    intro item member
    obtain ⟨tree, _, rfl⟩ := List.mem_map.1 member
    exact HashTree.float_free_to_json tree
  · intro field member
    cases member

theorem return_not_mem_text (record : FingerprintRecord) : '\r' ∉ record.text.toList :=
  Json.return_not_mem_written record.float_free_to_json

end FingerprintRecord

end LibraryDetection
