import LibraryDetection.Fingerprint.Basic
import LibraryDetection.Validation.Library

/-!
# Fingerprint records

The stored form of a fingerprint: its classes with their members, and its hash trees
node by node.
-/

namespace LibraryDetection

set_option autoImplicit false

open Validation

/-- A class as a record tells it; its hash need not be that of its signatures. -/
structure StoredClass where
  package : PackagePath
  name : String
  kind : ClassKind
  signatures : List String
  contentHash : String
  deriving DecidableEq, Repr

structure FingerprintRecord where
  library : LibraryDescription
  classes : List StoredClass
  hashTrees : List HashTree

def StoredClass.ofDescriptor (descriptor : ClassDescriptor) : StoredClass :=
  { package := descriptor.package
    name := descriptor.simpleName
    kind := descriptor.kind
    signatures := sortTexts descriptor.signatures
    contentHash := descriptor.contentHash }

/-- The record of a fingerprint.  A class whose kind is none of the six has no record. -/
def Fingerprint.toRecord (fingerprint : Fingerprint) : Checked FingerprintRecord :=
  let classes := fingerprint.packageTree.classes
  if classes.all (ClassKind.all.contains ·.kind) then
    .valid ⟨fingerprint.description, classes.map StoredClass.ofDescriptor,
      fingerprint.hashTrees⟩
  else Checked.within (.field "kind") (.violates .choice)

def StoredClass.toJson (stored : StoredClass) : Json :=
  .object
    [("package", Json.texts stored.package),
      ("name", .text stored.name),
      ("kind", .text stored.kind.label),
      ("signatures", Json.texts stored.signatures),
      ("content_hash", .text stored.contentHash)]

mutual

def HashNode.toJson : HashNode → Json
  | ⟨segment, nodeHash, subtreeHash, classHashes, classCount, children⟩ =>
      .object
        [("segment", .text segment),
          ("node_hash", .text nodeHash),
          ("subtree_hash", .text subtreeHash),
          ("class_hashes", Json.texts classHashes),
          ("class_count", .whole classCount),
          ("children", .list (HashNode.allToJson children))]

def HashNode.allToJson : List HashNode → List Json
  | [] => []
  | child :: others => child.toJson :: HashNode.allToJson others

end

def HashTree.toJson (tree : HashTree) : Json :=
  .object
    [("root_path", Json.texts tree.rootPath),
      ("filter_inner_classes", .bool tree.options.filterInnerClasses),
      ("filter_duplicates", .bool tree.options.filterDuplicates),
      ("root", tree.root.toJson)]

def schemaVersion : String := "1.0"

def FingerprintRecord.toJson (record : FingerprintRecord) : Json :=
  .object
    [("schema_version", .text schemaVersion),
      ("library", record.library.toJson),
      ("classes", .list (record.classes.map StoredClass.toJson)),
      ("hash_trees", .list (record.hashTrees.map HashTree.toJson))]

def storedClass (value : Json) : Checked StoredClass :=
  (object value).andThen fun fields =>
    StoredClass.mk
      <$> required "package" (list text) fields
      <*> required "name" text fields
      <*> optional "kind" .topLevel (choice ClassKind.known?) fields
      <*> optional "signatures" [] (list text) fields
      <*> required "content_hash" text fields

def hashNodeOf (fields : List (String × Json)) (children : Checked (List HashNode)) :
    Checked HashNode :=
  HashNode.mk
    <$> required "segment" text fields
    <*> required "node_hash" text fields
    <*> required "subtree_hash" text fields
    <*> optional "class_hashes" [] (list text) fields
    <*> required "class_count" whole fields
    <*> Checked.within (.field "children") children

mutual

def hashNode : Json → Checked HashNode
  | .object fields => hashNodeOf fields (hashNodeChildren fields)
  | _ => .violates .object

def hashNodeChildren : List (String × Json) → Checked (List HashNode)
  | [] => .valid []
  | (name, value) :: rest =>
      if name = "children" then hashNodeList value else hashNodeChildren rest

def hashNodeList : Json → Checked (List HashNode)
  | .list items => hashNodesFrom 0 items
  | _ => .violates .list

def hashNodesFrom : Nat → List Json → Checked (List HashNode)
  | _, [] => .valid []
  | index, item :: rest =>
      List.cons <$> Checked.within (.item index) (hashNode item)
        <*> hashNodesFrom (index + 1) rest

end

def hashTree (value : Json) : Checked HashTree :=
  (object value).andThen fun fields =>
    (fun rootPath inner duplicates root => HashTree.mk rootPath root ⟨inner, duplicates⟩)
      <$> required "root_path" (list text) fields
      <*> optional "filter_inner_classes" false truth fields
      <*> optional "filter_duplicates" false truth fields
      <*> required "root" hashNode fields

/-- The record that a JSON value tells.  Its version is checked to be a text and not
kept. -/
def fingerprintRecord (value : Json) : Checked FingerprintRecord :=
  (object value).andThen fun fields =>
    (fun _ description classes trees => FingerprintRecord.mk description classes trees)
      <$> optional "schema_version" schemaVersion text fields
      <*> required "library" library fields
      <*> optional "classes" [] (list storedClass) fields
      <*> optional "hash_trees" [] (list hashTree) fields

end LibraryDetection
