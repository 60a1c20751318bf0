import LibraryDetection.ClassDump.File
import LibraryDetection.Proofs.ClassDump.Reader
import LibraryDetection.Proofs.Json.Extent
import LibraryDetection.Proofs.Json.Reread
import LibraryDetection.Proofs.Store.FileTree

/-!
# Dump files and their records
-/

namespace LibraryDetection.FileTree

set_option autoImplicit false

/-- The file at the path is a list of the records, or an object with this list of classes. -/
def HoldsRecords (files : FileTree) (path : FilePath) (records : List Json) : Prop :=
  ∃ chars dump, files.readChars path = .ok chars ∧ Json.read chars = .ok dump ∧
    (dump = .list records ∨
      ∃ fields, dump = .object fields ∧ Json.field? "classes" fields = some (.list records))

variable {files : FileTree} {path : FilePath} {records : List Json} {classes : List DumpedClass}

theorem holds_records_of_read_bytes (plain : ∀ record ∈ records, record.Plain)
    (read : files.readBytes path =
      .ok (Text.Utf8.encode (Json.write Json.recordStyle (.list records)))) :
    files.HoldsRecords path records := by
  have whole : (Json.list records).Plain := .list plain
  refine ⟨_, .list records, ?_, Json.read_write whole, .inl rfl⟩
  exact read_chars_of_read_bytes (Json.return_not_mem_written whole.float_free) read

theorem read_class_dump_eq_ok_iff {dump : Json} :
    LibraryDetection.readClassDump dump = .ok classes ↔
      ∃ records, (dump = .list records ∨
          ∃ fields, dump = .object fields ∧
            Json.field? "classes" fields = some (.list records)) ∧
        DumpedClass.allOfJson 0 records = .ok classes := by
  cases dump with
  | list items =>
      constructor
      · intro done
        exact ⟨items, .inl rfl, done⟩
      · rintro ⟨records, same | ⟨fields, same, _⟩, read⟩
        · cases same
          exact read
        · cases same
  | object fields =>
      rw [LibraryDetection.readClassDump]
      constructor
      · intro done
        split at done
        · rename_i items found
          exact ⟨items, .inr ⟨fields, rfl, found⟩, done⟩
        · cases done
      · rintro ⟨records, same | ⟨others, same, found⟩, read⟩
        · cases same
        · cases same
          rw [found]
          exact read
  | _ =>
      constructor
      · intro done
        cases done
      · rintro ⟨records, same | ⟨fields, same, _⟩, _⟩ <;> cases same

theorem read_class_dump_of_holds_records (holds : files.HoldsRecords path records)
    (read : DumpedClass.allOfJson 0 records = .ok classes) :
    files.readClassDump path = .ok classes := by
  obtain ⟨chars, dump, opened, parsed, form⟩ := holds
  rw [FileTree.readClassDump, opened]
  dsimp only
  rw [parsed]
  dsimp only
  rw [read_class_dump_eq_ok_iff.2 ⟨records, form, read⟩]

theorem all_of_json_of_read_class_dump (holds : files.HoldsRecords path records)
    (read : files.readClassDump path = .ok classes) :
    DumpedClass.allOfJson 0 records = .ok classes := by
  obtain ⟨chars, dump, opened, parsed, form⟩ := holds
  rw [FileTree.readClassDump, opened] at read
  dsimp only at read
  rw [parsed] at read
  dsimp only at read
  cases found : LibraryDetection.readClassDump dump with
  | error fault =>
      rw [found] at read
      cases read
  | ok others =>
      rw [found] at read
      cases read
      obtain ⟨listed, otherForm, told⟩ := read_class_dump_eq_ok_iff.1 found
      have same : listed = records := by
        rcases form with rfl | ⟨fields, rfl, here⟩
        · rcases otherForm with same | ⟨_, same, _⟩
          · cases same
            rfl
          · cases same
        · rcases otherForm with same | ⟨others, same, there⟩
          · cases same
          · cases same
            rw [here] at there
            cases there
            rfl
      rw [← same]
      exact told

theorem kind_mem_all_of_read_class_dump (read : files.readClassDump path = .ok classes) :
    ∀ dumped ∈ classes, dumped.kind ∈ ClassKind.all := by
  rw [FileTree.readClassDump] at read
  split at read
  · cases read
  · split at read
    · cases read
    · split at read
      · cases read
      · rename_i found
        cases read
        obtain ⟨records, _, told⟩ := read_class_dump_eq_ok_iff.1 found
        exact DumpedClass.kind_mem_all_of_all_of_json told

theorem exists_length_le_of_read_class_dump (read : files.readClassDump path = .ok classes) :
    ∃ bytes, files.readBytes path = .ok bytes ∧ classes.length ≤ bytes.length := by
  rw [FileTree.readClassDump] at read
  split at read
  · cases read
  · rename_i chars opened
    obtain ⟨bytes, held, fewer⟩ := exists_length_le_of_read_chars opened
    refine ⟨bytes, held, ?_⟩
    split at read
    · cases read
    · rename_i dump parsed
      split at read
      · cases read
      · rename_i found
        cases read
        obtain ⟨records, form, told⟩ := read_class_dump_eq_ok_iff.1 found
        have within := Json.within_of_read parsed
        have short : (Json.list records).Within chars.length := by
          rcases form with rfl | ⟨fields, rfl, listed⟩
          · exact within
          · exact within.of_field? listed
        have many := ((DumpedClass.all_of_json_eq_ok_iff 0).1 told).length_eq
        have records := short.length_le
        omega

theorem read_class_dump_eq_bad_path_iff :
    (∃ reason, files.readClassDump path = .error (.badPath reason)) ↔ hasNull path = true := by
  rw [← @read_chars_eq_null_character_iff files, FileTree.readClassDump]
  constructor
  · rintro ⟨reason, failed⟩
    cases read : files.readChars path with
    | error fault => cases fault <;> simp [read, DumpFileError.ofAccess] at failed ⊢
    | ok chars =>
        simp only [read] at failed
        split at failed
        · rw [DumpFileError.ofJsonFault] at failed
          split at failed <;> simp at failed
        · split at failed <;> simp at failed
  · intro null
    exact ⟨.nullCharacter, by rw [null]; rfl⟩

end LibraryDetection.FileTree
