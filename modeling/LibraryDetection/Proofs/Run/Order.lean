import LibraryDetection.Proofs.ClassDump.Order
import LibraryDetection.Proofs.Fingerprint.Order
import LibraryDetection.Proofs.Run.ProfileIsolation
import LibraryDetection.Proofs.Store.Layout

/-!
# The order of a dump in runs

A dump is rewritten with its records, and the methods and the fields of each, in another
order.  A run over a library then stores the same bytes at the same path and gives a report
that tells the same; a run over an application gives the same report.  Where the one run
fails or skips, so does the other.
-/

namespace LibraryDetection

set_option autoImplicit false

/-- Reports that tell the same whatever time was taken; if they tell the path of a fingerprint,
the file there holds the same bytes after both runs. -/
structure ProfileReport.Alike (left right : FileTree) (report other : ProfileReport) : Prop where
  told : ∀ elapsed, report.toJson elapsed = other.toJson elapsed
  written : ∀ path, report.outcome.path? = some path →
    ∃ bytes, left.readBytes path = .ok bytes ∧ right.readBytes path = .ok bytes

theorem ProfileReport.alike_refl {report : ProfileReport} (left right : FileTree)
    (bare : report.outcome.path? = none) : report.Alike left right report := by
  refine ⟨fun _ => rfl, fun path told => ?_⟩
  rw [bare] at told
  cases told

theorem ProfileReport.alike_stored {left right : FileTree} {fingerprint other : Fingerprint}
    (alike : fingerprint.Reordered other) (source : String) (library : ReadLibrary)
    (warnings : List String) {path : FilePath} {bytes : List UInt8}
    (read : left.readBytes path = .ok bytes) (otherRead : right.readBytes path = .ok bytes) :
    ProfileReport.Alike left right ⟨source, .stored library fingerprint path warnings⟩
      ⟨source, .stored library other path warnings⟩ := by
  constructor
  · intro elapsed
    have roots : fingerprint.packageTree.rootPackage? = other.packageTree.rootPackage? :=
      PackageTree.root_package?_eq alike.partners
    have packages : fingerprint.packageTree.packageCount = other.packageTree.packageCount :=
      PackageTree.package_count_eq alike.partners
    have classes : fingerprint.classCount = other.classCount := by
      rw [Fingerprint.classCount, Fingerprint.classCount, alike.hashTrees]
    simp only [toJson, classCount, packageCount, treeCount, isSkipped, hasFailed,
      ProfileOutcome.fingerprint?, ProfileOutcome.library?, ProfileOutcome.path?,
      ProfileOutcome.reason?, ProfileOutcome.warnings, ProfileOutcome.error?, Option.map_some,
      Option.getD_some, Option.bind_some, roots, packages, classes, alike.hashTrees]
    rfl
  · rintro place ⟨⟩
    exact ⟨bytes, read, otherRead⟩

/-- Assessments of one library, with fingerprints that are alike if there are any. -/
inductive Assessment.Alike : Assessment → Assessment → Prop
  | ready {fingerprint other : Fingerprint} (library : ReadLibrary) (warnings : List String)
      (alike : fingerprint.Reordered other) :
      Alike (.ready library fingerprint warnings) (.ready library other warnings)
  | empty (library : ReadLibrary) (reason : String) :
      Alike (.empty library reason) (.empty library reason)

namespace FileTree

variable {files others : FileTree}

section Dumps

variable {path : FilePath} {records reordered : List Json}

theorem read_class_dump_alike (holds : files.HoldsRecords path records)
    (otherHolds : others.HoldsRecords path reordered)
    (alike : Paired RecordReordered records reordered) :
    EndAlike (Paired DumpedClass.Reordered) (files.readClassDump path)
      (others.readClassDump path) := by
  apply end_alike_of_exists
  · intro classes read
    obtain ⟨more, readMore, same⟩ :=
      DumpedClass.exists_all_of_json alike (all_of_json_of_read_class_dump holds read)
    exact ⟨more, read_class_dump_of_holds_records otherHolds readMore, same⟩
  · intro more read
    have back := alike.flip.imp fun _ _ pair => pair.symm
    obtain ⟨classes, readClasses, _⟩ :=
      DumpedClass.exists_all_of_json back (all_of_json_of_read_class_dump otherHolds read)
    exact ⟨classes, read_class_dump_of_holds_records holds readClasses⟩

end Dumps

section Profiles

variable {profiles : FilePath} {options : DetectionOptions} {artifact : Artifact}

theorem save_fingerprint_alike (layout : files.SameLayout others) {fingerprint other : Fingerprint}
    {record : FingerprintRecord} (told : fingerprint.toRecord = .valid record)
    (otherTold : other.toRecord = .valid record)
    (described : fingerprint.description = other.description) :
    EndAlike (fun path partner => path = partner ∧ ∃ bytes,
        (files.saveFingerprint profiles fingerprint).2.readBytes path = .ok bytes ∧
        (others.saveFingerprint profiles other).2.readBytes path = .ok bytes)
      (files.saveFingerprint profiles fingerprint).1.result
      (others.saveFingerprint profiles other).1.result := by
  have together : (∃ path, (files.saveFingerprint profiles fingerprint).1.result = .ok path) ↔
      ∃ path, (others.saveFingerprint profiles other).1.result = .ok path := by
    rw [exists_saved_iff told, exists_saved_iff otherTold, described, layout.admits_iff]
  apply end_alike_of_exists _ fun place otherSaved => together.2 ⟨place, otherSaved⟩
  intro path saved
  obtain ⟨place, otherSaved⟩ := together.1 ⟨path, saved⟩
  have same : path = place := by
    rw [(save_fingerprint_eq_ok saved rfl).1, (save_fingerprint_eq_ok otherSaved rfl).1, described]
  subst same
  obtain ⟨first, firstTold, bytes⟩ := exists_read_bytes_of_saved layout.ordered saved
  obtain ⟨second, secondTold, otherBytes⟩ :=
    exists_read_bytes_of_saved layout.otherOrdered otherSaved
  have one : first = record := Validation.Checked.valid.inj (firstTold.symm.trans told)
  have two : second = record := Validation.Checked.valid.inj (secondTold.symm.trans otherTold)
  rw [one] at bytes
  rw [two] at otherBytes
  exact ⟨path, otherSaved, rfl, _, bytes, otherBytes⟩

theorem assess_alike
    (fixed : others.readMetadata (FilePath.ofText artifact.metadata) =
      files.readMetadata (FilePath.ofText artifact.metadata))
    (dumps : EndAlike (Paired DumpedClass.Reordered)
      (files.readClassDump (FilePath.ofText artifact.dump))
      (others.readClassDump (FilePath.ofText artifact.dump))) :
    EndAlike Assessment.Alike (files.assess options artifact).result
      (others.assess options artifact).result := by
  rw [result_assess, result_assess, fixed]
  cases files.readMetadata (FilePath.ofText artifact.metadata) with
  | error error => exact .error _ _
  | ok description =>
      dsimp only
      generalize files.readClassDump (FilePath.ofText artifact.dump) = read at dumps ⊢
      generalize others.readClassDump (FilePath.ofText artifact.dump) = otherRead at dumps ⊢
      cases dumps with
      | error fault other => exact .error _ _
      | @ok classes more alike =>
          have profiles := profile_library_alike (descriptors_perm alike options.members)
            description options.hash
          dsimp only
          rw [DumpStatistics.of_classes_eq alike]
          generalize profileLibrary (classes.map _) description options.hash = profile
            at profiles ⊢
          generalize profileLibrary (more.map _) description options.hash = other at profiles ⊢
          cases profiles with
          | malformed fault other => exact .error _ _
          | empty warnings label => exact .ok (.empty _ _)
          | done warnings alike => exact .ok (.ready _ warnings alike)

theorem profile_artifact_alike_of_ready (layout : files.SameLayout others) {library : ReadLibrary}
    {fingerprint other : Fingerprint} {warnings : List String}
    (assessed : (files.assess options artifact).result =
      .ok (.ready library fingerprint warnings))
    (otherAssessed : (others.assess options artifact).result =
      .ok (.ready library other warnings))
    (alike : fingerprint.Reordered other)
    (apart : ∀ classes, files.readClassDump (FilePath.ofText artifact.dump) = .ok classes →
      ToldApart (classes.map (·.toDescriptor options.members))) :
    EndAlike (ProfileReport.Alike (files.profileArtifact profiles options artifact).2
        (others.profileArtifact profiles options artifact).2)
      (files.profileArtifact profiles options artifact).1.result
      (others.profileArtifact profiles options artifact).1.result := by
  obtain ⟨record, told⟩ := exists_to_record_of_ready assessed
  obtain ⟨classes, read, result⟩ := assess_eq_ready assessed
  obtain ⟨tree, made, _, same⟩ := profile_library_eq_ok_iff.1 result
  have otherTold := alike.to_record_eq (same ▸ made) (apart classes read)
  have saved := @save_fingerprint_alike files others profiles layout _ _ record told
    (otherTold ▸ told) alike.description
  obtain ⟨first, leaves⟩ := @profile_artifact_of_ready files options artifact _ _ _
    profiles assessed
  obtain ⟨second, otherLeaves⟩ := @profile_artifact_of_ready others options artifact _ _ _
    profiles otherAssessed
  rw [first, second, leaves, otherLeaves]
  generalize (files.saveFingerprint profiles _).1.result = stored at saved ⊢
  generalize (others.saveFingerprint profiles _).1.result = otherStored at saved ⊢
  cases saved with
  | error failure other => exact .error failure other
  | ok written =>
      obtain ⟨rfl, bytes, here, there⟩ := written
      exact .ok (ProfileReport.alike_stored alike _ _ _ here there)

theorem profile_artifact_alike (layout : files.SameLayout others)
    (fixed : others.readMetadata (FilePath.ofText artifact.metadata) =
      files.readMetadata (FilePath.ofText artifact.metadata))
    (dumps : EndAlike (Paired DumpedClass.Reordered)
      (files.readClassDump (FilePath.ofText artifact.dump))
      (others.readClassDump (FilePath.ofText artifact.dump)))
    (apart : ∀ classes, files.readClassDump (FilePath.ofText artifact.dump) = .ok classes →
      ToldApart (classes.map (·.toDescriptor options.members))) :
    EndAlike (ProfileReport.Alike (files.profileArtifact profiles options artifact).2
        (others.profileArtifact profiles options artifact).2)
      (files.profileArtifact profiles options artifact).1.result
      (others.profileArtifact profiles options artifact).1.result := by
  have assessments := @assess_alike files others options artifact fixed dumps
  generalize assessed : (files.assess options artifact).result = one at assessments
  generalize otherAssessed : (others.assess options artifact).result = two at assessments
  cases assessments with
  | error failure other =>
      rw [(profile_artifact_of_assess_error assessed).1,
        (profile_artifact_of_assess_error otherAssessed).1]
      exact .error failure other
  | ok alike =>
      cases alike with
      | empty library reason =>
          rw [(profile_artifact_of_empty assessed).1, (profile_artifact_of_empty otherAssessed).1]
          exact .ok (ProfileReport.alike_refl _ _ rfl)
      | ready library warnings alike =>
          exact profile_artifact_alike_of_ready layout assessed otherAssessed alike apart

end Profiles

theorem match_application_alike {application : String} (corpus : Corpus)
    (settings : MatchSettings) (options : DetectionOptions)
    (dumps : EndAlike (Paired DumpedClass.Reordered)
      (files.readClassDump (FilePath.ofText application))
      (others.readClassDump (FilePath.ofText application))) :
    EndAlike Eq (files.matchApplication corpus settings options application).result
      (others.matchApplication corpus settings options application).result := by
  rw [result_match_application_eq, result_match_application_eq]
  generalize files.readClassDump (FilePath.ofText application) = read at dumps ⊢
  generalize others.readClassDump (FilePath.ofText application) = otherRead at dumps ⊢
  cases dumps with
  | error fault other => exact .error _ _
  | @ok classes more alike =>
      have trees := PackageTree.of_classes_alike (descriptors_perm alike options.members)
      dsimp only
      generalize PackageTree.ofClasses (classes.map _) = grown at trees ⊢
      generalize PackageTree.ofClasses (more.map _) = otherGrown at trees ⊢
      cases trees with
      | error malformed other => exact .error _ _
      | ok partners =>
          dsimp only
          rw [PackageTree.whole_hash_tree_eq partners options.hash]
          split
          · exact .error _ _
          · exact .ok rfl

/-- The order of the records of a dump, and of the methods and fields in each, does not matter.
With the other files as they are, a run over a library with the one dump or the other stores
the same bytes and gives a report that tells the same, and a run over an application gives the
same report, unless both runs fail. -/
theorem runs_of_reordered {dump : String} {bytes : List UInt8} {records reordered : List Json}
    (ordered : files.Ordered)
    (rewritten : files.writeBytes (FilePath.ofText dump) bytes = .ok others)
    (holds : files.HoldsRecords (FilePath.ofText dump) records)
    (otherHolds : others.HoldsRecords (FilePath.ofText dump) reordered)
    (alike : Paired RecordReordered records reordered) (options : DetectionOptions) :
    (∀ profiles metadata,
      others.readMetadata (FilePath.ofText metadata) =
        files.readMetadata (FilePath.ofText metadata) →
      (∀ classes, files.readClassDump (FilePath.ofText dump) = .ok classes →
        ToldApart (classes.map (·.toDescriptor options.members))) →
      EndAlike (ProfileReport.Alike (files.profileArtifact profiles options ⟨dump, metadata⟩).2
          (others.profileArtifact profiles options ⟨dump, metadata⟩).2)
        (files.profileArtifact profiles options ⟨dump, metadata⟩).1.result
        (others.profileArtifact profiles options ⟨dump, metadata⟩).1.result) ∧
    ∀ corpus settings,
      EndAlike Eq (files.matchApplication corpus settings options dump).result
        (others.matchApplication corpus settings options dump).result := by
  have dumps := read_class_dump_alike holds otherHolds alike
  have layout : files.SameLayout others := by
    obtain ⟨chars, _, read, _, _⟩ := holds
    obtain ⟨old, opened⟩ := exists_read_bytes_of_read_chars read
    exact same_layout_write_bytes ordered opened rewritten
  refine ⟨?_, fun corpus settings => match_application_alike corpus settings options dumps⟩
  intro profiles metadata fixed apart
  exact profile_artifact_alike layout fixed dumps apart

section Codec

def methodRecord (name : String) (methods : List String) : Json :=
  .object [("name", .text name), ("methods", .list (methods.map .text))]

def codecRecords : List Json :=
  [methodRecord "a.Codec" ["encode()V", "decode()V"], namedRecord "a.Coder"]

def shuffledRecords : List Json :=
  [namedRecord "a.Coder", methodRecord "a.Codec" ["decode()V", "encode()V"]]

def dumpOf (records : List Json) : List UInt8 :=
  Text.Utf8.encode (Json.write Json.recordStyle (.list records))

def libraryOf (records : List Json) : FileTree :=
  ⟨.folder [("classes.json", .file (dumpOf records)), ("library.xml", metadataOf "codec")], []⟩

theorem paired_codec_records : Paired RecordReordered codecRecords shuffledRecords := by
  refine ⟨[methodRecord "a.Codec" ["decode()V", "encode()V"], namedRecord "a.Coder"],
    List.Perm.swap _ _ [], .cons (.object fun name => ?_) (.cons (.same _) .nil)⟩
  by_cases isMethods : name = "methods"
  · subst isMethods
    exact .members (.inl rfl) (List.Perm.swap _ _ [])
  · have miss : (name == "methods") = false := beq_eq_false_iff_ne.2 isMethods
    simp only [Json.field?, List.lookup_cons, miss]
    exact .same _

theorem holds_records_library_of {records : List Json} (plain : ∀ record ∈ records, record.Plain) :
    (libraryOf records).HoldsRecords (FilePath.ofText "classes.json") records := by
  have located : (libraryOf records).locate (FilePath.ofText "classes.json") =
      .ok ["classes.json"] := by
    rfl
  exact holds_records_of_read_bytes plain (read_bytes_of_get? located rfl)

theorem plain_method_record (name : String) (methods : List String) :
    (methodRecord name methods).Plain := by
  apply Json.Plain.object
  · exact (by decide : ["name", "methods"].Nodup)
  · intro field member
    simp only [List.mem_cons, List.not_mem_nil, or_false] at member
    rcases member with rfl | rfl
    · exact .text name
    · refine .list fun item isMethod => ?_
      obtain ⟨method, _, rfl⟩ := List.mem_map.1 isMethod
      exact .text method

theorem ordered_library_of (records : List Json) : (libraryOf records).Ordered := by
  apply FileEntry.Ordered.folder
  · exact (List.pairwise_map (f := Prod.fst)).1
      (by decide : ["classes.json", "library.xml"].Pairwise (· < ·))
  · intro entry member
    simp only [List.mem_cons, List.not_mem_nil, or_false] at member
    rcases member with rfl | rfl <;> exact .file _

def codecClasses : List DumpedClass :=
  [⟨"a.Codec", .topLevel, true, [⟨"encode()V", true, false, false, true⟩,
      ⟨"decode()V", true, false, false, true⟩]⟩,
    ⟨"a.Coder", .topLevel, true, []⟩]

theorem all_of_json_codec_records : DumpedClass.allOfJson 0 codecRecords = .ok codecClasses := by
  rw [← toOption_eq_some_iff]
  decide +kernel

theorem told_apart_codec_classes :
    ToldApart (codecClasses.map (·.toDescriptor ({} : DetectionOptions).members)) := by
  intro a isClass b isOther _ _ _ named _
  simp only [codecClasses, List.map_cons, List.map_nil, List.mem_cons, List.not_mem_nil,
    or_false] at isClass isOther
  rcases isClass with rfl | rfl <;> rcases isOther with rfl | rfl
  · rfl
  · exact absurd named (by decide)
  · exact absurd named (by decide)
  · rfl

theorem read_metadata_library_of (records : List Json) :
    (libraryOf records).readMetadata (FilePath.ofText "library.xml") =
      .ok ⟨"codec", "1", .unknown, none, none⟩ := by
  rfl

theorem holds_records_codec_records :
    (libraryOf codecRecords).HoldsRecords (FilePath.ofText "classes.json") codecRecords :=
  holds_records_library_of (List.forall_mem_cons.2
    ⟨plain_method_record _ _, List.forall_mem_singleton.2 (plain_named_record _)⟩)

theorem holds_records_shuffled_records :
    (libraryOf shuffledRecords).HoldsRecords (FilePath.ofText "classes.json") shuffledRecords :=
  holds_records_library_of (List.forall_mem_cons.2
    ⟨plain_named_record _, List.forall_mem_singleton.2 (plain_method_record _ _)⟩)

theorem read_class_dump_codec_records :
    (libraryOf codecRecords).readClassDump (FilePath.ofText "classes.json") = .ok codecClasses :=
  read_class_dump_of_holds_records holds_records_codec_records all_of_json_codec_records

theorem exists_stored_codec_records :
    ∃ report path, ((libraryOf codecRecords).profileArtifact profilesPath {}
        ⟨"classes.json", "library.xml"⟩).1.result = .ok report ∧
      report.outcome.path? = some path := by
  have told : (profileLibrary
      (codecClasses.map (·.toDescriptor ({} : DetectionOptions).members))
      ⟨"codec", "1", .unknown, none, none⟩ ({} : DetectionOptions).hash).result.toOption.map
        (fun fingerprint => ((libraryOf codecRecords).saveFingerprint profilesPath
          fingerprint).1.result.toOption.isSome) = some true := by
    decide +kernel
  obtain ⟨fingerprint, found, isSaved⟩ := Option.map_eq_some_iff.1 told
  obtain ⟨path, saved⟩ := Option.isSome_iff_exists.1 isSaved
  obtain ⟨warnings, done⟩ := @profile_artifact_of_saved (libraryOf codecRecords) {}
    ⟨"classes.json", "library.xml"⟩ _ _ _ _ _ (read_metadata_library_of codecRecords)
    read_class_dump_codec_records (toOption_eq_some_iff.1 found) (toOption_eq_some_iff.1 saved)
  exact ⟨_, path, done, rfl⟩

/-- Both runs store the library. -/
theorem codec_stored_from_either_dump :
    ∃ report other path bytes,
      ((libraryOf codecRecords).profileArtifact profilesPath {}
        ⟨"classes.json", "library.xml"⟩).1.result = .ok report ∧
      ((libraryOf shuffledRecords).profileArtifact profilesPath {}
        ⟨"classes.json", "library.xml"⟩).1.result = .ok other ∧
      (∀ elapsed, report.toJson elapsed = other.toJson elapsed) ∧
      report.outcome.path? = some path ∧
      ((libraryOf codecRecords).profileArtifact profilesPath {}
        ⟨"classes.json", "library.xml"⟩).2.readBytes path = .ok bytes ∧
      ((libraryOf shuffledRecords).profileArtifact profilesPath {}
        ⟨"classes.json", "library.xml"⟩).2.readBytes path = .ok bytes := by
  obtain ⟨report, path, done, isPath⟩ := exists_stored_codec_records
  have rewritten : (libraryOf codecRecords).writeBytes (FilePath.ofText "classes.json")
      (dumpOf shuffledRecords) = .ok (libraryOf shuffledRecords) := by
    rfl
  have metadata := (read_metadata_library_of shuffledRecords).trans
    (read_metadata_library_of codecRecords).symm
  have runs := (runs_of_reordered (ordered_library_of codecRecords) rewritten
    holds_records_codec_records holds_records_shuffled_records paired_codec_records {}).1
      profilesPath "library.xml" metadata (by
        intro classes read
        cases read_class_dump_codec_records.symm.trans read
        exact told_apart_codec_classes)
  obtain ⟨other, otherDone, alike⟩ := runs.exists_partner done
  obtain ⟨bytes, here, there⟩ := alike.written path isPath
  exact ⟨report, other, path, bytes, done, otherDone, alike.told, isPath, here, there⟩

end Codec

end FileTree

end LibraryDetection
