import LibraryDetection.Proofs.Matching.Index

/-!
# Embedded libraries

An application that holds all classes of a library, and no others at or below the roots
of its hash trees, has the same packages there.  They hash to the same nodes, which stand
in the hash tree of the whole application.
-/

namespace LibraryDetection

set_option autoImplicit false

namespace HashNode

theorem exists_class_of_counted (options : HashOptions) {package : PackageNode}
    (wellFormed : package.WellFormed) (counted : 0 < (ofPackage options package).classCount) :
    ∃ path member, member ∈ package.classesAt path := by
  induction package with
  | node segment classes children ih =>
      cases classes with
      | cons descriptor others => exact ⟨[], descriptor, List.mem_cons_self⟩
      | nil =>
          rw [of_package_eq] at counted
          simp only [make, options.class_hashes_nil, List.length_nil] at counted
          cases kept : ofPackages options children with
          | nil =>
              rw [kept, total] at counted
              omega
          | cons child others =>
              have member : child ∈ ofPackages options children := by
                rw [kept]
                exact List.mem_cons_self
              obtain ⟨origin, isChild, rfl, positive⟩ :=
                (mem_of_packages options children child).1 member
              obtain ⟨path, descriptor, found⟩ :=
                ih origin isChild (wellFormed.within origin isChild) positive
              refine ⟨origin.segment :: path, descriptor, ?_⟩
              rw [PackageNode.classes_at_child wellFormed isChild]
              exact found

end HashNode

namespace PackageTree

open PackageNode

variable {library application : List ClassDescriptor} {libraryTree applicationTree : PackageTree}
  {place : PackagePath} {package : PackageNode}

/-- The classes of the application at or below a place are those of the library. -/
structure HoldsAt (library application : List ClassDescriptor) (place : PackagePath) : Prop where
  contained : ∀ descriptor ∈ library, descriptor ∈ application
  onlyThere : ∀ descriptor ∈ application, descriptor.kind ≠ .synthetic →
    place <+: descriptor.package → descriptor ∈ library

theorem mem_classes_at_below (libraryMade : ofClasses library = .ok libraryTree)
    (present : libraryTree.find? place = some package) (path : PackagePath)
    (member : ClassDescriptor) :
    member ∈ package.classesAt path ↔
      member ∈ library ∧ member.kind ≠ .synthetic ∧ member.package = place ++ path := by
  rw [← classes_at_append place path present]
  exact mem_classes_at_of_classes libraryMade (place ++ path) member

/-- The package of the library at the place is there in the application, and hashes to the
same node. -/
theorem exists_package_of_holds_at (options : HashOptions)
    (libraryMade : ofClasses library = .ok libraryTree)
    (applicationMade : ofClasses application = .ok applicationTree)
    (holds : HoldsAt library application place)
    (present : libraryTree.find? place = some package)
    (counted : 0 < (HashNode.ofPackage options package).classCount) :
    ∃ other, applicationTree.find? place = some other ∧
      HashNode.ofPackage options other = HashNode.ofPackage options package := by
  have formed := well_formed_of_find? (well_formed_of_of_classes libraryMade) present
  obtain ⟨path, descriptor, inside⟩ := HashNode.exists_class_of_counted options formed counted
  obtain ⟨inLibrary, counts, located⟩ :=
    (mem_classes_at_below libraryMade present path descriptor).1 inside
  have inApplication : descriptor ∈ classesAt (place ++ path) applicationTree.root :=
    (mem_classes_at_of_classes applicationMade _ descriptor).2
      ⟨holds.contained descriptor inLibrary, counts, located⟩
  obtain ⟨deep, below⟩ := find?_isSome_of_mem_classes_at inApplication
  rw [find?_append] at below
  cases there : applicationTree.root.find? place with
  | none => simp [there] at below
  | some other =>
      refine ⟨other, there, ?_⟩
      have otherFormed := well_formed_of_find? (well_formed_of_of_classes applicationMade) there
      have segments : other.segment = package.segment := by
        cases place with
        | nil =>
            rw [PackageNode.find?, Option.some.injEq] at there
            rw [PackageTree.find?, PackageNode.find?, Option.some.injEq] at present
            rw [← there, ← present, segment_of_of_classes libraryMade,
              segment_of_of_classes applicationMade]
        | cons segment rest => rw [segment_of_find? there, segment_of_find? present]
      apply HashNode.of_package_eq_of_classes_at options otherFormed formed segments
      intro inner member
      rw [mem_classes_at_below libraryMade present, mem_classes_at_below applicationMade there]
      constructor
      · rintro ⟨isClass, counted, package⟩
        refine ⟨holds.onlyThere member isClass counted ?_, counted, package⟩
        rw [package]
        exact List.prefix_append place inner
      · rintro ⟨isClass, counted, package⟩
        exact ⟨holds.contained member isClass, counted, package⟩

end PackageTree

namespace Fingerprint

variable {fingerprint : Fingerprint} {library application : List ClassDescriptor}
  {options : HashOptions} {applicationTree : PackageTree}

theorem exists_node_of_embedded (profiled : fingerprint.ProfiledFrom library options)
    (applicationMade : PackageTree.ofClasses application = .ok applicationTree)
    (holds : ∀ tree ∈ fingerprint.hashTrees,
      PackageTree.HoldsAt library application tree.rootPath) :
    ∀ tree ∈ fingerprint.hashTrees, ∃ entry ∈ (applicationTree.wholeHashTree options).nodes,
      entry.2.subtreeHash = tree.subtreeHash := by
  intro tree member
  have counted := profiled.counted member
  have there := holds tree member
  obtain ⟨path, package, present, rfl⟩ := profiled.made member
  obtain ⟨other, found, same⟩ := PackageTree.exists_package_of_holds_at options
    profiled.of_classes_eq applicationMade there present counted
  have otherCounted : 0 < (HashNode.ofPackage options other).classCount := by
    rw [same]
    exact counted
  have inWalk := (HashNode.mem_walk_of_find? options found otherCounted []).1
  refine ⟨_, inWalk, ?_⟩
  simp only [same]
  rfl

end Fingerprint

end LibraryDetection
