import LibraryDetection.Package.Descriptor
import LibraryDetection.Text.Blank
import LibraryDetection.Text.Quoted

/-!
# Valid package paths

A segment is not empty, has no blanks at its ends and holds none of the characters that
separate segments.  The first bad segment of a path refuses the class.
-/

namespace LibraryDetection

set_option autoImplicit false

open LibraryDetection.Text

inductive SegmentFault
  | empty
  | blanks (segment : String)
  | separator (segment : String)
  deriving DecidableEq, Repr

def SegmentFault.text : SegmentFault → String
  | .empty => "empty segment"
  | .blanks segment => "whitespace in segment " ++ quoted segment
  | .separator segment => "separator in segment " ++ quoted segment

structure MalformedPath where
  className : String
  package : PackagePath
  fault : SegmentFault
  deriving DecidableEq, Repr

def MalformedPath.message (malformed : MalformedPath) : String :=
  "Malformed package path " ++ quoted (PackagePath.dotted malformed.package) ++ " for "
    ++ malformed.className ++ ": " ++ malformed.fault.text

def isSeparator (char : Char) : Bool := char = '.' || char = '/' || char = '\\'

def segmentFault? (segment : String) : Option SegmentFault :=
  if segment = "" then some .empty
  else if segment ≠ trim segment then some (.blanks segment)
  else if segment.toList.any isSeparator then some (.separator segment)
  else none

def PackagePath.fault? (path : PackagePath) : Option SegmentFault :=
  path.findSome? segmentFault?

/-- Every segment may stand in a package name: it is not empty, has no blanks at its ends and
holds no separator. -/
def PackagePath.Valid (path : PackagePath) : Prop :=
  ∀ segment ∈ path, segmentFault? segment = none

theorem PackagePath.fault?_eq_none_iff {path : PackagePath} :
    path.fault? = none ↔ path.Valid := by
  simp [PackagePath.fault?, PackagePath.Valid, List.findSome?_eq_none_iff]

theorem segment_fault?_eq_none_iff {segment : String} :
    segmentFault? segment = none ↔
      segment ≠ "" ∧ segment = trim segment ∧
        ∀ char ∈ segment.toList, isSeparator char = false := by
  simp only [segmentFault?]
  split
  · simp [*]
  · split
    · simp [*]
    · split
      · rename_i found
        obtain ⟨char, member, separates⟩ := List.any_eq_true.1 found
        simp only [reduceCtorEq, false_iff, not_and]
        intro _ _ free
        rw [free char member] at separates
        exact Bool.noConfusion separates
      · rename_i nonempty trimmed found
        refine ⟨fun _ => ⟨nonempty, Classical.not_not.1 trimmed, ?_⟩, fun _ => rfl⟩
        intro char member
        cases separates : isSeparator char with
        | false => rfl
        | true => exact absurd (List.any_eq_true.2 ⟨char, member, separates⟩) found

def ClassDescriptor.malformed? (descriptor : ClassDescriptor) : Option MalformedPath :=
  descriptor.package.fault?.map fun fault => ⟨descriptor.name, descriptor.package, fault⟩

end LibraryDetection
