import LibraryDetection.ClassDump.Class
import LibraryDetection.Json.Value

/-!
# Statistics of a dump

Classes by kind, and methods by their reach.  Bridge and synthetic methods do not count,
and a public method of one class counts once.
-/

namespace LibraryDetection

set_option autoImplicit false

structure DumpStatistics where
  classCount : Nat
  innerCount : Nat
  publicCount : Nat
  /-- The number of classes of each kind. -/
  kinds : List (ClassKind × Nat)
  /-- Class names and signatures in rising order. -/
  publicMethods : List String
  /-- Methods that are not public. -/
  otherMethods : Nat
  deriving DecidableEq, Repr

def DumpedClass.ownMethods (dumped : DumpedClass) : List Member :=
  dumped.methods.filter fun method => !(method.isBridge || method.isSynthetic)

def DumpedClass.publicMethods (dumped : DumpedClass) : List String :=
  (dumped.ownMethods.filter (·.isPublic)).map fun method => dumped.name ++ "." ++ method.signature

namespace DumpStatistics

def ofClasses (classes : List DumpedClass) : DumpStatistics :=
  { classCount := classes.length
    innerCount := classes.countP (·.isInner)
    publicCount := classes.countP (·.isPublic)
    kinds := ClassKind.all.map fun kind => (kind, classes.countP (·.kind = kind))
    publicMethods := textSet (classes.flatMap DumpedClass.publicMethods)
    otherMethods := (classes.flatMap DumpedClass.ownMethods).countP (!·.isPublic) }

def methodCount (statistics : DumpStatistics) : Nat :=
  statistics.publicMethods.length + statistics.otherMethods

def kindCount (statistics : DumpStatistics) (kind : ClassKind) : Nat :=
  (statistics.kinds.lookup kind).getD 0

def toJson (statistics : DumpStatistics) : Json :=
  .object
    [("classes", .whole statistics.classCount),
      ("inner_classes", .whole statistics.innerCount),
      ("public_classes", .whole statistics.publicCount),
      ("kinds", .object (statistics.kinds.map fun entry => (entry.1.label, .whole entry.2))),
      ("methods", .whole statistics.methodCount),
      ("public_methods", .whole statistics.publicMethods.length),
      ("non_public_methods", .whole statistics.otherMethods)]

def accountLine (depth : Nat) (text : String) (count : Nat) : String :=
  String.ofList (List.replicate (4 * depth) ' ') ++ text ++ ": " ++ toString count

def account (statistics : DumpStatistics) : List String :=
  "= ClassHierarchy Stats ="
    :: accountLine 1 "# of classes" statistics.classCount
    :: accountLine 1 "# thereof inner classes" statistics.innerCount
    :: accountLine 1 "# thereof public classes" statistics.publicCount
    :: (ClassKind.all.map fun kind =>
        accountLine 2 (kind.label ++ " ") (statistics.kindCount kind))
    ++ [accountLine 1 "# methods" statistics.methodCount,
      accountLine 2 "# of publicly accessible methods" statistics.publicMethods.length,
      accountLine 2 "# of non-accessible methods" statistics.otherMethods]

end DumpStatistics

end LibraryDetection
