import LibraryDetection.ClassDump.Class

/-!
# Member signatures

A signature loses the name of its class in front.  In a fuzzy signature every reference
type outside the framework is one letter, so that renamed types do not count.
-/

namespace LibraryDetection

set_option autoImplicit false

open LibraryDetection.Text

/-- The packages whose types keep their names in a fuzzy signature, since nothing renames what a
platform provides. -/
def frameworkPackages : List String :=
  ["java/", "javax/", "android/", "dalvik/", "kotlin/", "org/w3c/", "org/xml/", "org/json/"]

def isFrameworkType (name : List Char) : Bool :=
  frameworkPackages.any fun package => startsWith package.toList name

def referenceName? (chars : List Char) : Option (List Char) :=
  match chars.span (· ≠ ';') with
  | ([], _) => none
  | (_, []) => none
  | (name, _ :: _) => some name

/-- Goes through a signature and writes one letter for each reference type outside the
framework.  A letter L is taken for the start of a reference wherever a semicolon follows
further on, also inside the name of a member; `due` characters belong to a type that was written
already. -/
def fuzzyFrom : Nat → List Char → List Char
  | _, [] => []
  | due + 1, _ :: rest => fuzzyFrom due rest
  | 0, char :: rest =>
      if char = 'L' then
        match referenceName? rest with
        | some name =>
            (if isFrameworkType name then 'L' :: (name ++ [';']) else ['X'])
              ++ fuzzyFrom (name.length + 1) rest
        | none => char :: fuzzyFrom 0 rest
      else char :: fuzzyFrom 0 rest
  termination_by structural _ chars => chars

def fuzzySignature (signature : String) : String :=
  String.ofList (fuzzyFrom 0 signature.toList)

/-- The two forms in which the name of its class may stand in front of a member: with points and
with slashes between the segments. -/
def ownerMarks (owner : String) : List String :=
  [owner ++ ".", replaceChar '.' '/' owner ++ "."]

/-- The signature without the name of its class.  Only a name at the very front is taken away,
and only once. -/
def withoutOwner (owner signature : String) : String :=
  match (ownerMarks owner).findSome? fun mark => withoutStart? mark.toList signature.toList with
  | some rest => String.ofList rest
  | none => signature

def normalSignature (fuzzy : Bool) (owner signature : String) : String :=
  let bare := withoutOwner owner signature
  if fuzzy then fuzzySignature bare else bare

structure MemberOptions where
  /-- Only public members count. -/
  publicOnly : Bool := true
  fuzzy : Bool := false
  deriving DecidableEq, Repr

/-- Bridge members and synthetic ones never count, as a compiler makes them; the others count if
they are public or if all members are asked for. -/
def MemberOptions.includes (options : MemberOptions) (member : Member) : Bool :=
  !(member.isSynthetic || member.isBridge) && (member.isPublic || !options.publicOnly)

def DumpedClass.signatures (options : MemberOptions) (dumped : DumpedClass) : List String :=
  (dumped.members.filter options.includes).map fun member =>
    normalSignature options.fuzzy dumped.name member.signature

def DumpedClass.toDescriptor (options : MemberOptions) (dumped : DumpedClass) :
    ClassDescriptor :=
  ClassDescriptor.make dumped.packagePath dumped.simpleName (dumped.signatures options)
    dumped.kind

end LibraryDetection
