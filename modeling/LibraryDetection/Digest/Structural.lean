import LibraryDetection.Collection.Sorted
import LibraryDetection.Digest.Md5
import LibraryDetection.Text.Fields

/-!
# Structural digests

Three texts are hashed: the members of a class, the class hashes of a package, and a
package hash with the subtree hashes of the sub-packages.  Each of them is written from
a sorted list, so no digest depends on an order of input or on a name of a package.
-/

namespace LibraryDetection.Digest

set_option autoImplicit false

open LibraryDetection.Text

/-- A set of member signatures as one text: the distinct signatures in rising order, one on each
line.  A signature with a line break in it is not told from two. -/
def contentMessage (signatures : List String) : String := join "\n" (textSet signatures)

/-- A bag of class hashes as one text: all of them in rising order, each as often as it occurs.
-/
def nodeMessage (classHashes : List String) : String := join ";" (sortTexts classHashes)

/-- A package hash and the bag of the subtree hashes below it as one text.  The names of the
packages have no part in it, so that renamed packages keep their hashes. -/
def subtreeMessage (nodeHash : String) (childHashes : List String) : String :=
  nodeHash ++ ":" ++ join "," (sortTexts childHashes)

def contentHash (signatures : List String) : String :=
  Md5.ofText (contentMessage signatures)

def nodeHash (classHashes : List String) : String := Md5.ofText (nodeMessage classHashes)

def subtreeHash (ownHash : String) (childHashes : List String) : String :=
  Md5.ofText (subtreeMessage ownHash childHashes)

end LibraryDetection.Digest
