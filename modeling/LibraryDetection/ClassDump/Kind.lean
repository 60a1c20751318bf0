import LibraryDetection.ClassDump.Class
import LibraryDetection.Text.Digit

/-!
# Kinds by name

Where a dump leaves out the kind of a class, its name tells it: a number behind the last
dollar sign makes it anonymous, any other dollar sign an inner class.
-/

namespace LibraryDetection

set_option autoImplicit false

open LibraryDetection.Text

def endsInNumber (reversed : List Char) : Bool :=
  match reversed.span isDecimalDigit with
  | ([], _) => false
  | (_, rest) => rest.head? = some '$'

/-- Whether digits behind a dollar sign end the simple name.  A single line feed at the end of
the name does not count. -/
def isAnonymousName (simpleName : String) : Bool :=
  match simpleName.toList.reverse with
  | '\n' :: rest => endsInNumber rest
  | reversed => endsInNumber reversed

def ClassKind.ofName (name : String) : ClassKind :=
  let simpleName := afterLast '.' name
  if isAnonymousName simpleName then .anonymous
  else if simpleName.toList.contains '$' then .inner
  else .topLevel

end LibraryDetection
