import LibraryDetection.Json.Reader

/-!
# JSON read strictly

Records are read more strictly than class dumps.  Lists and objects that hold something may
stand within one another only up to a limit, and half of a surrogate pair is no part of any
text.  Both are told from the characters of a text that can be read.
-/

namespace LibraryDetection.Json

set_option autoImplicit false

/-- Whether an escape, given by what follows its letter, is a surrogate without its other
half.  A pair takes up eleven characters and a single escape takes up five. -/
def isLoneSurrogate (chars : List Char) : Bool :=
  match fourHex? chars, unicodeEscape? chars with
  | some code, some (_, width) =>
      (isHighSurrogate code || isLowSurrogate code) && width = 5
  | _, _ => false

/-- Whether a surrogate stands alone.  Of the characters ahead `due` belong to an escape
that was looked at already. -/
def holdsLoneSurrogate : Nat → List Char → Bool
  | _, [] => false
  | due + 1, _ :: rest => holdsLoneSurrogate due rest
  | 0, char :: rest =>
      if char = '\\' then
        match rest with
        | 'u' :: more =>
            isLoneSurrogate more ||
              holdsLoneSurrogate (((unicodeEscape? more).map Prod.snd).getD 1) rest
        | _ => holdsLoneSurrogate 1 rest
      else holdsLoneSurrogate 0 rest
  termination_by structural _ chars => chars

/-- Where a character stands: between texts, in a text, or behind the backslash of an
escape. -/
inductive Position
  | between
  | quoted
  | escaped
  deriving DecidableEq, Repr

def opensGroup (char : Char) : Bool := char = '[' || char = '\x7b'

def closesGroup (char : Char) : Bool := char = ']' || char = '\x7d'

def endsAtOnce (chars : List Char) : Bool :=
  ((skipSpace chars).head?.map closesGroup).getD false

/-- The most groups that are open around one place, `depth` of them being open here and
`most` being the greatest number so far.  A group that holds nothing does not count. -/
def nestingFrom : Position → Nat → Nat → List Char → Nat
  | _, _, most, [] => most
  | .escaped, depth, most, _ :: rest => nestingFrom .quoted depth most rest
  | .quoted, depth, most, char :: rest =>
      if char = '"' then nestingFrom .between depth most rest
      else if char = '\\' then nestingFrom .escaped depth most rest
      else nestingFrom .quoted depth most rest
  | .between, depth, most, char :: rest =>
      if char = '"' then nestingFrom .quoted depth most rest
      else if opensGroup char then
        nestingFrom .between (depth + 1) (if endsAtOnce rest then most else max most (depth + 1))
          rest
      else if closesGroup char then nestingFrom .between (depth - 1) most rest
      else nestingFrom .between depth most rest

def nesting (chars : List Char) : Nat := nestingFrom .between 0 0 chars

/-- More groups within one another than these are refused.  Lists and objects count alike, as
long as they hold something. -/
def nestingLimit : Nat := 200

def readStrictly? (chars : List Char) : Option Json :=
  match read chars with
  | .error _ => none
  | .ok value =>
      if holdsLoneSurrogate 0 chars || nestingLimit < nesting chars then none else some value

end LibraryDetection.Json
