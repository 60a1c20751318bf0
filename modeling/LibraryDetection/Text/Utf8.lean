import LibraryDetection.Text.Hex

/-!
# UTF-8

Characters as bytes, and the reading of bytes with the place and the reason of the
first fault.  A surrogate, an overlong form and a code point beyond the last one are
refused at the byte that rules them out.
-/

namespace LibraryDetection.Text.Utf8

set_option autoImplicit false

def encodeChar (char : Char) : List UInt8 :=
  let code := char.toNat
  if code < 0x80 then [UInt8.ofNat code]
  else if code < 0x800 then
    [UInt8.ofNat (0xC0 + code / 64), UInt8.ofNat (0x80 + code % 64)]
  else if code < 0x10000 then
    [UInt8.ofNat (0xE0 + code / 4096), UInt8.ofNat (0x80 + code / 64 % 64),
      UInt8.ofNat (0x80 + code % 64)]
  else
    [UInt8.ofNat (0xF0 + code / 262144), UInt8.ofNat (0x80 + code / 4096 % 64),
      UInt8.ofNat (0x80 + code / 64 % 64), UInt8.ofNat (0x80 + code % 64)]

def encode (text : String) : List UInt8 := text.toList.flatMap encodeChar

def size (text : String) : Nat := (encode text).length

inductive Reason
  | invalidStart
  | invalidContinuation
  | unexpectedEnd
  deriving DecidableEq, Repr

/-- Where a reading of bytes stopped: `width` bytes from `position` on are no character,
and `first` is the first of them. -/
structure Fault where
  reason : Reason
  first : Nat
  position : Nat
  width : Nat
  deriving DecidableEq, Repr

def secondRange (lead : Nat) : Nat × Nat :=
  if lead = 0xE0 then (0xA0, 0xBF)
  else if lead = 0xED then (0x80, 0x9F)
  else if lead = 0xF0 then (0x90, 0xBF)
  else if lead = 0xF4 then (0x80, 0x8F)
  else (0x80, 0xBF)

def leadWidth? (lead : Nat) : Option Nat :=
  if lead < 0x80 then some 1
  else if lead < 0xC2 then none
  else if lead < 0xE0 then some 2
  else if lead < 0xF0 then some 3
  else if lead < 0xF5 then some 4
  else none

def leadBits (lead width : Nat) : Nat :=
  if width = 2 then lead - 0xC0 else if width = 3 then lead - 0xE0 else lead - 0xF0

/-- Adds `due` further bytes to the code point `bits`; the next one lies between `low` and
`high`.  A failure tells how many of them were read before it. -/
def continuation (low high : Nat) :
    Nat → Nat → Nat → List UInt8 → Except (Reason × Nat) Nat
  | 0, _, bits, _ => .ok bits
  | _ + 1, read, _, [] => .error (.unexpectedEnd, read)
  | due + 1, read, bits, byte :: rest =>
      if low ≤ byte.toNat ∧ byte.toNat ≤ high then
        continuation 0x80 0xBF due (read + 1) (bits * 64 + (byte.toNat - 0x80)) rest
      else .error (.invalidContinuation, read)
  termination_by structural due => due

/-- The code point of the character that `lead` begins, and the number of its bytes. -/
def decodeChar (position : Nat) (lead : UInt8) (rest : List UInt8) :
    Except Fault (Nat × Nat) :=
  match leadWidth? lead.toNat with
  | none => .error ⟨.invalidStart, lead.toNat, position, 1⟩
  | some 1 => .ok (lead.toNat, 1)
  | some width =>
      let range := secondRange lead.toNat
      match continuation range.1 range.2 (width - 1) 0 (leadBits lead.toNat width) rest with
      | .ok code => .ok (code, width)
      | .error (reason, read) => .error ⟨reason, lead.toNat, position, read + 1⟩

/-- Reads on at `position`, where `due` bytes still belong to the character read last;
`passed` holds the characters so far, last first. -/
def decodeOnto (passed : List Char) : Nat → Nat → List UInt8 → Except Fault (List Char)
  | _, _, [] => .ok passed.reverse
  | position, due + 1, _ :: rest => decodeOnto passed (position + 1) due rest
  | position, 0, lead :: rest =>
      match decodeChar position lead rest with
      | .error fault => .error fault
      | .ok (code, width) =>
          decodeOnto (Char.ofNat code :: passed) (position + 1) (width - 1) rest
  termination_by structural _ _ bytes => bytes

def decode (bytes : List UInt8) : Except Fault (List Char) := decodeOnto [] 0 0 bytes

def Reason.text : Reason → String
  | .invalidStart => "invalid start byte"
  | .invalidContinuation => "invalid continuation byte"
  | .unexpectedEnd => "unexpected end of data"

def Fault.message (fault : Fault) : String :=
  let span :=
    if fault.width = 1 then
      "byte 0x" ++ String.ofList (hexDigits 2 fault.first) ++ " in position "
        ++ toString fault.position
    else "bytes in position " ++ toString fault.position ++ "-"
      ++ toString (fault.position + fault.width - 1)
  "'utf-8' codec can't decode " ++ span ++ ": " ++ fault.reason.text

end LibraryDetection.Text.Utf8
