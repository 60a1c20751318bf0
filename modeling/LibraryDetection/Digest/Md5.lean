import LibraryDetection.Text.Hex
import LibraryDetection.Text.Utf8

/-!
# MD5

The digest of a text is taken over its UTF-8 bytes and written as 32 hexadecimal
digits.  Two digests of different texts are equal only in a collision.
-/

namespace LibraryDetection.Digest.Md5

set_option autoImplicit false

open LibraryDetection.Text

structure State where
  a : UInt32
  b : UInt32
  c : UInt32
  d : UInt32
  deriving DecidableEq, Repr

def start : State := ⟨0x67452301, 0xefcdab89, 0x98badcfe, 0x10325476⟩

def sines : List UInt32 :=
  [0xd76aa478, 0xe8c7b756, 0x242070db, 0xc1bdceee, 0xf57c0faf, 0x4787c62a, 0xa8304613,
   0xfd469501, 0x698098d8, 0x8b44f7af, 0xffff5bb1, 0x895cd7be, 0x6b901122, 0xfd987193,
   0xa679438e, 0x49b40821,
   0xf61e2562, 0xc040b340, 0x265e5a51, 0xe9b6c7aa, 0xd62f105d, 0x02441453, 0xd8a1e681,
   0xe7d3fbc8, 0x21e1cde6, 0xc33707d6, 0xf4d50d87, 0x455a14ed, 0xa9e3e905, 0xfcefa3f8,
   0x676f02d9, 0x8d2a4c8a,
   0xfffa3942, 0x8771f681, 0x6d9d6122, 0xfde5380c, 0xa4beea44, 0x4bdecfa9, 0xf6bb4b60,
   0xbebfbc70, 0x289b7ec6, 0xeaa127fa, 0xd4ef3085, 0x04881d05, 0xd9d4d039, 0xe6db99e5,
   0x1fa27cf8, 0xc4ac5665,
   0xf4292244, 0x432aff97, 0xab9423a7, 0xfc93a039, 0x655b59c3, 0x8f0ccc92, 0xffeff47d,
   0x85845dd1, 0x6fa87e4f, 0xfe2ce6e0, 0xa3014314, 0x4e0811a1, 0xf7537e82, 0xbd3af235,
   0x2ad7d2bb, 0xeb86d391]

def rotations : List (List UInt32) :=
  [[7, 12, 17, 22], [5, 9, 14, 20], [4, 11, 16, 23], [6, 10, 15, 21]]

def rotation (step : Nat) : UInt32 :=
  ((rotations.getD (step / 16) []).getD (step % 4) 0)

def wordIndex (step : Nat) : Nat :=
  match step / 16 with
  | 0 => step
  | 1 => (5 * step + 1) % 16
  | 2 => (3 * step + 5) % 16
  | _ => (7 * step) % 16

def mix (step : Nat) (b c d : UInt32) : UInt32 :=
  match step / 16 with
  | 0 => (b &&& c) ||| (~~~b &&& d)
  | 1 => (d &&& b) ||| (~~~d &&& c)
  | 2 => b ^^^ c ^^^ d
  | _ => c ^^^ (b ||| ~~~d)

def rotateLeft (value distance : UInt32) : UInt32 :=
  (value <<< distance) ||| (value >>> (32 - distance))

def stepWith (words : List UInt32) (state : State) (step : Nat × UInt32) : State :=
  let sum := state.a + mix step.1 state.b state.c state.d + step.2
    + words.getD (wordIndex step.1) 0
  ⟨state.d, state.b + rotateLeft sum (rotation step.1), state.b, state.c⟩

def steps : List (Nat × UInt32) := sines.zipIdx.map fun (sine, step) => (step, sine)

def absorb (state : State) (words : List UInt32) : State :=
  let mixed := steps.foldl (stepWith words) state
  ⟨state.a + mixed.a, state.b + mixed.b, state.c + mixed.c, state.d + mixed.d⟩

def wordsOf : List UInt8 → List UInt32
  | a :: b :: c :: d :: rest =>
      (a.toUInt32 ||| (b.toUInt32 <<< 8) ||| (c.toUInt32 <<< 16) ||| (d.toUInt32 <<< 24))
        :: wordsOf rest
  | _ => []

def littleEndian : Nat → Nat → List UInt8
  | 0, _ => []
  | width + 1, value => UInt8.ofNat (value % 256) :: littleEndian width (value / 256)

/-- The message, a set bit, zeros, and the length in bits: a whole number of blocks. -/
def padded (message : List UInt8) : List UInt8 :=
  let length := message.length
  message ++ [0x80] ++ List.replicate ((119 - length % 64) % 64) 0
    ++ littleEndian 8 (8 * length)

def absorbBlocks : Nat → State → List UInt8 → State
  | 0, state, _ => state
  | blocks + 1, state, bytes =>
      absorbBlocks blocks (absorb state (wordsOf (bytes.take 64))) (bytes.drop 64)

def stateBytes (state : State) : List UInt8 :=
  [state.a, state.b, state.c, state.d].flatMap fun word => littleEndian 4 word.toNat

def digest (message : List UInt8) : List UInt8 :=
  let bytes := padded message
  stateBytes (absorbBlocks (bytes.length / 64) start bytes)

def hexChars (bytes : List UInt8) : List Char :=
  bytes.flatMap fun byte => hexDigits 2 byte.toNat

def ofText (text : String) : String := String.ofList (hexChars (digest (Utf8.encode text)))

theorem length_little_endian (width value : Nat) :
    (littleEndian width value).length = width := by
  induction width generalizing value with
  | zero => rfl
  | succ width ih => simp [littleEndian, ih]

theorem length_padded (message : List UInt8) : (padded message).length % 64 = 0 := by
  simp only [padded, List.length_append, List.length_cons, List.length_nil,
    List.length_replicate, length_little_endian]
  omega

theorem length_hex_chars (bytes : List UInt8) :
    (hexChars bytes).length = 2 * bytes.length := by
  induction bytes with
  | nil => rfl
  | cons byte rest ih =>
      have unfolded : hexChars (byte :: rest) = hexDigits 2 byte.toNat ++ hexChars rest := rfl
      rw [unfolded, List.length_append, length_hex_digits, ih, List.length_cons]
      omega

theorem length_of_text (text : String) : (ofText text).length = 32 := by
  rw [ofText, String.length_ofList, length_hex_chars, digest]
  simp [stateBytes, length_little_endian]

end LibraryDetection.Digest.Md5
