/-!
# Character sets

A set of characters is given by closed ranges of code points in rising order,
as the tables of a character property list them.
-/

namespace LibraryDetection.Text

set_option autoImplicit false

abbrev CodeRanges := List (Nat × Nat)

namespace CodeRanges

def covers : CodeRanges → Nat → Bool
  | [], _ => false
  | (first, last) :: rest, code =>
      if code < first then false
      else if code ≤ last then true
      else covers rest code

def firstOf? : CodeRanges → Nat → Option Nat
  | [], _ => none
  | (first, last) :: rest, code =>
      if code < first then none
      else if code ≤ last then some first
      else firstOf? rest code

theorem covers_iff_first_of? (ranges : CodeRanges) (code : Nat) :
    ranges.covers code = (ranges.firstOf? code).isSome := by
  induction ranges with
  | nil => rfl
  | cons range rest ih =>
      obtain ⟨first, last⟩ := range
      simp only [covers, firstOf?]
      split
      · rfl
      · split
        · rfl
        · exact ih

end CodeRanges

end LibraryDetection.Text
