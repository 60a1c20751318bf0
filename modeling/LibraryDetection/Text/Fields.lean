/-!
# Fields of a text

Cutting a text at a separating character and putting the pieces together again.
-/

namespace LibraryDetection.Text

set_option autoImplicit false

/-- The pieces between the separators; a text without a separator is one piece. -/
def splitChars (separator : Char) : List Char → List (List Char)
  | [] => [[]]
  | char :: rest =>
      if char = separator then [] :: splitChars separator rest
      else match splitChars separator rest with
        | [] => [[char]]
        | piece :: pieces => (char :: piece) :: pieces

def split (separator : Char) (text : String) : List String :=
  (splitChars separator text.toList).map String.ofList

def join (separator : String) (pieces : List String) : String :=
  separator.intercalate pieces

def afterLast (separator : Char) (text : String) : String :=
  ((split separator text).getLast?).getD ""

def replaceChar (old new : Char) (text : String) : String :=
  text.map fun char => if char = old then new else char

def withoutStart? (start : List Char) (text : List Char) : Option (List Char) :=
  match start, text with
  | [], rest => some rest
  | _ :: _, [] => none
  | expected :: start, char :: rest =>
      if expected = char then withoutStart? start rest else none

def startsWith (start text : List Char) : Bool := (withoutStart? start text).isSome

def padRight (width : Nat) (text : String) : String :=
  text ++ String.ofList (List.replicate (width - text.length) ' ')

theorem split_chars_ne_nil (separator : Char) (chars : List Char) :
    splitChars separator chars ≠ [] := by
  cases chars with
  | nil => simp [splitChars]
  | cons char rest =>
      simp only [splitChars]
      split
      · simp
      · split <;> simp

theorem intercalate_split_chars (separator : Char) (chars : List Char) :
    [separator].intercalate (splitChars separator chars) = chars := by
  induction chars with
  | nil => simp [splitChars, List.intercalate]
  | cons char rest ih =>
      have nonempty := split_chars_ne_nil separator rest
      simp only [splitChars]
      split
      · rename_i same
        subst same
        cases pieces : splitChars char rest with
        | nil => exact absurd pieces nonempty
        | cons piece others =>
            rw [pieces] at ih
            rw [List.intercalate_cons_cons, ih]
            rfl
      · cases pieces : splitChars separator rest with
        | nil => exact absurd pieces nonempty
        | cons piece others =>
            rw [pieces] at ih
            cases others with
            | nil =>
                simp only [List.intercalate, List.intersperse_singleton,
                  List.flatten_singleton] at ih ⊢
                rw [ih]
            | cons second more =>
                rw [List.intercalate_cons_cons] at ih ⊢
                rw [← ih]
                simp

theorem not_mem_of_mem_split_chars {separator : Char} {chars piece : List Char}
    (member : piece ∈ splitChars separator chars) : separator ∉ piece := by
  induction chars generalizing piece with
  | nil =>
      simp only [splitChars, List.mem_singleton] at member
      simp [member]
  | cons char rest ih =>
      simp only [splitChars] at member
      split at member
      · rcases List.mem_cons.1 member with rfl | found
        · simp
        · exact ih found
      · rename_i other
        cases pieces : splitChars separator rest with
        | nil => exact absurd pieces (split_chars_ne_nil separator rest)
        | cons first others =>
            rw [pieces] at member ih
            rcases List.mem_cons.1 member with rfl | found
            · rw [List.mem_cons]
              rintro (same | inFirst)
              · exact other same.symm
              · exact ih List.mem_cons_self inFirst
            · exact ih (List.mem_cons_of_mem _ found)

end LibraryDetection.Text
