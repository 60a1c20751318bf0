/-!
# Line ends

A text file may end its lines with a line feed, a carriage return or both; inside a
text a line feed alone stands for all three.
-/

namespace LibraryDetection.Text

set_option autoImplicit false

def lineFeedsOnto (passed : List Char) : List Char → List Char
  | [] => passed.reverse
  | '\r' :: '\n' :: rest => lineFeedsOnto ('\n' :: passed) rest
  | '\r' :: rest => lineFeedsOnto ('\n' :: passed) rest
  | char :: rest => lineFeedsOnto (char :: passed) rest

def lineFeeds (chars : List Char) : List Char := lineFeedsOnto [] chars

theorem line_feeds_onto_of_no_return (passed chars : List Char) (absent : '\r' ∉ chars) :
    lineFeedsOnto passed chars = passed.reverse ++ chars := by
  fun_induction lineFeedsOnto passed chars with
  | case1 => simp
  | case2 => simp at absent
  | case3 => simp at absent
  | case4 passed char rest _ _ ih =>
      rw [ih fun found => absent (List.mem_cons_of_mem _ found)]
      simp

theorem line_feeds_of_no_return {chars : List Char} (absent : '\r' ∉ chars) :
    lineFeeds chars = chars := by
  rw [lineFeeds, line_feeds_onto_of_no_return [] chars absent]
  rfl

theorem length_line_feeds_onto_le (passed chars : List Char) :
    (lineFeedsOnto passed chars).length ≤ passed.length + chars.length := by
  fun_induction lineFeedsOnto passed chars with
  | case1 => simp
  | case2 passed rest ih =>
      simp only [List.length_cons] at ih ⊢
      omega
  | case3 passed rest _ ih =>
      simp only [List.length_cons] at ih ⊢
      omega
  | case4 passed char rest _ _ ih =>
      simp only [List.length_cons] at ih ⊢
      omega

theorem length_line_feeds_le (chars : List Char) : (lineFeeds chars).length ≤ chars.length := by
  simpa [lineFeeds] using length_line_feeds_onto_le [] chars

end LibraryDetection.Text
