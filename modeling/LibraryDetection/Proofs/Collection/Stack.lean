import Mathlib.Algebra.GroupWithZero.Nat

/-!
# Walks by a stack

Two kinds of trees are walked with a stack of the places that wait.  The top one is given out and
the places right below it come in its place, the first of them on top.  Such a walk meets the same
places in the same order as the recursion over the tree, and there is no need to say so twice.
-/

namespace LibraryDetection

set_option autoImplicit false

variable {α : Type}

/-- The items right below an item are smaller together than the item, so that a stack which puts
them in its place comes to an end. -/
def Shrinks (below : α → List α) : Prop :=
  ∃ size : α → Nat, ∀ item, ((below item).map size).sum < size item

/-- The items in the order in which a stack gives them out.  The one on top is given out, and
the items right below it come in its place. -/
def unstacked (below : α → List α) (shrinks : Shrinks below) : List α → List α
  | [] => []
  | item :: waiting => item :: unstacked below shrinks (below item ++ waiting)
termination_by waiting => (waiting.map shrinks.choose).sum
decreasing_by
  have smaller := shrinks.choose_spec item
  simp only [List.map_append, List.sum_append, List.map_cons, List.sum_cons]
  omega

theorem unstacked_eq {below : α → List α} (shrinks : Shrinks below) {walk : α → List α}
    (walks : ∀ item, walk item = item :: (below item).flatMap walk) (waiting : List α) :
    unstacked below shrinks waiting = waiting.flatMap walk := by
  fun_induction unstacked below shrinks waiting with
  | case1 => rfl
  | case2 item waiting ih =>
      rw [ih, List.flatMap_append, List.flatMap_cons, walks item]
      rfl

end LibraryDetection
