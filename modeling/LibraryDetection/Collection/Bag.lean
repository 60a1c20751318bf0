import LibraryDetection.Collection.Sorted

/-!
# Bags

A list stands for the multiset of its entries.  Taking entries away stops at zero,
and the common part of two bags holds each entry as often as both of them do.
-/

namespace LibraryDetection.Bag

set_option autoImplicit false

variable {α : Type} [DecidableEq α]

/-- What is left of `bag` once each entry of `taken` has been taken from it, as far as
it was there. -/
def without (bag taken : List α) : List α := taken.foldl List.erase bag

def sharedSize : List α → List α → Nat
  | [], _ => 0
  | head :: tail, bag =>
      if head ∈ bag then sharedSize tail (bag.erase head) + 1
      else sharedSize tail bag

def counts (bag : List α) : List (α × Nat) :=
  (distinct bag).map fun entry => (entry, bag.count entry)

theorem count_without (bag taken : List α) (entry : α) :
    (without bag taken).count entry = bag.count entry - taken.count entry := by
  induction taken generalizing bag with
  | nil => simp [without]
  | cons head tail ih =>
      rw [without, List.foldl_cons, ← without, ih, List.count_erase, List.count_cons]
      by_cases same : head = entry
      · subst same
        simp
        omega
      · simp [same]

theorem shared_size_le_left (left right : List α) :
    sharedSize left right ≤ left.length := by
  induction left generalizing right with
  | nil => simp [sharedSize]
  | cons head tail ih =>
      simp only [sharedSize, List.length_cons]
      split
      · exact Nat.succ_le_succ (ih _)
      · exact Nat.le_succ_of_le (ih _)

end LibraryDetection.Bag
