import LibraryDetection.Collection.Bag
import Mathlib.Algebra.BigOperators.Group.List.Lemmas
import Mathlib.Algebra.GroupWithZero.Nat
import Mathlib.Algebra.Order.Group.Multiset
import Mathlib.Data.Multiset.UnionInter

/-!
# Bags as multisets

What is taken from a bag and what two bags share, read as the difference and the
intersection of multisets.  The occurrences of the entries add up to the size of the bag.
-/

namespace LibraryDetection

set_option autoImplicit false

theorem coe_flatMap {α β : Type} (items : List α) (expand : α → List β) :
    ((items.flatMap expand : List β) : Multiset β) =
      (items.map fun item => (expand item : Multiset β)).sum := by
  induction items with
  | nil => rfl
  | cons item items ih =>
      rw [List.flatMap_cons, List.map_cons, List.sum_cons, ← Multiset.coe_add, ih]

theorem distinct_eq_dedup {α : Type} [DecidableEq α] (items : List α) :
    distinct items = items.dedup := by
  induction items with
  | nil => rfl
  | cons head tail ih =>
      rw [distinct]
      split
      · rename_i member
        rw [ih, List.dedup_cons_of_mem member]
      · rename_i absent
        rw [ih, List.dedup_cons_of_notMem absent]

namespace Bag

variable {α : Type} [DecidableEq α]

theorem sum_counts (bag : List α) : ((counts bag).map Prod.snd).sum = bag.length := by
  rw [counts, List.map_map, distinct_eq_dedup]
  exact List.sum_map_count_dedup_eq_length bag

theorem coe_without (bag taken : List α) :
    (without bag taken : Multiset α) = (bag : Multiset α) - (taken : Multiset α) := by
  ext entry
  rw [Multiset.count_sub, Multiset.coe_count, Multiset.coe_count, Multiset.coe_count,
    count_without]

theorem shared_size_eq_card_inter (left right : List α) :
    sharedSize left right = ((left : Multiset α) ∩ (right : Multiset α)).card := by
  induction left generalizing right with
  | nil => simp [sharedSize]
  | cons head tail ih =>
      simp only [sharedSize]
      rw [← Multiset.cons_coe]
      split
      · rename_i member
        have found : head ∈ (right : Multiset α) := member
        rw [Multiset.cons_inter_of_pos _ found, Multiset.card_cons, ih, Multiset.coe_erase]
      · rename_i absent
        have missing : head ∉ (right : Multiset α) := absent
        rw [Multiset.cons_inter_of_neg _ missing, ih]

theorem card_inter_add_card_inter_le (left right otherLeft otherRight : Multiset α) :
    (left ∩ right).card + (otherLeft ∩ otherRight).card ≤
      ((left + otherLeft) ∩ (right + otherRight)).card := by
  rw [← Multiset.card_add]
  apply Multiset.card_le_card
  apply Multiset.le_inter
  · exact add_le_add Multiset.inter_le_left Multiset.inter_le_left
  · exact add_le_add Multiset.inter_le_right Multiset.inter_le_right

theorem card_add_inter_add (common left right : Multiset α) :
    ((common + left) ∩ (common + right)).card = common.card + (left ∩ right).card := by
  have split : (common + left) ∩ (common + right) = common + left ∩ right := by
    ext entry
    simp only [Multiset.count_inter, Multiset.count_add]
    omega
  rw [split, Multiset.card_add]

end Bag

end LibraryDetection
