/-!
# Totals

The sum of the sizes of the entries of a list, which does not depend on their order.
-/

namespace LibraryDetection

set_option autoImplicit false

variable {α : Type}

def total (size : α → Int) : List α → Int
  | [] => 0
  | head :: tail => size head + total size tail

theorem total_append (size : α → Int) (front back : List α) :
    total size (front ++ back) = total size front + total size back := by
  induction front with
  | nil => simp [total]
  | cons head tail ih =>
      rw [List.cons_append, total, total, ih]
      omega

theorem total_perm {size : α → Int} {items others : List α} (same : items.Perm others) :
    total size items = total size others := by
  induction same with
  | nil => rfl
  | cons head _ ih => rw [total, total, ih]
  | swap first second rest =>
      simp only [total]
      omega
  | trans _ _ first second => exact first.trans second

theorem total_nonneg {size : α → Int} {items : List α}
    (nonneg : ∀ item ∈ items, 0 ≤ size item) : 0 ≤ total size items := by
  induction items with
  | nil => exact Int.le_refl 0
  | cons head tail ih =>
      rw [total]
      have first := nonneg head List.mem_cons_self
      have rest := ih fun item member => nonneg item (List.mem_cons_of_mem head member)
      omega

end LibraryDetection
