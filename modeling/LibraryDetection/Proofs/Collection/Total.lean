import LibraryDetection.Collection.Total

/-!
# Totals of related lists
-/

namespace LibraryDetection

set_option autoImplicit false

variable {α β : Type}

theorem total_map (size : β → Int) (along : α → β) (items : List α) :
    total size (items.map along) = total (fun item => size (along item)) items := by
  induction items with
  | nil => rfl
  | cons head tail ih => rw [List.map_cons, total, total, ih]

theorem total_congr {size other : α → Int} {items : List α}
    (same : ∀ item ∈ items, size item = other item) : total size items = total other items := by
  induction items with
  | nil => rfl
  | cons head tail ih =>
      rw [List.forall_mem_cons] at same
      rw [total, total, same.1, ih same.2]

theorem total_le_total {small large : α → Int} {items : List α}
    (bound : ∀ item ∈ items, small item ≤ large item) : total small items ≤ total large items := by
  induction items with
  | nil => exact Int.le_refl _
  | cons head tail ih =>
      have first := bound head List.mem_cons_self
      have rest := ih fun item member => bound item (List.mem_cons_of_mem head member)
      rw [total, total]
      omega

theorem total_pos_iff {size : α → Int} {items : List α}
    (each : ∀ item ∈ items, 0 < size item) : 0 < total size items ↔ items ≠ [] := by
  cases items with
  | nil => simp [total]
  | cons head tail =>
      have first := each head List.mem_cons_self
      have rest : 0 ≤ total size tail := by
        apply total_nonneg
        intro item member
        exact Int.le_of_lt (each item (List.mem_cons_of_mem head member))
      simp only [total, ne_eq, reduceCtorEq, not_false_eq_true, iff_true]
      omega

end LibraryDetection
