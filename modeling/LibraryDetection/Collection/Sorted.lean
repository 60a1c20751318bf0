/-!
# Sorted lists

A stable insertion sort over a test `le`, and the sorted list of the distinct texts
of a list, which is how every unordered group of texts is written down.
-/

namespace LibraryDetection

set_option autoImplicit false

variable {α : Type}

def insertBy (le : α → α → Bool) (item : α) : List α → List α
  | [] => [item]
  | head :: tail =>
      if le item head then item :: head :: tail
      else head :: insertBy le item tail

/-- Sorts by insertion from the end of the list.  The sort is stable: entries that compare equal
keep their order. -/
def sortBy (le : α → α → Bool) : List α → List α
  | [] => []
  | head :: tail => insertBy le head (sortBy le tail)

theorem insert_by_perm (le : α → α → Bool) (item : α) (items : List α) :
    (insertBy le item items).Perm (item :: items) := by
  induction items with
  | nil => exact List.Perm.refl _
  | cons head tail ih =>
      simp only [insertBy]
      split
      · exact List.Perm.refl _
      · exact (List.Perm.cons head ih).trans (List.Perm.swap item head tail)

theorem sort_by_perm (le : α → α → Bool) (items : List α) :
    (sortBy le items).Perm items := by
  induction items with
  | nil => exact List.Perm.refl _
  | cons head tail ih =>
      exact (insert_by_perm le head _).trans (List.Perm.cons head ih)

theorem mem_sort_by {le : α → α → Bool} {items : List α} {item : α} :
    item ∈ sortBy le items ↔ item ∈ items :=
  (sort_by_perm le items).mem_iff

theorem length_sort_by (le : α → α → Bool) (items : List α) :
    (sortBy le items).length = items.length :=
  (sort_by_perm le items).length_eq

theorem pairwise_insert_by {le : α → α → Bool}
    (total : ∀ a b, le a b = true ∨ le b a = true)
    (trans : ∀ a b c, le a b = true → le b c = true → le a c = true)
    {items : List α} (sorted : items.Pairwise (fun a b => le a b = true)) (item : α) :
    (insertBy le item items).Pairwise (fun a b => le a b = true) := by
  induction items with
  | nil => simp [insertBy]
  | cons head tail ih =>
      obtain ⟨headLe, tailSorted⟩ := List.pairwise_cons.1 sorted
      simp only [insertBy]
      split
      · rename_i itemLe
        refine List.pairwise_cons.2 ⟨?_, sorted⟩
        intro other member
        rcases List.mem_cons.1 member with rfl | inTail
        · exact itemLe
        · exact trans _ _ _ itemLe (headLe other inTail)
      · rename_i notLe
        refine List.pairwise_cons.2 ⟨?_, ih tailSorted⟩
        intro other member
        rcases List.mem_cons.1 ((insert_by_perm le item tail).mem_iff.1 member) with rfl | inTail
        · exact (total other head).resolve_left notLe
        · exact headLe other inTail

theorem pairwise_sort_by {le : α → α → Bool}
    (total : ∀ a b, le a b = true ∨ le b a = true)
    (trans : ∀ a b c, le a b = true → le b c = true → le a c = true)
    (items : List α) : (sortBy le items).Pairwise (fun a b => le a b = true) := by
  induction items with
  | nil => exact List.Pairwise.nil
  | cons head tail ih => exact pairwise_insert_by total trans ih head

def textLe (a b : String) : Bool := decide (a ≤ b)

def sortTexts (texts : List String) : List String := sortBy textLe texts

def distinct [DecidableEq α] : List α → List α
  | [] => []
  | head :: tail => if head ∈ tail then distinct tail else head :: distinct tail

theorem mem_distinct [DecidableEq α] {items : List α} {item : α} :
    item ∈ distinct items ↔ item ∈ items := by
  induction items with
  | nil => simp [distinct]
  | cons head tail ih =>
      simp only [distinct]
      split
      · rename_i inTail
        rw [ih, List.mem_cons]
        exact ⟨Or.inr, fun found => found.elim (fun same => same ▸ inTail) id⟩
      · rw [List.mem_cons, List.mem_cons, ih]

theorem nodup_distinct [DecidableEq α] (items : List α) : (distinct items).Nodup := by
  induction items with
  | nil => exact List.nodup_nil
  | cons head tail ih =>
      simp only [distinct]
      split
      · exact ih
      · rename_i absent
        exact List.nodup_cons.2 ⟨fun found => absent (mem_distinct.1 found), ih⟩

def textSet (texts : List String) : List String := sortTexts (distinct texts)

theorem mem_text_set {texts : List String} {text : String} :
    text ∈ textSet texts ↔ text ∈ texts := by
  rw [textSet, sortTexts, mem_sort_by, mem_distinct]

end LibraryDetection
