import LibraryDetection.Collection.Sorted
import Mathlib.Data.List.Perm.Basic
import Mathlib.Order.Lattice

/-!
# Written order

A list of texts in rising order depends on nothing but the bag of its entries, and the
list of a set of texts on nothing but its members.  Sorting by a key keeps the order of what it
does not tell apart, so that entries may be left out before or after.
-/

namespace LibraryDetection

set_option autoImplicit false

section Map

variable {α β : Type}

theorem insert_by_map (along : β → α) (le : α → α → Bool) (item : β) (items : List β) :
    insertBy le (along item) (items.map along) =
      (insertBy (fun a b => le (along a) (along b)) item items).map along := by
  induction items with
  | nil => rfl
  | cons head tail ih =>
      rw [List.map_cons, insertBy, insertBy]
      split
      · rfl
      · rw [ih, List.map_cons]

theorem sort_by_map (along : β → α) (le : α → α → Bool) (items : List β) :
    sortBy le (items.map along) =
      (sortBy (fun a b => le (along a) (along b)) items).map along := by
  induction items with
  | nil => rfl
  | cons head tail ih => rw [List.map_cons, sortBy, ih, insert_by_map, sortBy]

end Map

section Keyed

variable {α κ : Type} [LinearOrder κ] {le other : α → α → Bool} {key : α → κ}
  {items left right : List α}

theorem insert_by_congr {item : α} (same : ∀ entry ∈ items, le item entry = other item entry) :
    insertBy le item items = insertBy other item items := by
  induction items with
  | nil => rfl
  | cons head tail ih =>
      rw [List.forall_mem_cons] at same
      rw [insertBy, insertBy, same.1, ih same.2]

theorem sort_by_congr (same : ∀ a ∈ items, ∀ b ∈ items, le a b = other a b) :
    sortBy le items = sortBy other items := by
  induction items with
  | nil => rfl
  | cons head tail ih =>
      have below : sortBy le tail = sortBy other tail :=
        ih fun a inTail b alsoInTail =>
          same a (List.mem_cons_of_mem head inTail) b (List.mem_cons_of_mem head alsoInTail)
      rw [sortBy, sortBy, below]
      apply insert_by_congr
      intro entry member
      exact same head List.mem_cons_self entry (List.mem_cons_of_mem head (mem_sort_by.1 member))

theorem pairwise_sort_by_key
    (agrees : ∀ a ∈ items, ∀ b ∈ items, le a b = decide (key a ≤ key b)) :
    (sortBy le items).Pairwise fun a b => key a ≤ key b := by
  have byKey : sortBy le items = sortBy (fun a b => decide (key a ≤ key b)) items :=
    sort_by_congr agrees
  rw [byKey]
  refine (pairwise_sort_by ?_ ?_ items).imp of_decide_eq_true
  · intro a b
    simpa only [decide_eq_true_eq] using le_total (key a) (key b)
  · intro a b c first second
    exact decide_eq_true (le_trans (of_decide_eq_true first) (of_decide_eq_true second))

theorem sort_by_eq_of_perm (agrees : ∀ a ∈ left, ∀ b ∈ left, le a b = decide (key a ≤ key b))
    (apart : ∀ a ∈ left, ∀ b ∈ left, key a = key b → a = b) (same : left.Perm right) :
    sortBy le left = sortBy le right := by
  have rightAgrees : ∀ a ∈ right, ∀ b ∈ right, le a b = decide (key a ≤ key b) := by
    intro a inRight b alsoInRight
    exact agrees a (same.mem_iff.2 inRight) b (same.mem_iff.2 alsoInRight)
  refine List.Perm.eq_of_pairwise ?_ (pairwise_sort_by_key agrees)
    (pairwise_sort_by_key rightAgrees) ?_
  · intro a b inLeft inRight first second
    exact apart a (mem_sort_by.1 inLeft) b (same.mem_iff.2 (mem_sort_by.1 inRight))
      (le_antisymm first second)
  · exact (sort_by_perm le left).trans (same.trans (sort_by_perm le right).symm)

theorem insert_by_of_forall_le {item : α} (first : ∀ entry ∈ items, le item entry = true) :
    insertBy le item items = item :: items := by
  cases items with
  | nil => rfl
  | cons head tail => rw [insertBy, if_pos (first head List.mem_cons_self)]

theorem filter_insert_by (keep : α → Bool) {item : α}
    (sorted : items.Pairwise fun a b => key a ≤ key b)
    (agrees : ∀ entry ∈ items, le item entry = decide (key item ≤ key entry)) :
    (insertBy le item items).filter keep =
      if keep item then insertBy le item (items.filter keep) else items.filter keep := by
  induction items with
  | nil => simp [insertBy, List.filter_cons]
  | cons head tail ih =>
      obtain ⟨headLe, tailSorted⟩ := List.pairwise_cons.1 sorted
      have inTail := ih tailSorted fun entry member =>
        agrees entry (List.mem_cons_of_mem head member)
      rw [insertBy]
      split
      case isTrue before =>
        have least : ∀ entry ∈ (head :: tail).filter keep, le item entry = true := by
          intro entry member
          have inItems := List.mem_of_mem_filter member
          rw [agrees head List.mem_cons_self, decide_eq_true_eq] at before
          rw [agrees entry inItems, decide_eq_true_eq]
          cases List.mem_cons.1 inItems with
          | inl here => exact here ▸ before
          | inr later => exact before.trans (headLe entry later)
        rw [insert_by_of_forall_le least, List.filter_cons]
      case isFalse behind =>
        rw [List.filter_cons, List.filter_cons, inTail]
        cases keep head <;> cases keep item <;> simp [insertBy, behind]

/-- Entries may be left out before a list is sorted or after it, also where the key does not
tell them apart. -/
theorem filter_sort_by (agrees : ∀ a ∈ items, ∀ b ∈ items, le a b = decide (key a ≤ key b))
    (keep : α → Bool) : (sortBy le items).filter keep = sortBy le (items.filter keep) := by
  induction items with
  | nil => rfl
  | cons head tail ih =>
      have tailAgrees : ∀ a ∈ tail, ∀ b ∈ tail, le a b = decide (key a ≤ key b) := by
        intro a inTail b alsoInTail
        exact agrees a (List.mem_cons_of_mem head inTail) b (List.mem_cons_of_mem head alsoInTail)
      have headAgrees : ∀ entry ∈ sortBy le tail,
          le head entry = decide (key head ≤ key entry) := by
        intro entry member
        exact agrees head List.mem_cons_self entry
          (List.mem_cons_of_mem head (mem_sort_by.1 member))
      rw [sortBy, filter_insert_by keep (pairwise_sort_by_key tailAgrees) headAgrees, ih tailAgrees,
        List.filter_cons]
      split
      · rfl
      · rfl

end Keyed

section Flag

variable {α : Type} (flag : α → Bool)

theorem insert_by_flag (item : α) {front back : List α}
    (marked : ∀ entry ∈ front, flag entry = true)
    (unmarked : ∀ entry ∈ back, flag entry = false) :
    insertBy (fun a b => flag a || !flag b) item (front ++ back) =
      if flag item then item :: (front ++ back) else front ++ item :: back := by
  induction front with
  | nil =>
      cases back with
      | nil => simp [insertBy]
      | cons head others => simp [insertBy, unmarked head List.mem_cons_self]
  | cons head front ih =>
      rw [List.forall_mem_cons] at marked
      rw [List.cons_append, insertBy, ih marked.2, marked.1]
      cases flag item <;> simp

theorem sort_by_flag (items : List α) :
    sortBy (fun a b => flag a || !flag b) items =
      items.filter flag ++ items.filter fun entry => !flag entry := by
  induction items with
  | nil => rfl
  | cons head tail ih =>
      have marked : ∀ entry ∈ tail.filter flag, flag entry = true := by simp
      have unmarked : ∀ entry ∈ tail.filter (fun entry => !flag entry), flag entry = false := by
        simp
      rw [sortBy, ih, insert_by_flag flag head marked unmarked]
      cases isMarked : flag head <;> simp [isMarked]

end Flag

theorem text_le_total (a b : String) : textLe a b = true ∨ textLe b a = true := by
  simp only [textLe, decide_eq_true_eq]
  exact String.le_total a b

theorem text_le_trans (a b c : String) (first : textLe a b = true) (second : textLe b c = true) :
    textLe a c = true := by
  simp only [textLe, decide_eq_true_eq] at *
  exact String.le_trans first second

theorem text_le_antisymm {a b : String} (first : textLe a b = true) (second : textLe b a = true) :
    a = b := by
  simp only [textLe, decide_eq_true_eq] at *
  exact String.le_antisymm first second

theorem sort_texts_perm (texts : List String) : (sortTexts texts).Perm texts :=
  sort_by_perm textLe texts

theorem pairwise_sort_texts (texts : List String) :
    (sortTexts texts).Pairwise fun a b => textLe a b = true :=
  pairwise_sort_by text_le_total text_le_trans texts

theorem sort_texts_eq_of_perm {left right : List String} (same : left.Perm right) :
    sortTexts left = sortTexts right := by
  refine List.Perm.eq_of_pairwise ?_ (pairwise_sort_texts left) (pairwise_sort_texts right) ?_
  · intro a b _ _ first second
    exact text_le_antisymm first second
  · exact (sort_texts_perm left).trans (same.trans (sort_texts_perm right).symm)

theorem sort_texts_eq_iff_perm {left right : List String} :
    sortTexts left = sortTexts right ↔ left.Perm right := by
  constructor
  · intro same
    have middle : (sortTexts left).Perm right := by
      rw [same]
      exact sort_texts_perm right
    exact (sort_texts_perm left).symm.trans middle
  · exact sort_texts_eq_of_perm

theorem distinct_perm_of_mem_iff {α : Type} [DecidableEq α] {left right : List α}
    (same : ∀ item, item ∈ left ↔ item ∈ right) : (distinct left).Perm (distinct right) := by
  refine (List.perm_ext_iff_of_nodup (nodup_distinct left) (nodup_distinct right)).2 ?_
  intro item
  rw [mem_distinct, mem_distinct]
  exact same item

theorem text_set_eq_of_mem_iff {left right : List String}
    (same : ∀ text, text ∈ left ↔ text ∈ right) : textSet left = textSet right :=
  sort_texts_eq_of_perm (distinct_perm_of_mem_iff same)

end LibraryDetection
