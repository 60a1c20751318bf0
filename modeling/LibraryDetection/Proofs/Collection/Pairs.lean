import Mathlib.Data.List.Forall2
import Mathlib.Data.List.Perm.Basic

/-!
# Pairs

Two lists whose entries are related one to one, in their order or in any other, have the
same bag of what related entries agree in.  Two computations end alike if they both fail or
both give values that are related.
-/

namespace LibraryDetection

set_option autoImplicit false

theorem exists_pairs_of_map_perm {α β γ : Type} {key : α → γ} {other : β → γ} {left : List α}
    {right : List β} (same : (left.map key).Perm (right.map other)) :
    ∃ partners : List β, partners.Perm right ∧
      List.Forall₂ (fun a b => key a = other b) left partners := by
  have byKey :
      List.Forall₂ (fun (hash : γ) (item : β) => hash = other item) (right.map other) right := by
    refine List.forall₂_map_left_iff.2 ?_
    exact List.forall₂_same.2 fun item _ => rfl
  obtain ⟨partners, pairs, order⟩ := List.perm_comp_forall₂ same byKey
  exact ⟨partners, order, List.forall₂_map_left_iff.1 pairs⟩

theorem map_eq_of_forall₂ {α β γ : Type} {key : α → γ} {other : β → γ} {left : List α}
    {right : List β} (pairs : List.Forall₂ (fun a b => key a = other b) left right) :
    left.map key = right.map other := by
  induction pairs with
  | nil => rfl
  | cons pair _ ih => rw [List.map_cons, List.map_cons, pair, ih]

theorem exists_forall₂_iff {α β : Type} {related : α → β → Prop} {left : List α} :
    (∃ right, List.Forall₂ related left right) ↔ ∀ a ∈ left, ∃ b, related a b := by
  constructor
  · intro paired
    obtain ⟨right, pairs⟩ := paired
    induction pairs with
    | nil => simp
    | @cons a b _ _ pair _ ih => exact List.forall_mem_cons.2 ⟨⟨b, pair⟩, ih⟩
  · intro each
    induction left with
    | nil => exact ⟨[], .nil⟩
    | cons a rest ih =>
        obtain ⟨⟨b, pair⟩, others⟩ := List.forall_mem_cons.1 each
        obtain ⟨right, pairs⟩ := ih others
        exact ⟨b :: right, .cons pair pairs⟩

theorem forall₂_imp_of_mem {α β : Type} {before after : α → β → Prop} {left : List α}
    {right : List β} (implies : ∀ a ∈ left, ∀ b ∈ right, before a b → after a b)
    (pairs : List.Forall₂ before left right) : List.Forall₂ after left right := by
  induction pairs with
  | nil => exact List.Forall₂.nil
  | cons pair pairs ih =>
      refine List.Forall₂.cons (implies _ List.mem_cons_self _ List.mem_cons_self pair) (ih ?_)
      intro a inLeft b inRight
      exact implies a (List.mem_cons_of_mem _ inLeft) b (List.mem_cons_of_mem _ inRight)

theorem map_perm_of_pairs {α β γ : Type} {related : α → β → Prop} {key : α → γ} {other : β → γ}
    {left : List α} {right partners : List β} (order : partners.Perm right)
    (pairs : List.Forall₂ related left partners)
    (same : ∀ a ∈ left, ∀ b ∈ right, related a b → key a = other b) :
    (left.map key).Perm (right.map other) := by
  have paired : List.Forall₂ (fun a b => key a = other b) left partners := by
    refine forall₂_imp_of_mem ?_ pairs
    intro a inLeft b inPartners
    exact same a inLeft b (order.mem_iff.1 inPartners)
  rw [map_eq_of_forall₂ paired]
  exact order.map other

theorem flatMap_perm_of_forall₂ {α β γ : Type} {expand : α → List γ} {other : β → List γ}
    {left : List α} {right : List β}
    (pairs : List.Forall₂ (fun a b => (expand a).Perm (other b)) left right) :
    (left.flatMap expand).Perm (right.flatMap other) := by
  induction pairs with
  | nil => exact List.Perm.refl _
  | cons pair _ ih =>
      rw [List.flatMap_cons, List.flatMap_cons]
      exact pair.append ih

/-- Lists that are paired up to reordering stay so when they are put together. -/
theorem exists_pairs_flatMap {α β γ δ : Type} {related : γ → δ → Prop} {expand : α → List γ}
    {other : β → List δ} {left : List α} {right : List β}
    (pairs : List.Forall₂ (fun a b => ∃ partners : List δ, partners.Perm (other b) ∧
      List.Forall₂ related (expand a) partners) left right) :
    ∃ partners : List δ, partners.Perm (right.flatMap other) ∧
      List.Forall₂ related (left.flatMap expand) partners := by
  induction pairs with
  | nil => exact ⟨[], List.Perm.refl _, .nil⟩
  | cons pair _ ih =>
      obtain ⟨first, firstOrder, firstPairs⟩ := pair
      obtain ⟨rest, restOrder, restPairs⟩ := ih
      refine ⟨first ++ rest, ?_, ?_⟩
      · rw [List.flatMap_cons]
        exact firstOrder.append restOrder
      · rw [List.flatMap_cons]
        exact List.rel_append firstPairs restPairs

section Paired

variable {α β γ : Type} {related : α → β → Prop} {left : List α} {right : List β}

/-- The entries of the lists are related one to one, in any order: some order of the one list is
related to the other list entry by entry. -/
def Paired (related : α → β → Prop) (left : List α) (right : List β) : Prop :=
  ∃ partners : List β, partners.Perm right ∧ List.Forall₂ related left partners

theorem paired_of_forall₂ (pairs : List.Forall₂ related left right) : Paired related left right :=
  ⟨right, List.Perm.refl right, pairs⟩

theorem Paired.flip (paired : Paired related left right) :
    Paired (fun b a => related a b) right left := by
  obtain ⟨partners, order, pairs⟩ := paired
  obtain ⟨others, pairsBack, orderBack⟩ := List.perm_comp_forall₂ order.symm pairs.flip
  exact ⟨others, orderBack, pairsBack⟩

theorem Paired.imp {other : α → β → Prop} (implies : ∀ a b, related a b → other a b)
    (paired : Paired related left right) : Paired other left right := by
  obtain ⟨partners, order, pairs⟩ := paired
  exact ⟨partners, order, pairs.imp implies⟩

theorem Paired.map_perm {key : α → γ} {other : β → γ}
    (same : ∀ a b, related a b → key a = other b) (paired : Paired related left right) :
    (left.map key).Perm (right.map other) := by
  obtain ⟨partners, order, pairs⟩ := paired
  exact map_perm_of_pairs order pairs fun a _ b _ => same a b

theorem Paired.flatMap_perm {expand : α → List γ} {other : β → List γ}
    (same : ∀ a b, related a b → (expand a).Perm (other b)) (paired : Paired related left right) :
    (left.flatMap expand).Perm (right.flatMap other) := by
  obtain ⟨partners, order, pairs⟩ := paired
  exact (flatMap_perm_of_forall₂ (pairs.imp same)).trans (order.flatMap_right other)

theorem Paired.exists_partner (paired : Paired related left right) {a : α} (member : a ∈ left) :
    ∃ b ∈ right, related a b := by
  obtain ⟨partners, order, pairs⟩ := paired
  suffices found : ∃ b ∈ partners, related a b by
    obtain ⟨b, inPartners, pair⟩ := found
    exact ⟨b, order.mem_iff.1 inPartners, pair⟩
  clear order
  induction pairs with
  | nil => cases member
  | cons pair _ ih =>
      cases List.mem_cons.1 member with
      | inl here => exact ⟨_, List.mem_cons_self, here ▸ pair⟩
      | inr later =>
          obtain ⟨b, inRest, found⟩ := ih later
          exact ⟨b, List.mem_cons_of_mem _ inRest, found⟩

theorem Paired.filter {test : α → Bool} {other : β → Bool}
    (same : ∀ a b, related a b → test a = other b) (paired : Paired related left right) :
    Paired related (left.filter test) (right.filter other) := by
  obtain ⟨partners, order, pairs⟩ := paired
  refine ⟨partners.filter other, order.filter other, ?_⟩
  refine List.rel_filter ?_ pairs
  intro a b pair
  simp only [same a b pair]

theorem Paired.length_eq (paired : Paired related left right) : left.length = right.length := by
  obtain ⟨partners, order, pairs⟩ := paired
  exact pairs.length_eq.trans order.length_eq

theorem Paired.countP_eq {test : α → Bool} {other : β → Bool}
    (same : ∀ a b, related a b → test a = other b) (paired : Paired related left right) :
    left.countP test = right.countP other := by
  have verdicts := (paired.map_perm same).countP_eq id
  rwa [List.countP_map, List.countP_map] at verdicts

end Paired

/-- Both computations fail, in whatever way, or both give values that are related. -/
inductive EndAlike {ε α : Type} (related : α → α → Prop) : Except ε α → Except ε α → Prop
  | ok {value other : α} (alike : related value other) : EndAlike related (.ok value) (.ok other)
  | error (failure other : ε) : EndAlike related (.error failure) (.error other)

theorem EndAlike.exists_partner {ε α : Type} {related : α → α → Prop} {result other : Except ε α}
    {value : α} (alike : EndAlike related result other) (done : result = .ok value) :
    ∃ partner, other = .ok partner ∧ related value partner := by
  cases alike with
  | ok pair =>
      cases done
      exact ⟨_, rfl, pair⟩
  | error => cases done

theorem end_alike_of_exists {ε α : Type} {related : α → α → Prop} {result other : Except ε α}
    (forth : ∀ value, result = .ok value → ∃ partner, other = .ok partner ∧ related value partner)
    (back : ∀ partner, other = .ok partner → ∃ value, result = .ok value) :
    EndAlike related result other := by
  cases result with
  | ok value =>
      obtain ⟨partner, rfl, alike⟩ := forth value rfl
      exact .ok alike
  | error failure =>
      cases other with
      | error otherFailure => exact .error failure otherFailure
      | ok partner =>
          obtain ⟨value, same⟩ := back partner rfl
          cases same

end LibraryDetection
