import LibraryDetection.Proofs.Digest.Structural
import LibraryDetection.Proofs.Text.Fields

/-!
# Contents as lines

The members of a class are hashed as one text with a line for each signature.  What digests
tell apart are therefore the lines: a signature that holds a line break is written like several
signatures, and no signature at all is written like the empty one.  Apart from that, classes
have the same digest exactly when they have the same members.
-/

namespace LibraryDetection.Digest

set_option autoImplicit false

open LibraryDetection.Text

/-- The lines that are written for a set of signatures.  There is always one, which is empty
where there is no signature. -/
def contentLines (signatures : List String) : List String :=
  if signatures = [] then [""] else (textSet signatures).flatMap (split '\n')

variable {left right signatures : List String}

theorem text_set_ne_nil (some : signatures ≠ []) : textSet signatures ≠ [] := by
  obtain ⟨signature, member⟩ := List.exists_mem_of_ne_nil signatures some
  exact List.ne_nil_of_mem (mem_text_set.2 member)

theorem split_content_message (signatures : List String) :
    split '\n' (contentMessage signatures) = contentLines signatures := by
  unfold contentLines
  split
  case isTrue empty =>
    rw [empty]
    rfl
  case isFalse some =>
    exact split_join (text_set_ne_nil some)

theorem content_message_eq_iff :
    contentMessage left = contentMessage right ↔ contentLines left = contentLines right := by
  rw [← split_content_message, ← split_content_message]
  constructor
  · intro same
    rw [same]
  · exact split_injective

theorem content_hash_eq_iff (free : CollisionFree [contentMessage left, contentMessage right]) :
    contentHash left = contentHash right ↔ contentLines left = contentLines right := by
  rw [← content_message_eq_iff]
  constructor
  · intro same
    exact free _ (by simp) _ (by simp) same
  · intro same
    rw [contentHash, contentHash, same]

/-- Signatures without a line break are the lines that are written for them. -/
theorem content_lines_of_unbroken (some : signatures ≠ [])
    (unbroken : ∀ signature ∈ signatures, '\n' ∉ signature.toList) :
    contentLines signatures = textSet signatures := by
  rw [← split_content_message]
  apply split_join_of_not_mem (text_set_ne_nil some)
  intro signature member
  exact unbroken signature (mem_text_set.1 member)

theorem content_lines_of_forall_empty (empty : ∀ signature ∈ signatures, signature = "") :
    contentLines signatures = [""] := by
  by_cases none : signatures = []
  · rw [contentLines, if_pos none]
  · have unbroken : ∀ signature ∈ signatures, '\n' ∉ signature.toList := by
      intro signature member
      simp [empty signature member]
    have alone : ∀ signature, signature ∈ signatures ↔ signature ∈ [""] := by
      intro signature
      rw [List.mem_singleton]
      constructor
      · exact empty signature
      · intro isEmpty
        obtain ⟨other, member⟩ := List.exists_mem_of_ne_nil signatures none
        rwa [isEmpty, ← empty other member]
    rw [content_lines_of_unbroken none unbroken, text_set_eq_of_mem_iff alone]
    rfl

theorem eq_empty_of_content_lines (unbroken : ∀ signature ∈ signatures, '\n' ∉ signature.toList)
    (written : contentLines signatures = [""]) : ∀ signature ∈ signatures, signature = "" := by
  intro signature member
  rw [content_lines_of_unbroken (List.ne_nil_of_mem member) unbroken] at written
  apply List.mem_singleton.1
  rw [← written, mem_text_set]
  exact member

/-- Without line breaks the lines are read back as the set, except that the empty signature
cannot be told from none. -/
theorem content_lines_eq_iff_of_unbroken
    (unbroken : ∀ signature ∈ left ++ right, '\n' ∉ signature.toList) :
    contentLines left = contentLines right ↔
      (∀ signature, signature ∈ left ↔ signature ∈ right) ∨
        ∀ signature ∈ left ++ right, signature = "" := by
  rw [List.forall_mem_append] at unbroken ⊢
  constructor
  · intro same
    by_cases noLeft : left = []
    · rw [noLeft] at same ⊢
      exact .inr ⟨by simp, eq_empty_of_content_lines unbroken.2 same.symm⟩
    · by_cases noRight : right = []
      · rw [noRight] at same ⊢
        exact .inr ⟨eq_empty_of_content_lines unbroken.1 same, by simp⟩
      · rw [content_lines_of_unbroken noLeft unbroken.1,
          content_lines_of_unbroken noRight unbroken.2] at same
        apply Or.inl
        intro signature
        rw [← mem_text_set, same, mem_text_set]
  · intro alike
    cases alike with
    | inl same =>
        apply content_message_eq_iff.1
        rw [contentMessage, contentMessage, text_set_eq_of_mem_iff same]
    | inr empty =>
        rw [content_lines_of_forall_empty empty.1, content_lines_of_forall_empty empty.2]

/-- Signatures with the same members have the same digest.  Unless their texts collide, the
digests are the same exactly when the same lines are written; and where no signature holds a
line break, exactly when the members are the same or none of them is anything but empty. -/
theorem content_hash_separates_lines
    (free : CollisionFree [contentMessage left, contentMessage right]) :
    ((∀ signature, signature ∈ left ↔ signature ∈ right) → contentHash left = contentHash right) ∧
      (contentHash left = contentHash right ↔ contentLines left = contentLines right) ∧
      ((∀ signature ∈ left ++ right, '\n' ∉ signature.toList) →
        (contentHash left = contentHash right ↔
          (∀ signature, signature ∈ left ↔ signature ∈ right) ∨
            ∀ signature ∈ left ++ right, signature = "")) := by
  refine ⟨content_hash_eq_of_mem_iff, content_hash_eq_iff free, ?_⟩
  intro unbroken
  rw [content_hash_eq_iff free]
  exact content_lines_eq_iff_of_unbroken unbroken

/-- A class with a method and one with another method beside it are told apart. -/
theorem content_hash_of_overload :
    contentHash ["encode()V"] ≠ contentHash ["encode()V", "encode(I)V"] := by
  have free : CollisionFree
      [contentMessage ["encode()V"], contentMessage ["encode()V", "encode(I)V"]] := by
    decide +kernel
  have separated := (content_hash_separates_lines free).2.2 (by decide +kernel)
  intro same
  cases separated.1 same with
  | inl members => exact absurd ((members "encode(I)V").2 (by simp)) (by simp)
  | inr empty => exact absurd (empty "encode()V" (by simp)) (by simp)

/-- Different members with the same text, and so with the same digest: two signatures and one
that is both of them with a line break between, and no signature and the empty one. -/
theorem content_hash_of_same_lines :
    (contentMessage ["decode()V\nencode()V"] = contentMessage ["decode()V", "encode()V"] ∧
      contentHash ["decode()V\nencode()V"] = contentHash ["decode()V", "encode()V"] ∧
      ¬ ∀ signature, signature ∈ ["decode()V\nencode()V"] ↔
        signature ∈ ["decode()V", "encode()V"]) ∧
    contentMessage [] = contentMessage [""] ∧ contentHash [] = contentHash [""] ∧
      ¬ ∀ signature, signature ∈ ([] : List String) ↔ signature ∈ [""] := by
  refine ⟨⟨by decide +kernel, by decide +kernel, ?_⟩, rfl, rfl, ?_⟩
  · intro same
    exact absurd ((same "decode()V").2 (by simp)) (by decide)
  · intro same
    exact absurd ((same "").2 (by simp)) (by simp)

end LibraryDetection.Digest
