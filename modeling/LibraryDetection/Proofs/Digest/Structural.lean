import LibraryDetection.Digest.Structural
import LibraryDetection.Proofs.Collection.Sorted

/-!
# Decoding structural digests

The texts that are hashed can be read back: no digest holds a character that separates
digests in them.  Where no two texts collide, equal digests therefore stand for the same
bag of classes, and for the same package over the same bag of sub-packages.
-/

namespace LibraryDetection.Text

set_option autoImplicit false

theorem join_injective {separator : Char} {left right : List String}
    (leftFree : ∀ piece ∈ left, piece ≠ "" ∧ separator ∉ piece.toList)
    (rightFree : ∀ piece ∈ right, piece ≠ "" ∧ separator ∉ piece.toList)
    (same : join (String.singleton separator) left = join (String.singleton separator) right) :
    left = right := by
  have chars := congrArg String.toList same
  simp only [join, String.toList_intercalate, String.toList_singleton] at chars
  have readBack : ∀ pieces : List String,
      (∀ piece ∈ pieces, piece ≠ "" ∧ separator ∉ piece.toList) → pieces ≠ [] →
        ([separator].intercalate (pieces.map String.toList)).splitOn separator =
          pieces.map String.toList := by
    intro pieces free nonempty
    refine List.splitOn_intercalate separator ?_ (by simpa using nonempty)
    intro piece member
    obtain ⟨text, found, rfl⟩ := List.mem_map.1 member
    exact (free text found).2
  have notEmpty : ∀ (piece : String) (pieces : List String), piece ≠ "" →
      [separator].intercalate ((piece :: pieces).map String.toList) ≠ [] := by
    intro piece pieces nonempty vanished
    cases pieces <;> simp_all [List.intercalate]
  cases left with
  | nil =>
      cases right with
      | nil => rfl
      | cons piece pieces =>
          exact absurd chars.symm (notEmpty piece pieces (rightFree piece (by simp)).1)
  | cons first others =>
      cases right with
      | nil => exact absurd chars (notEmpty first others (leftFree first (by simp)).1)
      | cons piece pieces =>
          have leftBack := readBack (first :: others) leftFree (by simp)
          have rightBack := readBack (piece :: pieces) rightFree (by simp)
          rw [chars, rightBack] at leftBack
          have injective : Function.Injective String.toList := fun _ _ => String.toList_injective
          exact (List.map_injective_iff.2 injective leftBack).symm

theorem eq_hex_digit_of_mem (char : Char) (width value : Nat)
    (member : char ∈ hexDigits width value) : ∃ digit < 16, hexDigit digit = char := by
  induction width generalizing value with
  | zero => exact absurd member List.not_mem_nil
  | succ width ih =>
      rcases List.mem_append.1 member with before | last
      · exact ih (value / 16) before
      · have bound : value % 16 < 16 := Nat.mod_lt _ (by decide)
        exact ⟨value % 16, bound, (List.mem_singleton.1 last).symm⟩

end LibraryDetection.Text

namespace LibraryDetection.Digest

set_option autoImplicit false

open LibraryDetection.Text

/-- The text is the digest of some text.  A hash that stands in a record need not be one, but
the hash of a class that was made of its members is. -/
def IsDigest (text : String) : Prop := ∃ message, text = Md5.ofText message

/-- Different texts among the given ones have different digests.  No digest has this property
for all texts, so every result that needs it names the texts it needs it for. -/
def CollisionFree (messages : List String) : Prop :=
  ∀ first ∈ messages, ∀ second ∈ messages,
    Md5.ofText first = Md5.ofText second → first = second

theorem CollisionFree.of_subset {messages others : List String} (free : CollisionFree messages)
    (part : others ⊆ messages) : CollisionFree others := by
  intro first isFirst second isSecond
  exact free first (part isFirst) second (part isSecond)

theorem collision_free_iff_pairwise (messages : List String) :
    CollisionFree messages ↔
      messages.Pairwise fun first second =>
        Md5.ofText first = Md5.ofText second → first = second := by
  constructor
  · intro free
    exact List.pairwise_of_forall_mem_list free
  · intro pairs
    apply List.Pairwise.forall_of_forall_of_flip
    · intro message _ _
      rfl
    · exact pairs
    · apply pairs.imp
      intro first second decided same
      exact (decided same.symm).symm

instance (messages : List String) : Decidable (CollisionFree messages) :=
  decidable_of_iff _ (collision_free_iff_pairwise messages).symm

def separators : List Char := [';', ',', ':']

theorem hex_digit_not_separator : ∀ digit < 16, hexDigit digit ∉ separators := by decide

theorem is_digest_of_text (message : String) : IsDigest (Md5.ofText message) := ⟨message, rfl⟩

theorem is_digest_content_hash (signatures : List String) : IsDigest (contentHash signatures) :=
  is_digest_of_text _

theorem is_digest_node_hash (classHashes : List String) : IsDigest (nodeHash classHashes) :=
  is_digest_of_text _

theorem is_digest_subtree_hash (ownHash : String) (childHashes : List String) :
    IsDigest (subtreeHash ownHash childHashes) :=
  is_digest_of_text _

namespace IsDigest

variable {text : String}

theorem length (digest : IsDigest text) : text.length = 32 := by
  obtain ⟨message, rfl⟩ := digest
  exact Md5.length_of_text message

theorem ne_empty (digest : IsDigest text) : text ≠ "" := by
  intro empty
  have width := digest.length
  rw [empty] at width
  exact absurd width (by decide)

theorem separator_not_mem (digest : IsDigest text) {separator : Char}
    (separates : separator ∈ separators) : separator ∉ text.toList := by
  obtain ⟨message, rfl⟩ := digest
  intro member
  simp only [Md5.ofText, String.toList_ofList, Md5.hexChars, List.mem_flatMap] at member
  obtain ⟨byte, _, inByte⟩ := member
  obtain ⟨digit, bound, rfl⟩ := eq_hex_digit_of_mem separator 2 byte.toNat inByte
  exact hex_digit_not_separator digit bound separates

end IsDigest

theorem join_digests_injective {separator : Char} (separates : separator ∈ separators)
    {left right : List String} (leftDigests : ∀ text ∈ left, IsDigest text)
    (rightDigests : ∀ text ∈ right, IsDigest text)
    (same : join (String.singleton separator) left = join (String.singleton separator) right) :
    left = right :=
  join_injective
    (fun text member => ⟨(leftDigests text member).ne_empty,
      (leftDigests text member).separator_not_mem separates⟩)
    (fun text member => ⟨(rightDigests text member).ne_empty,
      (rightDigests text member).separator_not_mem separates⟩)
    same

theorem perm_of_join_sort_texts (separator : Char) (separates : separator ∈ separators)
    {left right : List String} (leftDigests : ∀ text ∈ left, IsDigest text)
    (rightDigests : ∀ text ∈ right, IsDigest text)
    (same : join (String.singleton separator) (sortTexts left) =
      join (String.singleton separator) (sortTexts right)) : left.Perm right := by
  refine sort_texts_eq_iff_perm.1 (join_digests_injective separates ?_ ?_ same)
  · intro text member
    exact leftDigests text (mem_sort_by.1 member)
  · intro text member
    exact rightDigests text (mem_sort_by.1 member)

theorem content_hash_eq_of_mem_iff {left right : List String}
    (same : ∀ text, text ∈ left ↔ text ∈ right) : contentHash left = contentHash right := by
  rw [contentHash, contentHash, contentMessage, contentMessage, text_set_eq_of_mem_iff same]

theorem node_message_eq_of_perm {left right : List String} (same : left.Perm right) :
    nodeMessage left = nodeMessage right := by
  rw [nodeMessage, nodeMessage, sort_texts_eq_of_perm same]

theorem node_hash_eq_of_perm {left right : List String} (same : left.Perm right) :
    nodeHash left = nodeHash right := by
  rw [nodeHash, nodeHash, node_message_eq_of_perm same]

theorem subtree_message_eq_of_perm (ownHash : String) {left right : List String}
    (same : left.Perm right) : subtreeMessage ownHash left = subtreeMessage ownHash right := by
  rw [subtreeMessage, subtreeMessage, sort_texts_eq_of_perm same]

theorem subtree_hash_eq_of_perm (ownHash : String) {left right : List String}
    (same : left.Perm right) : subtreeHash ownHash left = subtreeHash ownHash right := by
  rw [subtreeHash, subtreeHash, subtree_message_eq_of_perm ownHash same]

theorem perm_of_node_message_eq {left right : List String}
    (leftDigests : ∀ text ∈ left, IsDigest text) (rightDigests : ∀ text ∈ right, IsDigest text)
    (same : nodeMessage left = nodeMessage right) : left.Perm right :=
  perm_of_join_sort_texts ';' (by decide) leftDigests rightDigests same

/-- The package hash and the bag of hashes below it are read back from the text of a
subtree, since the package hash has a fixed width. -/
theorem eq_and_perm_of_subtree_message_eq {leftHash rightHash : String}
    {left right : List String} (leftOwn : IsDigest leftHash) (rightOwn : IsDigest rightHash)
    (leftDigests : ∀ text ∈ left, IsDigest text) (rightDigests : ∀ text ∈ right, IsDigest text)
    (same : subtreeMessage leftHash left = subtreeMessage rightHash right) :
    leftHash = rightHash ∧ left.Perm right := by
  have chars := congrArg String.toList same
  simp only [subtreeMessage, String.toList_append, List.append_assoc] at chars
  have widths : leftHash.toList.length = rightHash.toList.length := by
    rw [String.length_toList, String.length_toList, leftOwn.length, rightOwn.length]
  obtain ⟨heads, tails⟩ := List.append_inj chars widths
  have joined : join "," (sortTexts left) = join "," (sortTexts right) :=
    String.toList_injective (List.append_cancel_left tails)
  exact ⟨String.toList_injective heads,
    perm_of_join_sort_texts ',' (by decide) leftDigests rightDigests joined⟩

end LibraryDetection.Digest
