import LibraryDetection.Text.Utf8

/-!
# Texts that were encoded

The bytes of a text are read back to its characters, whatever they are, and bytes that are not
those of a text are not read.
-/

namespace LibraryDetection.Text.Utf8

set_option autoImplicit false

theorem toNat_byte {code : Nat} (small : code < 256) : (UInt8.ofNat code).toNat = code := by
  rw [UInt8.toNat_ofNat']
  exact Nat.mod_eq_of_lt small

theorem continuation_cons {low high due read bits : Nat} {byte : UInt8} {rest : List UInt8}
    (above : low ≤ byte.toNat) (below : byte.toNat ≤ high) :
    continuation low high (due + 1) read bits (byte :: rest) =
      continuation 0x80 0xBF due (read + 1) (bits * 64 + (byte.toNat - 0x80)) rest := by
  rw [continuation, if_pos ⟨above, below⟩]

theorem continuation_zero (low high read bits : Nat) (bytes : List UInt8) :
    continuation low high 0 read bits bytes = .ok bits := by
  rw [continuation]

theorem code_bounds (char : Char) :
    char.toNat < 0xD800 ∨ 0xDFFF < char.toNat ∧ char.toNat < 0x110000 :=
  char.valid

section Widths

variable {code : Nat} {rest : List UInt8} (position : Nat)

theorem decode_char_one (small : code < 0x80) :
    decodeChar position (UInt8.ofNat code) rest = .ok (code, 1) := by
  have lead : (UInt8.ofNat code).toNat = code := toNat_byte (by omega)
  have width : leadWidth? code = some 1 := by
    rw [leadWidth?, if_pos small]
  simp only [decodeChar, lead, width]

theorem decode_char_two (low : 0x80 ≤ code) (high : code < 0x800) :
    decodeChar position (UInt8.ofNat (0xC0 + code / 64))
        (UInt8.ofNat (0x80 + code % 64) :: rest) = .ok (code, 2) := by
  have lead : (UInt8.ofNat (0xC0 + code / 64)).toNat = 0xC0 + code / 64 :=
    toNat_byte (by omega)
  have last : (UInt8.ofNat (0x80 + code % 64)).toNat = 0x80 + code % 64 :=
    toNat_byte (by omega)
  have width : leadWidth? (0xC0 + code / 64) = some 2 := by
    simp only [leadWidth?]
    rw [if_neg (by omega), if_neg (by omega), if_pos (by omega)]
  have range : secondRange (0xC0 + code / 64) = (0x80, 0xBF) := by
    simp only [secondRange]
    rw [if_neg (by omega), if_neg (by omega), if_neg (by omega), if_neg (by omega)]
  simp only [decodeChar, lead, width, range]
  rw [continuation_cons (by omega) (by omega), continuation_zero, last, leadBits, if_pos rfl]
  have whole : (0xC0 + code / 64 - 0xC0) * 64 + (0x80 + code % 64 - 0x80) = code := by omega
  rw [whole]

theorem decode_char_three (low : 0x800 ≤ code) (high : code < 0x10000)
    (proper : code < 0xD800 ∨ 0xDFFF < code) :
    decodeChar position (UInt8.ofNat (0xE0 + code / 4096))
        (UInt8.ofNat (0x80 + code / 64 % 64) :: UInt8.ofNat (0x80 + code % 64) :: rest) =
      .ok (code, 3) := by
  have lead : (UInt8.ofNat (0xE0 + code / 4096)).toNat = 0xE0 + code / 4096 :=
    toNat_byte (by omega)
  have second : (UInt8.ofNat (0x80 + code / 64 % 64)).toNat = 0x80 + code / 64 % 64 :=
    toNat_byte (by omega)
  have last : (UInt8.ofNat (0x80 + code % 64)).toNat = 0x80 + code % 64 :=
    toNat_byte (by omega)
  have width : leadWidth? (0xE0 + code / 4096) = some 3 := by
    simp only [leadWidth?]
    rw [if_neg (by omega), if_neg (by omega), if_neg (by omega), if_pos (by omega)]
  have range : (secondRange (0xE0 + code / 4096)).1 ≤ 0x80 + code / 64 % 64 ∧
      0x80 + code / 64 % 64 ≤ (secondRange (0xE0 + code / 4096)).2 := by
    simp only [secondRange]
    split
    · dsimp only
      omega
    · split
      · dsimp only
        omega
      · rw [if_neg (by omega), if_neg (by omega)]
        dsimp only
        omega
  have bits : leadBits (0xE0 + code / 4096) 3 = code / 4096 := by
    rw [leadBits, if_neg (by decide), if_pos rfl, Nat.add_sub_cancel_left]
  simp only [decodeChar, lead, width, bits]
  rw [continuation_cons (by omega) (by omega),
    continuation_cons (by omega) (by omega), continuation_zero, second, last]
  have whole : (code / 4096 * 64 + (0x80 + code / 64 % 64 - 0x80)) * 64 +
      (0x80 + code % 64 - 0x80) = code := by omega
  rw [whole]

theorem decode_char_four (low : 0x10000 ≤ code) (high : code < 0x110000) :
    decodeChar position (UInt8.ofNat (0xF0 + code / 262144))
        (UInt8.ofNat (0x80 + code / 4096 % 64) :: UInt8.ofNat (0x80 + code / 64 % 64) ::
          UInt8.ofNat (0x80 + code % 64) :: rest) =
      .ok (code, 4) := by
  have lead : (UInt8.ofNat (0xF0 + code / 262144)).toNat = 0xF0 + code / 262144 :=
    toNat_byte (by omega)
  have second : (UInt8.ofNat (0x80 + code / 4096 % 64)).toNat = 0x80 + code / 4096 % 64 :=
    toNat_byte (by omega)
  have third : (UInt8.ofNat (0x80 + code / 64 % 64)).toNat = 0x80 + code / 64 % 64 :=
    toNat_byte (by omega)
  have last : (UInt8.ofNat (0x80 + code % 64)).toNat = 0x80 + code % 64 :=
    toNat_byte (by omega)
  have width : leadWidth? (0xF0 + code / 262144) = some 4 := by
    simp only [leadWidth?]
    rw [if_neg (by omega), if_neg (by omega), if_neg (by omega), if_neg (by omega),
      if_pos (by omega)]
  have range : (secondRange (0xF0 + code / 262144)).1 ≤ 0x80 + code / 4096 % 64 ∧
      0x80 + code / 4096 % 64 ≤ (secondRange (0xF0 + code / 262144)).2 := by
    simp only [secondRange]
    rw [if_neg (by omega), if_neg (by omega)]
    split
    · dsimp only
      omega
    · split
      · dsimp only
        omega
      · dsimp only
        omega
  have bits : leadBits (0xF0 + code / 262144) 4 = code / 262144 := by
    rw [leadBits, if_neg (by decide), if_neg (by decide), Nat.add_sub_cancel_left]
  simp only [decodeChar, lead, width, bits]
  rw [continuation_cons (by omega) (by omega),
    continuation_cons (by omega) (by omega), continuation_cons (by omega) (by omega),
    continuation_zero, second, third, last]
  have whole : ((code / 262144 * 64 + (0x80 + code / 4096 % 64 - 0x80)) * 64 +
      (0x80 + code / 64 % 64 - 0x80)) * 64 + (0x80 + code % 64 - 0x80) = code := by omega
  rw [whole]

end Widths

theorem decode_char_encode_char (char : Char) (position : Nat) (rest : List UInt8) :
    ∃ lead others, encodeChar char = lead :: others ∧
      decodeChar position lead (others ++ rest) = .ok (char.toNat, others.length + 1) := by
  have bounds := code_bounds char
  rw [encodeChar]
  split
  · rename_i small
    exact ⟨_, [], rfl, decode_char_one position small⟩
  · split
    · exact ⟨_, [_], rfl, decode_char_two position (by omega) (by omega)⟩
    · split
      · exact ⟨_, [_, _], rfl, decode_char_three position (by omega) (by omega) (by omega)⟩
      · exact ⟨_, [_, _, _], rfl, decode_char_four position (by omega) (by omega)⟩

theorem decode_onto_due (passed : List Char) (position : Nat) (skipped rest : List UInt8) :
    decodeOnto passed position skipped.length (skipped ++ rest) =
      decodeOnto passed (position + skipped.length) 0 rest := by
  induction skipped generalizing position with
  | nil => rfl
  | cons byte skipped ih =>
      rw [List.cons_append, List.length_cons, decodeOnto, ih, Nat.add_right_comm, Nat.add_assoc]

theorem decode_onto_encode (chars passed : List Char) (position : Nat) :
    decodeOnto passed position 0 (chars.flatMap encodeChar) = .ok (passed.reverse ++ chars) := by
  induction chars generalizing passed position with
  | nil =>
      rw [List.flatMap_nil, decodeOnto, List.append_nil]
  | cons char chars ih =>
      obtain ⟨lead, others, encoded, decoded⟩ :=
        decode_char_encode_char char position (chars.flatMap encodeChar)
      rw [List.flatMap_cons, encoded, List.cons_append, decodeOnto, decoded]
      simp only [Nat.add_sub_cancel]
      rw [decode_onto_due, ih, Char.ofNat_toNat, List.reverse_cons, List.append_assoc]
      rfl

theorem length_le_size (text : String) : text.toList.length ≤ size text := by
  rw [size, encode]
  induction text.toList with
  | nil => exact Nat.le_refl 0
  | cons char rest ih =>
      have one : 1 ≤ (encodeChar char).length := by
        rw [encodeChar]
        split
        · exact Nat.le_refl 1
        · split
          · exact Nat.le_succ 1
          · split <;> exact Nat.le_add_left 1 _
      rw [List.flatMap_cons, List.length_append, List.length_cons]
      omega

theorem decode_encode (text : String) : decode (encode text) = .ok text.toList :=
  decode_onto_encode text.toList [] 0

theorem exists_char {code : Nat} (valid : code < 0xD800 ∨ 0xDFFF < code ∧ code < 0x110000) :
    ∃ char : Char, char.toNat = code := by
  refine ⟨Char.ofNat code, ?_⟩
  rw [Char.ofNat, dif_pos valid]
  rfl

theorem exists_of_continuation {low high due read bits code : Nat} {bytes : List UInt8}
    (done : continuation low high (due + 1) read bits bytes = .ok code) :
    ∃ byte rest, bytes = byte :: rest ∧ low ≤ byte.toNat ∧ byte.toNat ≤ high ∧
      continuation 0x80 0xBF due (read + 1) (bits * 64 + (byte.toNat - 0x80)) rest = .ok code := by
  cases bytes with
  | nil => cases done
  | cons byte rest =>
      rw [continuation] at done
      split at done
      · rename_i within
        exact ⟨byte, rest, rfl, within.1, within.2, done⟩
      · cases done

theorem second_range_bounds {lead second : Nat} (above : (secondRange lead).1 ≤ second)
    (below : second ≤ (secondRange lead).2) :
    0x80 ≤ second ∧ second ≤ 0xBF ∧ (lead = 0xE0 → 0xA0 ≤ second) ∧
      (lead = 0xED → second ≤ 0x9F) ∧ (lead = 0xF0 → 0x90 ≤ second) ∧
        (lead = 0xF4 → second ≤ 0x8F) := by
  simp only [secondRange] at above below
  grind

theorem lead_width?_cases {lead width : Nat} (known : leadWidth? lead = some width) :
    width = 1 ∧ lead < 0x80 ∨ width = 2 ∧ 0xC2 ≤ lead ∧ lead < 0xE0 ∨
      width = 3 ∧ 0xE0 ≤ lead ∧ lead < 0xF0 ∨ width = 4 ∧ 0xF0 ≤ lead ∧ lead < 0xF5 := by
  rw [leadWidth?] at known
  grind

theorem ofNat_eq {code : Nat} {byte : UInt8} (same : code = byte.toNat) :
    UInt8.ofNat code = byte := by
  rw [same, UInt8.ofNat_toNat]

theorem exists_of_decode_char_wide {position width : Nat} {lead : UInt8} {rest : List UInt8}
    {found : Nat × Nat} (known : leadWidth? lead.toNat = some width) (wide : width ≠ 1)
    (done : decodeChar position lead rest = .ok found) :
    found.2 = width ∧ continuation (secondRange lead.toNat).1 (secondRange lead.toNat).2
      (width - 1) 0 (leadBits lead.toNat width) rest = .ok found.1 := by
  rw [decodeChar, known] at done
  split at done
  · cases done
  · rename_i one
    cases one
    exact absurd rfl wide
  · rename_i other _ same
    cases same
    dsimp only at done
    split at done
    · rename_i read
      cases done
      exact ⟨rfl, read⟩
    · cases done

section Forms

variable {char : Char} {lead second third last : UInt8}

theorem encode_char_eq_two (low : 0xC2 ≤ lead.toNat) (high : lead.toNat < 0xE0)
    (secondLow : 0x80 ≤ second.toNat) (secondHigh : second.toNat ≤ 0xBF)
    (code : char.toNat = (lead.toNat - 0xC0) * 64 + (second.toNat - 0x80)) :
    encodeChar char = [lead, second] := by
  simp only [encodeChar]
  rw [if_neg (by omega), if_pos (by omega), ofNat_eq (by omega : _ = lead.toNat),
    ofNat_eq (by omega : _ = second.toNat)]

theorem encode_char_eq_three (low : 0xE0 ≤ lead.toNat) (high : lead.toNat < 0xF0)
    (secondLow : 0x80 ≤ second.toNat) (secondHigh : second.toNat ≤ 0xBF)
    (proper : lead.toNat = 0xE0 → 0xA0 ≤ second.toNat)
    (lastLow : 0x80 ≤ last.toNat) (lastHigh : last.toNat ≤ 0xBF)
    (code : char.toNat = ((lead.toNat - 0xE0) * 64 + (second.toNat - 0x80)) * 64 +
      (last.toNat - 0x80)) : encodeChar char = [lead, second, last] := by
  simp only [encodeChar]
  rw [if_neg (by omega), if_neg (by omega), if_pos (by omega),
    ofNat_eq (by omega : _ = lead.toNat), ofNat_eq (by omega : _ = second.toNat),
    ofNat_eq (by omega : _ = last.toNat)]

theorem encode_char_eq_four (low : 0xF0 ≤ lead.toNat) (high : lead.toNat < 0xF5)
    (secondLow : 0x80 ≤ second.toNat) (secondHigh : second.toNat ≤ 0xBF)
    (proper : lead.toNat = 0xF0 → 0x90 ≤ second.toNat)
    (thirdLow : 0x80 ≤ third.toNat) (thirdHigh : third.toNat ≤ 0xBF)
    (lastLow : 0x80 ≤ last.toNat) (lastHigh : last.toNat ≤ 0xBF)
    (code : char.toNat = (((lead.toNat - 0xF0) * 64 + (second.toNat - 0x80)) * 64 +
      (third.toNat - 0x80)) * 64 + (last.toNat - 0x80)) :
    encodeChar char = [lead, second, third, last] := by
  simp only [encodeChar]
  rw [if_neg (by omega), if_neg (by omega), if_neg (by omega),
    ofNat_eq (by omega : _ = lead.toNat), ofNat_eq (by omega : _ = second.toNat),
    ofNat_eq (by omega : _ = third.toNat), ofNat_eq (by omega : _ = last.toNat)]

end Forms

theorem exists_char_of_decode_char {position : Nat} {lead : UInt8} {rest : List UInt8}
    {found : Nat × Nat} (done : decodeChar position lead rest = .ok found) :
    ∃ (char : Char) (others left : List UInt8), char.toNat = found.1 ∧
      found.2 = others.length + 1 ∧ rest = others ++ left ∧ encodeChar char = lead :: others := by
  cases known : leadWidth? lead.toNat with
  | none =>
      rw [decodeChar, known] at done
      cases done
  | some width =>
      rcases lead_width?_cases known with ⟨rfl, ascii⟩ | ⟨rfl, low, high⟩ | ⟨rfl, low, high⟩ |
        ⟨rfl, low, high⟩
      · rw [decodeChar, known] at done
        cases done
        obtain ⟨char, code⟩ := exists_char (.inl (by omega) : lead.toNat < 0xD800 ∨ _)
        refine ⟨char, [], rest, code, rfl, rfl, ?_⟩
        rw [encodeChar, code, if_pos ascii, UInt8.ofNat_toNat]
      · obtain ⟨wide, read⟩ := exists_of_decode_char_wide known (by decide) done
        obtain ⟨second, left, rfl, above, below, bits⟩ := exists_of_continuation read
        obtain ⟨secondLow, secondHigh, _⟩ := second_range_bounds above below
        rw [continuation_zero, Except.ok.injEq, leadBits, if_pos rfl] at bits
        obtain ⟨char, code⟩ := exists_char (.inl (by omega) : found.1 < 0xD800 ∨ _)
        exact ⟨char, [second], left, code, wide, rfl,
          encode_char_eq_two low high secondLow secondHigh (code.trans bits.symm)⟩
      · obtain ⟨wide, read⟩ := exists_of_decode_char_wide known (by decide) done
        obtain ⟨second, _, rfl, above, below, read⟩ := exists_of_continuation read
        obtain ⟨last, left, rfl, lastLow, lastHigh, bits⟩ := exists_of_continuation read
        obtain ⟨secondLow, secondHigh, proper, surrogate, _⟩ := second_range_bounds above below
        rw [continuation_zero, Except.ok.injEq, leadBits, if_neg (by decide), if_pos rfl] at bits
        obtain ⟨char, code⟩ := exists_char (by omega : found.1 < 0xD800 ∨ _)
        exact ⟨char, [second, last], left, code, wide, rfl,
          encode_char_eq_three low high secondLow secondHigh proper lastLow lastHigh
            (code.trans bits.symm)⟩
      · obtain ⟨wide, read⟩ := exists_of_decode_char_wide known (by decide) done
        obtain ⟨second, _, rfl, above, below, read⟩ := exists_of_continuation read
        obtain ⟨third, _, rfl, thirdLow, thirdHigh, read⟩ := exists_of_continuation read
        obtain ⟨last, left, rfl, lastLow, lastHigh, bits⟩ := exists_of_continuation read
        obtain ⟨secondLow, secondHigh, _, _, proper, final⟩ := second_range_bounds above below
        rw [continuation_zero, Except.ok.injEq, leadBits, if_neg (by decide),
          if_neg (by decide)] at bits
        obtain ⟨char, code⟩ := exists_char (by omega : found.1 < 0xD800 ∨ _)
        exact ⟨char, [second, third, last], left, code, wide, rfl,
          encode_char_eq_four low high secondLow secondHigh proper thirdLow thirdHigh lastLow
            lastHigh (code.trans bits.symm)⟩

theorem drop_eq_of_decode_onto {passed chars : List Char} {position due : Nat}
    {bytes : List UInt8} (done : decodeOnto passed position due bytes = .ok chars) :
    ∃ text, chars = passed.reverse ++ text ∧ bytes.drop due = text.flatMap encodeChar := by
  induction bytes generalizing passed position due with
  | nil =>
      rw [decodeOnto, Except.ok.injEq] at done
      exact ⟨[], by rw [← done, List.append_nil], List.drop_nil⟩
  | cons byte rest ih =>
      cases due with
      | succ due => exact ih done
      | zero =>
          rw [decodeOnto] at done
          split at done
          · cases done
          · rename_i code width decoded
            obtain ⟨char, others, left, same, wide, rfl, encoded⟩ :=
              exists_char_of_decode_char decoded
            obtain ⟨text, read, behind⟩ := ih done
            simp only at same wide
            rw [wide, Nat.add_sub_cancel, List.drop_left] at behind
            refine ⟨char :: text, ?_, ?_⟩
            · rw [read, ← same, Char.ofNat_toNat, List.reverse_cons, List.append_assoc]
              rfl
            · rw [List.flatMap_cons, encoded, List.drop_zero, ← behind, List.cons_append]

theorem decode_eq_ok_iff {bytes : List UInt8} {chars : List Char} :
    decode bytes = .ok chars ↔ bytes = encode (String.ofList chars) := by
  constructor
  · intro done
    obtain ⟨text, same, behind⟩ := drop_eq_of_decode_onto done
    rw [encode, String.toList_ofList, same]
    exact behind
  · rintro rfl
    rw [decode_encode, String.toList_ofList]

theorem exists_fault_iff {bytes : List UInt8} :
    (∃ fault, decode bytes = .error fault) ↔ ∀ text, bytes ≠ encode text := by
  constructor
  · rintro ⟨fault, failed⟩ text rfl
    rw [decode_encode] at failed
    cases failed
  · intro foreign
    cases decoded : decode bytes with
    | error fault => exact ⟨fault, rfl⟩
    | ok chars => exact absurd (decode_eq_ok_iff.1 decoded) (foreign _)

end LibraryDetection.Text.Utf8
