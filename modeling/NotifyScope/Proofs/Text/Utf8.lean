import NotifyScope.Text.Utf8

/-
  Decoding and encoding.  The bytes of a text that could be
  decoded are the ones that it is encoded in: there is only
  one way to write a character.

  Main declarations:
    * `Utf8.encodeChar_of_char?`
    * `Utf8.encode_of_decode`
-/

namespace NotifyScope

namespace Utf8

------------------------------------------------------------
-- Bytes
------------------------------------------------------------

variable {a b c d : UInt8}
variable {char : Char}

theorem isContinuation_iff :
    isContinuation a = true ↔ a.toNat / 64 = 2 := by
  unfold isContinuation
  exact beq_iff_eq

/- A continuation is its payload with its mark. -/
theorem ofNat_payload
    (hByte : isContinuation a = true) :
    UInt8.ofNat (payload a + 128) = a := by
  have hMark := isContinuation_iff.mp hByte
  have hCode : payload a + 128 = a.toNat := by
    unfold payload
    omega
  rw [hCode, UInt8.ofNat_toNat]

theorem payload_lt : payload a < 64 :=
  Nat.mod_lt _ (by decide)

/- The code of a character that was made from a code. -/
theorem toNat_val_ofNat
    {code : Nat}
    (hValid : code.isValidChar) :
    (Char.ofNat code).val.toNat = code := by
  rw [Char.ofNat, dif_pos hValid]
  rfl

------------------------------------------------------------
-- Characters
------------------------------------------------------------

theorem encodeChar_of_ascii
    (hByte : a.toNat < 0x80) :
    String.utf8EncodeChar (Char.ofNat a.toNat) = [a] := by
  have hCode : (Char.ofNat a.toNat).val.toNat = a.toNat :=
    toNat_val_ofNat (.inl (by omega))
  unfold String.utf8EncodeChar
  rw [hCode]
  dsimp only
  rw [if_pos (by omega), UInt8.ofNat_toNat]

theorem encodeChar_of_pair?
    (hPair : pair? a b = some char) :
    String.utf8EncodeChar char = [a, b] := by
  unfold pair? at hPair
  extract_lets code at hPair
  split at hPair
  · rename_i hForm
    obtain ⟨hFirst, hSecond, hLow⟩ := hForm
    cases hPair
    have hPayload := payload_lt (a := b)
    have hUpper : code / 64 = a.toNat % 32 := by omega
    have hLower : code % 64 = payload b := by omega
    have hCode : (Char.ofNat code).val.toNat = code :=
      toNat_val_ofNat (.inl (by omega))
    have hLead : code / 64 % 32 + 192 = a.toNat := by omega
    unfold String.utf8EncodeChar
    rw [hCode]
    dsimp only
    rw [if_neg (by omega), if_pos (by omega), hLead, hLower,
      UInt8.ofNat_toNat, ofNat_payload hSecond]
  · cases hPair

theorem encodeChar_of_triple?
    (hTriple : triple? a b c = some char) :
    String.utf8EncodeChar char = [a, b, c] := by
  unfold triple? at hTriple
  extract_lets code at hTriple
  split at hTriple
  · rename_i hForm
    obtain ⟨hFirst, hSecond, hThird, hLow, hSurrogate⟩ :=
      hForm
    cases hTriple
    have hPayload := payload_lt (a := b)
    have hPayload' := payload_lt (a := c)
    have hUpper : code / 4096 = a.toNat % 16 := by omega
    have hMiddle : code / 64 % 64 = payload b := by omega
    have hLower : code % 64 = payload c := by omega
    have hCode : (Char.ofNat code).val.toNat = code := by
      apply toNat_val_ofNat
      unfold Nat.isValidChar
      omega
    have hLead : code / 4096 % 16 + 224 = a.toNat := by omega
    unfold String.utf8EncodeChar
    rw [hCode]
    dsimp only
    rw [if_neg (by omega), if_neg (by omega),
      if_pos (by omega), hLead, hMiddle, hLower,
      UInt8.ofNat_toNat, ofNat_payload hSecond,
      ofNat_payload hThird]
  · cases hTriple

theorem encodeChar_of_quadruple?
    (hQuadruple : quadruple? a b c d = some char) :
    String.utf8EncodeChar char = [a, b, c, d] := by
  unfold quadruple? at hQuadruple
  extract_lets code at hQuadruple
  split at hQuadruple
  · rename_i hForm
    obtain ⟨hFirst, hSecond, hThird, hFourth, hLow, hHigh⟩ :=
      hForm
    cases hQuadruple
    have hPayload := payload_lt (a := b)
    have hPayload' := payload_lt (a := c)
    have hPayload'' := payload_lt (a := d)
    have hUpper : code / 262144 = a.toNat % 8 := by omega
    have hMiddle : code / 4096 % 64 = payload b := by omega
    have hMiddle' : code / 64 % 64 = payload c := by omega
    have hLower : code % 64 = payload d := by omega
    have hCode : (Char.ofNat code).val.toNat = code := by
      apply toNat_val_ofNat
      unfold Nat.isValidChar
      omega
    have hLead : code / 262144 % 8 + 240 = a.toNat := by omega
    unfold String.utf8EncodeChar
    rw [hCode]
    dsimp only
    rw [if_neg (by omega), if_neg (by omega),
      if_neg (by omega), hLead, hMiddle, hMiddle', hLower,
      UInt8.ofNat_toNat, ofNat_payload hSecond,
      ofNat_payload hThird, ofNat_payload hFourth]
  · cases hQuadruple

/-
  The first character of a list of bytes is encoded in the
  bytes that it takes.
-/
theorem encodeChar_of_char?
    {bytes : List UInt8}
    {size : Nat}
    (hChar : char? bytes = some (char, size)) :
    ∃ rest,
      bytes = String.utf8EncodeChar char ++ rest ∧
        (String.utf8EncodeChar char).length = size := by
  revert hChar
  fun_cases char? bytes with
  | case1 => exact nofun
  | case2 a rest hByte =>
      rintro ⟨⟩
      rw [encodeChar_of_ascii hByte]
      exact ⟨rest, rfl, rfl⟩
  | case3 => exact nofun
  | case4 a _ b rest first hPair =>
      rintro ⟨⟩
      rw [encodeChar_of_pair? hPair]
      exact ⟨rest, rfl, rfl⟩
  | case5 => exact nofun
  | case6 a _ b c _ first rest hTriple =>
      rintro ⟨⟩
      rw [encodeChar_of_triple? hTriple]
      exact ⟨rest, rfl, rfl⟩
  | case7 => exact nofun
  | case8 a _ b c _ d rest _ =>
      intro hChar
      obtain ⟨first, hQuadruple, hPair⟩ :=
        Option.map_eq_some_iff.mp hChar
      cases hPair
      rw [encodeChar_of_quadruple? hQuadruple]
      exact ⟨rest, rfl, rfl⟩

/-
  What was decoded behind some characters is encoded in the
  bytes behind the last one of them.
-/
theorem encode_of_decodeFrom
    {position skip : Nat}
    {before text : Text}
    {bytes : List UInt8}
    (hSkip : skip ≤ bytes.length)
    (hText :
      decodeFrom position before skip bytes = .ok text) :
    ∃ behind,
      text = before.reverse ++ behind ∧
        encode behind = bytes.drop skip := by
  induction bytes generalizing position before skip with
  | nil =>
      cases hText
      exact ⟨[], by simp, by simp [encode]⟩
  | cons byte rest ih =>
      cases skip with
      | succ skip =>
          have hRest : skip ≤ rest.length := by simpa using hSkip
          exact ih hRest hText
      | zero =>
          unfold decodeFrom at hText
          split at hText
          · cases hText
          · rename_i first size hChar
            obtain ⟨later, hBytes, hSize⟩ :=
              encodeChar_of_char? hChar
            -- The rest starts within the first character.
            obtain ⟨head, tail, hFirst⟩ :=
              List.exists_cons_of_ne_nil
                (String.utf8EncodeChar_ne_nil (c := first))
            rw [hFirst, List.cons_append] at hBytes
            rw [hFirst] at hSize
            obtain ⟨rfl, rfl⟩ := List.cons.inj hBytes
            have hTail : size - 1 = tail.length := by
              rw [← hSize]
              rfl
            obtain ⟨behind, rfl, hEncode⟩ :=
              ih (by simp [hTail]) hText
            refine ⟨first :: behind, by simp, ?_⟩
            rw [hTail, List.drop_left] at hEncode
            unfold encode at hEncode ⊢
            rw [List.flatMap_cons, hFirst, hEncode]
            rfl

/- The bytes of a text are the ones that it was decoded from. -/
theorem encode_of_decode
    {bytes : List UInt8}
    {text : Text}
    (hText : decode bytes = .ok text) :
    encode text = bytes := by
  obtain ⟨behind, rfl, hEncode⟩ :=
    encode_of_decodeFrom (Nat.zero_le _) hText
  exact hEncode

end Utf8

end NotifyScope
