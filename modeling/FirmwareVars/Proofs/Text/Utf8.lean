import FirmwareVars.Proofs.Names

/-!
# Strict UTF-8 reading accepts exactly the encodings

A byte string reads back strictly as a string only when it is that string's encoding
(`Utf8.decode_eq_ok_iff`). The reader takes a sequence only when the table of well-formed
sequences allows it: the lead byte fixes the width, the second byte of a three- or four-byte
sequence lies in the narrowed range its lead byte asks for, and every later byte is a
continuation. Under those ranges the code point put together lies in exactly the band its width
is written for, and is no surrogate, so writing it again gives back the same bytes
(`encodeChar_two` … `encodeChar_four`). No overlong form, no second spelling of a character, and
nothing the encoder cannot produce is accepted.

Main statements:
  * `Utf8.decodeHead_eq_char` — a sequence read as a character is that character's encoding.
  * `Utf8.decode_eq_ok_iff` — strict reading accepts exactly the encodings of strings.
-/

namespace FirmwareVars.Utf8

/-! ## §1. The byte ranges a sequence is read under -/

theorem toUInt8_eq_of_toNat {m : Nat} {b : UInt8} (h : m = b.toNat) : m.toUInt8 = b := by
  rw [h, Nat.toUInt8_eq, UInt8.ofNat_toNat]

theorem toNat_of_isCont {b : UInt8} (h : isCont b = true) :
    0x80 ≤ b.toNat ∧ b.toNat ≤ 0xBF := by
  simp only [isCont, Bool.and_eq_true, decide_eq_true_eq, UInt8.le_iff_toNat_le] at h
  exact ⟨by simpa using h.1, by simpa using h.2⟩

/-- What the second byte of a three- or four-byte sequence may be: a continuation byte, in the
narrowed range the lead byte asks for. -/
theorem toNat_of_secondOk {b0 b1 : UInt8} (h : secondOk b0 b1 = true) :
    (0x80 ≤ b1.toNat ∧ b1.toNat ≤ 0xBF) ∧ (b0.toNat = 0xE0 → 0xA0 ≤ b1.toNat) ∧
      (b0.toNat = 0xED → b1.toNat ≤ 0x9F) ∧ (b0.toNat = 0xF0 → 0x90 ≤ b1.toNat) ∧
      (b0.toNat = 0xF4 → b1.toNat ≤ 0x8F) := by
  unfold secondOk at h
  split_ifs at h with h1 h2 h3 h4
  · subst h1
    simp [UInt8.le_iff_toNat_le] at h ⊢
    omega
  · subst h2
    simp [UInt8.le_iff_toNat_le] at h ⊢
    omega
  · subst h3
    simp [UInt8.le_iff_toNat_le] at h ⊢
    omega
  · subst h4
    simp [UInt8.le_iff_toNat_le] at h ⊢
    omega
  · -- any other lead byte asks for a plain continuation byte
    have hE0 : b0.toNat ≠ 0xE0 := fun e => h1 (UInt8.toNat_inj.mp e)
    have hED : b0.toNat ≠ 0xED := fun e => h2 (UInt8.toNat_inj.mp e)
    have hF0 : b0.toNat ≠ 0xF0 := fun e => h3 (UInt8.toNat_inj.mp e)
    have hF4 : b0.toNat ≠ 0xF4 := fun e => h4 (UInt8.toNat_inj.mp e)
    have := toNat_of_isCont h
    omega

/-! ## §2. A sequence is the encoding of the character it is read as -/

theorem toNat_ofNat_of_valid {n : Nat} (h : n.isValidChar) : (Char.ofNat n).toNat = n := by
  rw [Char.toNat_ofNat, if_pos h]

theorem encodeChar_one {b0 : UInt8} (h : b0 < 0x80) : encodeChar (Char.ofNat b0.toNat) = [b0] := by
  have hlt : b0.toNat < 0x80 := by simpa [UInt8.lt_iff_toNat_lt] using h
  simp only [encodeChar, toNat_ofNat_of_valid (.inl (by omega) : b0.toNat.isValidChar), hlt,
    if_true, toUInt8_eq_of_toNat rfl]

theorem encodeChar_two {b0 b1 : UInt8} (h0 : 0xC2 ≤ b0.toNat ∧ b0.toNat ≤ 0xDF)
    (h1 : isCont b1 = true) :
    encodeChar (Char.ofNat (combine (b0.toNat % 32) [b1])) = [b0, b1] := by
  have hc1 := toNat_of_isCont h1
  have hn : combine (b0.toNat % 32) [b1] = b0.toNat % 32 * 64 + b1.toNat % 64 := rfl
  -- the code point lies between 0x80 and 0x7FF
  have hvalid : (b0.toNat % 32 * 64 + b1.toNat % 64).isValidChar := .inl (by omega)
  rw [hn]
  simp only [encodeChar, toNat_ofNat_of_valid hvalid]
  rw [if_neg (by omega), if_pos (by omega), toUInt8_eq_of_toNat (b := b0) (by omega),
    toUInt8_eq_of_toNat (b := b1) (by omega)]

theorem encodeChar_three {b0 b1 b2 : UInt8} (h0 : 0xE0 ≤ b0.toNat ∧ b0.toNat ≤ 0xEF)
    (h1 : secondOk b0 b1 = true) (h2 : isCont b2 = true) :
    encodeChar (Char.ofNat (combine (b0.toNat % 16) [b1, b2])) = [b0, b1, b2] := by
  obtain ⟨hc1, hE0, hED, -, -⟩ := toNat_of_secondOk h1
  have hc2 := toNat_of_isCont h2
  have hn : combine (b0.toNat % 16) [b1, b2] =
      (b0.toNat % 16 * 64 + b1.toNat % 64) * 64 + b2.toNat % 64 := rfl
  -- between 0x800 and 0xFFFF, and no surrogate: after 0xE0 the second byte is 0xA0 or more,
  -- after 0xED it is 0x9F or less
  have hvalid : ((b0.toNat % 16 * 64 + b1.toNat % 64) * 64 + b2.toNat % 64).isValidChar := by
    unfold Nat.isValidChar
    omega
  rw [hn]
  simp only [encodeChar, toNat_ofNat_of_valid hvalid]
  rw [if_neg (by omega), if_neg (by omega), if_pos (by omega),
    toUInt8_eq_of_toNat (b := b0) (by omega), toUInt8_eq_of_toNat (b := b1) (by omega),
    toUInt8_eq_of_toNat (b := b2) (by omega)]

theorem encodeChar_four {b0 b1 b2 b3 : UInt8} (h0 : 0xF0 ≤ b0.toNat ∧ b0.toNat ≤ 0xF4)
    (h1 : secondOk b0 b1 = true) (h2 : isCont b2 = true) (h3 : isCont b3 = true) :
    encodeChar (Char.ofNat (combine (b0.toNat % 8) [b1, b2, b3])) = [b0, b1, b2, b3] := by
  obtain ⟨hc1, -, -, hF0, hF4⟩ := toNat_of_secondOk h1
  have hc2 := toNat_of_isCont h2
  have hc3 := toNat_of_isCont h3
  have hn : combine (b0.toNat % 8) [b1, b2, b3] =
      ((b0.toNat % 8 * 64 + b1.toNat % 64) * 64 + b2.toNat % 64) * 64 + b3.toNat % 64 := rfl
  -- between 0x10000 and 0x10FFFF: after 0xF0 the second byte is 0x90 or more, after 0xF4 it is
  -- 0x8F or less
  have hvalid : (((b0.toNat % 8 * 64 + b1.toNat % 64) * 64 + b2.toNat % 64) * 64 +
      b3.toNat % 64).isValidChar := by
    unfold Nat.isValidChar
    omega
  rw [hn]
  simp only [encodeChar, toNat_ofNat_of_valid hvalid]
  rw [if_neg (by omega), if_neg (by omega), if_neg (by omega),
    toUInt8_eq_of_toNat (b := b0) (by omega), toUInt8_eq_of_toNat (b := b1) (by omega),
    toUInt8_eq_of_toNat (b := b2) (by omega), toUInt8_eq_of_toNat (b := b3) (by omega)]

theorem toNat_of_range {b : UInt8} {lo hi : UInt8} (h : (lo ≤ b && b ≤ hi) = true) :
    lo.toNat ≤ b.toNat ∧ b.toNat ≤ hi.toNat := by
  simpa [UInt8.le_iff_toNat_le] using h

/-- A sequence read as a character is that character's encoding, and the reader steps over all of
it. -/
theorem decodeHead_eq_char {bs : Bytes} {c : Char} {w : Nat} (h : decodeHead bs = .char c w) :
    ∃ rest, bs = encodeChar c ++ rest ∧ w = (encodeChar c).length := by
  cases bs with
  | nil => simp [decodeHead] at h
  | cons b0 rest =>
    simp only [decodeHead] at h
    split_ifs at h with h1 h2 h3 h4
    · -- one byte
      cases h
      exact ⟨rest, by rw [encodeChar_one h1]; rfl, by rw [encodeChar_one h1]; rfl⟩
    · -- two bytes
      have hb0 := toNat_of_range h2
      rcases rest with _ | ⟨b1, rest⟩
      · cases h
      simp only at h
      split_ifs at h with hb1
      cases h
      rw [encodeChar_two hb0 hb1]
      exact ⟨rest, rfl, rfl⟩
    · -- three bytes
      have hb0 := toNat_of_range h3
      rcases rest with _ | ⟨b1, _ | ⟨b2, rest⟩⟩
      · cases h
      · simp only at h
        split_ifs at h
      simp only at h
      split_ifs at h with hb1 hb2
      cases h
      rw [encodeChar_three hb0 (by simpa using hb1) hb2]
      exact ⟨rest, rfl, rfl⟩
    · -- four bytes
      have hb0 := toNat_of_range h4
      rcases rest with _ | ⟨b1, _ | ⟨b2, _ | ⟨b3, rest⟩⟩⟩
      · cases h
      · simp only at h
        split_ifs at h
      · simp only at h
        split_ifs at h
      simp only at h
      split_ifs at h with hb1 hb2 hb3
      cases h
      rw [encodeChar_four hb0 (by simpa using hb1) (by simpa using hb2) hb3]
      exact ⟨rest, rfl, rfl⟩

/-! ## §3. Whole strings -/

/-- What strict reading accepts is the encoding of the characters it reads, after those it had. -/
theorem decodeFrom_eq_ok {offset : Nat} {acc cs : List Char} {bs : Bytes}
    (h : decodeFrom offset acc bs = .ok cs) :
    ∃ l, cs = acc.reverse ++ l ∧ l.flatMap encodeChar = bs := by
  fun_induction decodeFrom offset acc bs with
  | case1 offset acc =>
    -- nothing left: the characters read are all there is
    cases h
    exact ⟨[], by simp, rfl⟩
  | case2 => cases h
  | case3 => cases h
  | case4 offset acc b rest c w hhead ih =>
    obtain ⟨l, hcs, hl⟩ := ih h
    obtain ⟨r, hbs, hw⟩ := decodeHead_eq_char hhead
    -- the step takes exactly the character's bytes
    have hstep : (step b rest).2 = (encodeChar c).length := by
      have := List.length_pos_of_ne_nil (encodeChar_ne_nil c)
      simp only [step, hhead, hw]
      omega
    rw [hstep, hbs, List.drop_left' rfl] at hl
    exact ⟨c :: l, by simp [hcs], by rw [List.flatMap_cons, hl, hbs]⟩

theorem encode_of_decode {bs : Bytes} {s : String} (h : decode bs = .ok s) : encode s = bs := by
  rw [decode] at h
  cases hd : decodeFrom 0 [] bs with
  | error e =>
    rw [hd] at h
    cases h
  | ok cs =>
    rw [hd] at h
    cases h
    obtain ⟨l, rfl, hl⟩ := decodeFrom_eq_ok hd
    simpa [encode] using hl

/-- Strict reading accepts exactly the encodings of strings. -/
theorem decode_eq_ok_iff {bs : Bytes} {s : String} : decode bs = .ok s ↔ encode s = bs :=
  ⟨encode_of_decode, fun h => h ▸ decode_encode s⟩

end FirmwareVars.Utf8
