import FirmwareVars.Store.Write
import FirmwareVars.Proofs.Fs.Resolve

/-!
# The names of a variable's files

A variable's file is named `name-GUID`, written as UTF-8; a write that creates it first writes
a hidden staging file `.name-GUID.pid.seq.tmp` next to it. For a key whose name has no `/` and
no NUL, both are single names the filesystem takes as they are (`Path.Name`), and no staging
name is ever the name of a variable's file: the one ends in a hexadecimal digit, the other in
`p` (`stagingName_ne_fileName`).

The staging name is built from the variable's file name read back from its bytes, so the round
trip of the UTF-8 reader comes first: reading back the bytes of a string gives the string
(`Utf8.lossy_encode`). Every character's bytes are read back as that character because the
encoder writes no overlong form and no surrogate, which is what the reader's narrowed second-byte
ranges refuse.

Main statements:
  * `Utf8.lossy_encode` — lossy reading inverts encoding.
  * `VarKey.fileName_name`, `VarKey.stagingName_name` — both names are single plain names.
  * `VarKey.stagingPath_join` — the staging path is the variable's path with its last name
    replaced by `stagingName`.
  * `VarKey.stagingName_ne_fileName` — no staging name names a variable's file.
-/

namespace FirmwareVars

namespace Utf8

/-! ## §1. Reading back what was written -/

/-- The second byte of a three- or four-byte sequence is in range when it is a continuation
byte within the narrowed range its lead byte asks for. -/
theorem secondOk_of {b0 b1 : UInt8} (hc : 0x80 ≤ b1.toNat ∧ b1.toNat ≤ 0xBF)
    (hE0 : b0.toNat = 0xE0 → 0xA0 ≤ b1.toNat) (hED : b0.toNat = 0xED → b1.toNat ≤ 0x9F)
    (hF0 : b0.toNat = 0xF0 → 0x90 ≤ b1.toNat) (hF4 : b0.toNat = 0xF4 → b1.toNat ≤ 0x8F) :
    secondOk b0 b1 = true := by
  unfold secondOk
  split_ifs with h1 h2 h3 h4 <;>
    simp only [Bool.and_eq_true, decide_eq_true_eq, UInt8.le_iff_toNat_le, isCont]
  · have := hE0 (by rw [h1]; rfl)
    exact ⟨by simpa using this, by simpa using hc.2⟩
  · have := hED (by rw [h2]; rfl)
    exact ⟨by simpa using hc.1, by simpa using this⟩
  · have := hF0 (by rw [h3]; rfl)
    exact ⟨by simpa using this, by simpa using hc.2⟩
  · have := hF4 (by rw [h4]; rfl)
    exact ⟨by simpa using hc.1, by simpa using this⟩
  · exact ⟨by simpa using hc.1, by simpa using hc.2⟩

theorem isCont_of {b : UInt8} (h : 0x80 ≤ b.toNat ∧ b.toNat ≤ 0xBF) : isCont b = true := by
  simp only [isCont, Bool.and_eq_true, decide_eq_true_eq, UInt8.le_iff_toNat_le]
  exact ⟨by simpa using h.1, by simpa using h.2⟩

/-- The bytes of a code point below `0x80`: one byte, read back as that character. -/
theorem decodeHead_encodeChar_one {c : Char} (h : c.toNat < 0x80) (rest : Bytes) :
    decodeHead (encodeChar c ++ rest) = .char c 1 := by
  have hb : (UInt8.ofNat c.toNat).toNat = c.toNat := UInt8.toNat_ofNat_of_lt' (by unfold UInt8.size; omega)
  have hlt : UInt8.ofNat c.toNat < 0x80 := by
    rw [UInt8.lt_iff_toNat_lt, hb]
    exact h
  simp only [encodeChar, h, ↓reduceIte, List.cons_append, List.nil_append, decodeHead,
    Nat.toUInt8_eq, hlt, hb, Char.ofNat_toNat]

theorem decodeHead_encodeChar_two {c : Char} (h1 : 0x80 ≤ c.toNat) (h2 : c.toNat < 0x800)
    (rest : Bytes) : decodeHead (encodeChar c ++ rest) = .char c 2 := by
  have h0 : ¬ c.toNat < 0x80 := by omega
  have hb0 : (UInt8.ofNat (0xC0 + c.toNat / 64)).toNat = 0xC0 + c.toNat / 64 :=
    UInt8.toNat_ofNat_of_lt' (by unfold UInt8.size; omega)
  have hb1 : (UInt8.ofNat (0x80 + c.toNat % 64)).toNat = 0x80 + c.toNat % 64 :=
    UInt8.toNat_ofNat_of_lt' (by unfold UInt8.size; omega)
  have c1 : ¬ UInt8.ofNat (0xC0 + c.toNat / 64) < 0x80 := by
    rw [UInt8.lt_iff_toNat_lt, hb0]
    simp
    omega
  have c2 : (0xC2 ≤ UInt8.ofNat (0xC0 + c.toNat / 64) &&
      UInt8.ofNat (0xC0 + c.toNat / 64) ≤ 0xDF) = true := by
    simp only [Bool.and_eq_true, decide_eq_true_eq, UInt8.le_iff_toNat_le, hb0]
    simp
    omega
  have c3 : isCont (UInt8.ofNat (0x80 + c.toNat % 64)) = true := isCont_of (by omega)
  simp only [encodeChar, h0, h2, ↓reduceIte, List.cons_append, List.nil_append, decodeHead,
    Nat.toUInt8_eq, c1, c2, c3]
  -- the code point is put back together from its two pieces
  have hcomb : combine ((UInt8.ofNat (0xC0 + c.toNat / 64)).toNat % 32)
      [UInt8.ofNat (0x80 + c.toNat % 64)] = c.toNat := by
    simp only [combine, List.foldl, hb0, hb1]
    omega
  rw [hcomb, Char.ofNat_toNat]

theorem decodeHead_encodeChar_three {c : Char} (h1 : 0x800 ≤ c.toNat) (h2 : c.toNat < 0x10000)
    (rest : Bytes) : decodeHead (encodeChar c ++ rest) = .char c 3 := by
  -- a character is no surrogate
  have hvalid : c.toNat < 0xD800 ∨ (0xDFFF < c.toNat ∧ c.toNat < 0x110000) := c.valid
  have h0 : ¬ c.toNat < 0x80 := by omega
  have h0' : ¬ c.toNat < 0x800 := by omega
  have hb0 : (UInt8.ofNat (0xE0 + c.toNat / 4096)).toNat = 0xE0 + c.toNat / 4096 :=
    UInt8.toNat_ofNat_of_lt' (by unfold UInt8.size; omega)
  have hb1 : (UInt8.ofNat (0x80 + c.toNat / 64 % 64)).toNat = 0x80 + c.toNat / 64 % 64 :=
    UInt8.toNat_ofNat_of_lt' (by unfold UInt8.size; omega)
  have hb2 : (UInt8.ofNat (0x80 + c.toNat % 64)).toNat = 0x80 + c.toNat % 64 :=
    UInt8.toNat_ofNat_of_lt' (by unfold UInt8.size; omega)
  have c1 : ¬ UInt8.ofNat (0xE0 + c.toNat / 4096) < 0x80 := by
    rw [UInt8.lt_iff_toNat_lt, hb0]
    simp
    omega
  have c2 : ¬ (0xC2 ≤ UInt8.ofNat (0xE0 + c.toNat / 4096) &&
      UInt8.ofNat (0xE0 + c.toNat / 4096) ≤ 0xDF) = true := by
    simp only [Bool.and_eq_true, decide_eq_true_eq, UInt8.le_iff_toNat_le, hb0]
    simp
    omega
  have c3 : (0xE0 ≤ UInt8.ofNat (0xE0 + c.toNat / 4096) &&
      UInt8.ofNat (0xE0 + c.toNat / 4096) ≤ 0xEF) = true := by
    simp only [Bool.and_eq_true, decide_eq_true_eq, UInt8.le_iff_toNat_le, hb0]
    simp
    omega
  have c4 : secondOk (UInt8.ofNat (0xE0 + c.toNat / 4096))
      (UInt8.ofNat (0x80 + c.toNat / 64 % 64)) = true := by
    apply secondOk_of <;> simp only [hb0, hb1] <;> omega
  have c5 : isCont (UInt8.ofNat (0x80 + c.toNat % 64)) = true := isCont_of (by omega)
  simp only [encodeChar, h0, h0', h2, ↓reduceIte, List.cons_append, List.nil_append, decodeHead,
    Nat.toUInt8_eq, c1, c2, c3, c4, c5, Bool.not_true, Bool.false_eq_true]
  have hcomb : combine ((UInt8.ofNat (0xE0 + c.toNat / 4096)).toNat % 16)
      [UInt8.ofNat (0x80 + c.toNat / 64 % 64), UInt8.ofNat (0x80 + c.toNat % 64)] = c.toNat := by
    simp only [combine, List.foldl, hb0, hb1, hb2]
    omega
  rw [hcomb, Char.ofNat_toNat]

theorem decodeHead_encodeChar_four {c : Char} (h1 : 0x10000 ≤ c.toNat) (rest : Bytes) :
    decodeHead (encodeChar c ++ rest) = .char c 4 := by
  have hvalid : c.toNat < 0xD800 ∨ (0xDFFF < c.toNat ∧ c.toNat < 0x110000) := c.valid
  have h0 : ¬ c.toNat < 0x80 := by omega
  have h0' : ¬ c.toNat < 0x800 := by omega
  have h0'' : ¬ c.toNat < 0x10000 := by omega
  have hb0 : (UInt8.ofNat (0xF0 + c.toNat / 262144)).toNat = 0xF0 + c.toNat / 262144 :=
    UInt8.toNat_ofNat_of_lt' (by unfold UInt8.size; omega)
  have hb1 : (UInt8.ofNat (0x80 + c.toNat / 4096 % 64)).toNat = 0x80 + c.toNat / 4096 % 64 :=
    UInt8.toNat_ofNat_of_lt' (by unfold UInt8.size; omega)
  have hb2 : (UInt8.ofNat (0x80 + c.toNat / 64 % 64)).toNat = 0x80 + c.toNat / 64 % 64 :=
    UInt8.toNat_ofNat_of_lt' (by unfold UInt8.size; omega)
  have hb3 : (UInt8.ofNat (0x80 + c.toNat % 64)).toNat = 0x80 + c.toNat % 64 :=
    UInt8.toNat_ofNat_of_lt' (by unfold UInt8.size; omega)
  have c1 : ¬ UInt8.ofNat (0xF0 + c.toNat / 262144) < 0x80 := by
    rw [UInt8.lt_iff_toNat_lt, hb0]
    simp
    omega
  have c2 : ¬ (0xC2 ≤ UInt8.ofNat (0xF0 + c.toNat / 262144) &&
      UInt8.ofNat (0xF0 + c.toNat / 262144) ≤ 0xDF) = true := by
    simp only [Bool.and_eq_true, decide_eq_true_eq, UInt8.le_iff_toNat_le, hb0]
    simp
    omega
  have c3 : ¬ (0xE0 ≤ UInt8.ofNat (0xF0 + c.toNat / 262144) &&
      UInt8.ofNat (0xF0 + c.toNat / 262144) ≤ 0xEF) = true := by
    simp only [Bool.and_eq_true, decide_eq_true_eq, UInt8.le_iff_toNat_le, hb0]
    simp
    omega
  have c4 : (0xF0 ≤ UInt8.ofNat (0xF0 + c.toNat / 262144) &&
      UInt8.ofNat (0xF0 + c.toNat / 262144) ≤ 0xF4) = true := by
    simp only [Bool.and_eq_true, decide_eq_true_eq, UInt8.le_iff_toNat_le, hb0]
    simp
    omega
  have c5 : secondOk (UInt8.ofNat (0xF0 + c.toNat / 262144))
      (UInt8.ofNat (0x80 + c.toNat / 4096 % 64)) = true := by
    apply secondOk_of <;> simp only [hb0, hb1] <;> omega
  have c6 : isCont (UInt8.ofNat (0x80 + c.toNat / 64 % 64)) = true := isCont_of (by omega)
  have c7 : isCont (UInt8.ofNat (0x80 + c.toNat % 64)) = true := isCont_of (by omega)
  simp only [encodeChar, h0, h0', h0'', ↓reduceIte, List.cons_append, List.nil_append, decodeHead,
    Nat.toUInt8_eq, c1, c2, c3, c4, c5, c6, c7, Bool.not_true, Bool.false_eq_true]
  have hcomb : combine ((UInt8.ofNat (0xF0 + c.toNat / 262144)).toNat % 8)
      [UInt8.ofNat (0x80 + c.toNat / 4096 % 64), UInt8.ofNat (0x80 + c.toNat / 64 % 64),
        UInt8.ofNat (0x80 + c.toNat % 64)] = c.toNat := by
    simp only [combine, List.foldl, hb0, hb1, hb2, hb3]
    omega
  rw [hcomb, Char.ofNat_toNat]

/-- The bytes of a character are read back as that character, all of them at once. -/
theorem decodeHead_encodeChar (c : Char) (rest : Bytes) :
    decodeHead (encodeChar c ++ rest) = .char c (encodeChar c).length := by
  by_cases h1 : c.toNat < 0x80
  · rw [decodeHead_encodeChar_one h1]
    simp [encodeChar, h1]
  by_cases h2 : c.toNat < 0x800
  · rw [decodeHead_encodeChar_two (by omega) h2]
    simp [encodeChar, h1, h2]
  by_cases h3 : c.toNat < 0x10000
  · rw [decodeHead_encodeChar_three (by omega) h3]
    simp [encodeChar, h1, h2, h3]
  · rw [decodeHead_encodeChar_four (by omega)]
    simp [encodeChar, h1, h2, h3]

theorem encodeChar_ne_nil (c : Char) : encodeChar c ≠ [] := by
  simp only [encodeChar]
  split_ifs <;> simp

theorem lossyChars_encodeChar_append (c : Char) (rest : Bytes) :
    lossyChars (encodeChar c ++ rest) = c :: lossyChars rest := by
  obtain ⟨b, bs, hbs⟩ := List.exists_cons_of_ne_nil (encodeChar_ne_nil c)
  have hstep : step b (bs ++ rest) = (some c, bs.length + 1) := by
    unfold step
    rw [show b :: (bs ++ rest) = encodeChar c ++ rest by rw [hbs]; rfl, decodeHead_encodeChar, hbs]
    simp
  rw [hbs, List.cons_append, lossyChars, hstep]
  simp

/-- Reading back the bytes a string is written as gives the string. -/
theorem lossy_encode (s : String) : lossy (encode s) = s := by
  have hchars : ∀ l : List Char, lossyChars (l.flatMap encodeChar) = l := by
    intro l
    induction l with
    | nil => simp [lossyChars]
    | cons c l ih => rw [List.flatMap_cons, lossyChars_encodeChar_append, ih]
  rw [lossy, encode, hchars, String.ofList_toList]

theorem decodeFrom_encodeChar_append (offset : Nat) (acc : List Char) (c : Char) (rest : Bytes) :
    decodeFrom offset acc (encodeChar c ++ rest) =
      decodeFrom (offset + (encodeChar c).length) (c :: acc) rest := by
  obtain ⟨b, bs, hbs⟩ := List.exists_cons_of_ne_nil (encodeChar_ne_nil c)
  have hhead : decodeHead (b :: (bs ++ rest)) = .char c (bs.length + 1) := by
    rw [show b :: (bs ++ rest) = encodeChar c ++ rest by rw [hbs]; rfl, decodeHead_encodeChar, hbs]
    rfl
  have hstep : step b (bs ++ rest) = (some c, bs.length + 1) := by
    unfold step
    rw [hhead]
    simp
  rw [hbs, List.cons_append, decodeFrom, hhead]
  dsimp only
  rw [hstep]
  simp

/-- The bytes a string is written as read back, strictly, as that string. -/
theorem decode_encode (s : String) : decode (encode s) = .ok s := by
  have hchars : ∀ (l : List Char) (offset : Nat) (acc : List Char),
      decodeFrom offset acc (l.flatMap encodeChar) = .ok (acc.reverse ++ l) := by
    intro l
    induction l with
    | nil => intro offset acc; simp [decodeFrom]
    | cons c l ih =>
      intro offset acc
      rw [List.flatMap_cons, decodeFrom_encodeChar_append, ih]
      simp
  rw [decode, encode, hchars]
  simp [Except.map]

/-- Different strings are written as different bytes. -/
theorem encode_inj {s t : String} (h : encode s = encode t) : s = t := by
  rw [← lossy_encode s, h, lossy_encode]

/-! ## §2. ASCII bytes -/

theorem encode_append (s t : String) : encode (s ++ t) = encode s ++ encode t := by
  simp only [encode, String.toList_append, List.flatMap_append]

theorem encodeChar_of_lt {c : Char} (h : c.toNat < 0x80) : encodeChar c = [c.toNat.toUInt8] := by
  simp [encodeChar, h]

/-- A byte below `0x80` among the bytes of a string is the code of one of its characters: every
byte of a longer sequence is `0x80` or more. -/
theorem mem_encode_of_lt {s : String} {b : UInt8} (hb : b.toNat < 0x80) (h : b ∈ encode s) :
    ∃ c ∈ s.toList, c.toNat = b.toNat := by
  obtain ⟨c, hc, hbc⟩ := List.mem_flatMap.mp h
  refine ⟨c, hc, ?_⟩
  -- a byte `UInt8.ofNat x` with `0x80 ≤ x < 256` is no ASCII byte
  have high : ∀ x, 0x80 ≤ x → x < 256 → b = UInt8.ofNat x → False := by
    intro x hlo hhi hx
    rw [hx, UInt8.toNat_ofNat_of_lt' (by unfold UInt8.size; omega)] at hb
    omega
  have hvalid : c.toNat < 0xD800 ∨ (0xDFFF < c.toNat ∧ c.toNat < 0x110000) := c.valid
  simp only [encodeChar, Nat.toUInt8_eq] at hbc
  split_ifs at hbc with h1 h2 h3
  · rw [List.mem_singleton] at hbc
    rw [hbc, UInt8.toNat_ofNat_of_lt' (by unfold UInt8.size; omega)]
  · simp only [List.mem_cons, List.not_mem_nil, or_false] at hbc
    rcases hbc with hx | hx <;> exact (high _ (by omega) (by omega) hx).elim
  · simp only [List.mem_cons, List.not_mem_nil, or_false] at hbc
    rcases hbc with hx | hx | hx <;> exact (high _ (by omega) (by omega) hx).elim
  · simp only [List.mem_cons, List.not_mem_nil, or_false] at hbc
    rcases hbc with hx | hx | hx | hx <;> exact (high _ (by omega) (by omega) hx).elim

theorem not_mem_encode {s : String} {b : UInt8} (hb : b.toNat < 0x80)
    (h : ∀ c ∈ s.toList, c.toNat ≠ b.toNat) : b ∉ encode s := fun hmem =>
  let ⟨c, hc, hcb⟩ := mem_encode_of_lt hb hmem
  h c hc hcb

/-- The last byte of a string that ends in an ASCII character is that character's code. -/
theorem getLast?_encode_of_lt {s : String} {c : Char} (hs : s.toList.getLast? = some c)
    (hc : c.toNat < 0x80) : (encode s).getLast? = some c.toNat.toUInt8 := by
  obtain ⟨init, hinit⟩ : ∃ init, s.toList = init ++ [c] :=
    ⟨s.toList.dropLast, (List.dropLast_append_getLast? _ hs).symm⟩
  rw [encode, hinit, List.flatMap_append, List.flatMap_singleton, encodeChar_of_lt hc,
    List.getLast?_append_of_ne_nil _ (List.cons_ne_nil _ _)]
  rfl

end Utf8

/-! ## §3. A variable's file name -/

theorem Bytes.mem_toHex {bs : Bytes} {c : Char} (h : c ∈ (Bytes.toHex bs).toList) :
    ∃ d < 16, c = Bytes.hexDigit d := by
  simp only [Bytes.toHex, String.toList_join, List.mem_flatMap, List.mem_map] at h
  obtain ⟨_, ⟨b, -, rfl⟩, hc⟩ := h
  simp only [Bytes.byteHex, String.toList_ofList, List.mem_cons, List.not_mem_nil,
    or_false] at hc
  have := b.toNat_lt
  rcases hc with rfl | rfl
  · exact ⟨b.toNat / 16, by omega, rfl⟩
  · exact ⟨b.toNat % 16, by omega, rfl⟩

/-- A hexadecimal digit is one of `0-9a-f`, whose codes lie between `0x30` and `0x66`. -/
theorem Bytes.hexDigit_toNat {d : Nat} (hd : d < 16) :
    48 ≤ (Bytes.hexDigit d).toNat ∧ (Bytes.hexDigit d).toNat ≤ 102 := by
  revert d
  decide

namespace Guid

theorem forall_mem_append {P : Char → Prop} {s t : String} (hs : ∀ c ∈ s.toList, P c)
    (ht : ∀ c ∈ t.toList, P c) : ∀ c ∈ (s ++ t).toList, P c := by
  intro c hc
  rw [String.toList_append, List.mem_append] at hc
  exact hc.elim (hs c) (ht c)

/-- The text of a GUID is hexadecimal digits and hyphens. -/
theorem mem_text {g : Guid} {c : Char} (h : c ∈ g.text.toList) :
    c = '-' ∨ ∃ d < 16, c = Bytes.hexDigit d := by
  have hhex : ∀ bs, ∀ c ∈ (Bytes.toHex bs).toList, c = '-' ∨ ∃ d < 16, c = Bytes.hexDigit d :=
    fun _ _ hc => .inr (Bytes.mem_toHex hc)
  have hdash : ∀ c ∈ "-".toList, c = '-' ∨ ∃ d < 16, c = Bytes.hexDigit d := by
    intro c hc
    exact .inl (by simpa using hc)
  simp only [text] at h
  -- five groups of hex digits with a hyphen between each two
  exact forall_mem_append (forall_mem_append (forall_mem_append (forall_mem_append
    (forall_mem_append (forall_mem_append (forall_mem_append (forall_mem_append
      (hhex _) hdash) (hhex _)) hdash) (hhex _)) hdash) (hhex _)) hdash) (hhex _) c h

/-- The text of a GUID ends in a hexadecimal digit. -/
theorem getLast?_text (g : Guid) : ∃ d < 16, g.text.toList.getLast? = some (Bytes.hexDigit d) := by
  obtain ⟨bs, b, hbs⟩ : ∃ bs b, (g.bytes.drop 10).take 6 = bs ++ [b] := by
    rcases List.eq_nil_or_concat ((g.bytes.drop 10).take 6) with h | ⟨bs, b, h⟩
    · have : ((g.bytes.drop 10).take 6).length = 6 := by simp [bytes]
      rw [h] at this
      cases this
    · exact ⟨bs, b, by rw [h, List.concat_eq_append]⟩
  -- the last group of the text is the hex of the last six bytes
  have hlast : (Bytes.toHex (bs ++ [b])).toList =
      (Bytes.toHex bs).toList ++ [Bytes.hexDigit (b.toNat / 16), Bytes.hexDigit (b.toNat % 16)] := by
    simp [Bytes.toHex, String.toList_join, Bytes.byteHex]
  refine ⟨b.toNat % 16, by have := b.toNat_lt; omega, ?_⟩
  show (_ ++ Bytes.toHex ((g.bytes.drop 10).take 6)).toList.getLast? = _
  rw [String.toList_append, hbs, hlast, List.getLast?_append_of_ne_nil _ (by simp)]
  simp

end Guid

namespace VarKey

/-- A key whose name can stand in a path: it holds no `/` and no NUL. -/
structure PathSafe (k : VarKey) : Prop where
  slash_not_mem : '/' ∉ k.name.toList
  nul_not_mem : '\x00' ∉ k.name.toList

variable {k : VarKey}

/-- Every character of a file name is a character of the key's name, a hyphen or a hex digit. -/
theorem mem_fileName {c : Char} (h : c ∈ k.fileName.toList) :
    c ∈ k.name.toList ∨ c = '-' ∨ ∃ d < 16, c = Bytes.hexDigit d := by
  simp only [fileName, String.toList_append, List.mem_append] at h
  rcases h with (h | h) | h
  · exact .inl h
  · exact .inr (.inl (by simpa using h))
  · exact .inr (Guid.mem_text h)

theorem fileName_char_safe (hk : k.PathSafe) {c : Char} (h : c ∈ k.fileName.toList) :
    c.toNat ≠ 0 ∧ c.toNat ≠ 47 := by
  rcases mem_fileName h with h | rfl | ⟨d, hd, rfl⟩
  · constructor
    · intro h0
      have hc : c = '\x00' := by rw [← Char.ofNat_toNat c, h0]
      exact hk.nul_not_mem (hc ▸ h)
    · intro h47
      have hc : c = '/' := by rw [← Char.ofNat_toNat c, h47]
      exact hk.slash_not_mem (hc ▸ h)
  · decide
  · have := Bytes.hexDigit_toNat hd
    omega

/-- The bytes of a file name end in the code of a hexadecimal digit. -/
theorem getLast?_fileName (k : VarKey) :
    ∃ d < 16, (Utf8.encode k.fileName).getLast? = some (Bytes.hexDigit d).toNat.toUInt8 := by
  obtain ⟨d, hd, hlast⟩ := k.guid.getLast?_text
  refine ⟨d, hd, Utf8.getLast?_encode_of_lt ?_ (by have := Bytes.hexDigit_toNat hd; omega)⟩
  rw [fileName, String.toList_append, List.getLast?_append, hlast]
  rfl

theorem nul_not_mem_fileName (hk : k.PathSafe) : (0 : UInt8) ∉ Utf8.encode k.fileName :=
  Utf8.not_mem_encode (by decide) fun _ hc => (fileName_char_safe hk hc).1

/-- A name whose last byte is not a dot is neither `.` nor `..`. -/
theorem ne_dots_of_getLast? {q : Bytes} {b : UInt8} (h : q.getLast? = some b) (hb : b ≠ Path.dot) :
    q ≠ [] ∧ q ≠ [Path.dot] ∧ q ≠ [Path.dot, Path.dot] := by
  refine ⟨?_, ?_, ?_⟩ <;> rintro rfl <;> simp_all

/-- A variable's file name is a single name. -/
theorem fileName_name (hk : k.PathSafe) : Path.Name (Utf8.encode k.fileName) := by
  obtain ⟨d, hd, hlast⟩ := k.getLast?_fileName
  have hdigit := Bytes.hexDigit_toNat hd
  have hb : (Bytes.hexDigit d).toNat.toUInt8 ≠ Path.dot := by
    intro h
    have := congrArg UInt8.toNat h
    rw [Nat.toUInt8_eq, UInt8.toNat_ofNat_of_lt' (by unfold UInt8.size; omega)] at this
    simp [Path.dot] at this
    omega
  obtain ⟨hnil, hdot, hdotdot⟩ := ne_dots_of_getLast? hlast hb
  exact ⟨hnil, hdot, hdotdot,
    Utf8.not_mem_encode (by decide) fun _ hc => (fileName_char_safe hk hc).2⟩

/-! ## §4. Staging names -/

/-- The name of the staging file for a variable's file under process `process` and sequence
number `seq`. -/
def stagingName (k : VarKey) (process seq : Nat) : Bytes :=
  Utf8.encode ("." ++ k.fileName ++ "." ++ (toString process ++ "." ++ toString seq) ++ ".tmp")

/-- The staging file sits next to the variable's file: its path is the variable's path with the
last name replaced by the staging name. -/
theorem stagingPath_join (hk : k.PathSafe) (root : Path) (process seq : Nat) :
    Store.stagingPath (root.join ⟨Utf8.encode k.fileName⟩) process seq =
      (root.join ⟨Utf8.encode k.fileName⟩).withFileName (k.stagingName process seq) := by
  unfold Store.stagingPath stagingName
  rw [Path.fileName?_join root (fileName_name hk)]
  simp only [Utf8.lossy_encode]

theorem digit_char_safe {n : Nat} {c : Char} (h : c ∈ (toString n).toList) :
    c.toNat ≠ 0 ∧ c.toNat ≠ 47 := by
  rw [Nat.toString_eq_ofList_toDigits, String.toList_ofList] at h
  have hd := Nat.isDigit_of_mem_toDigits (by decide) (by decide) h
  simp only [Char.isDigit, Bool.and_eq_true, decide_eq_true_eq] at hd
  obtain ⟨h1, h2⟩ := hd
  have h1' : 48 ≤ c.toNat := h1
  omega

theorem stagingName_char_safe (hk : k.PathSafe) {process seq : Nat} {c : Char}
    (h : c ∈ ("." ++ k.fileName ++ "." ++ (toString process ++ "." ++ toString seq) ++
      ".tmp").toList) : c.toNat ≠ 0 ∧ c.toNat ≠ 47 := by
  have hlit : ∀ t : String, t = "." ∨ t = ".tmp" → ∀ c ∈ t.toList, c.toNat ≠ 0 ∧ c.toNat ≠ 47 := by
    rintro t (rfl | rfl) c hc <;> simp at hc <;> rcases hc with rfl | rfl | rfl | rfl <;> decide
  exact Guid.forall_mem_append (Guid.forall_mem_append (Guid.forall_mem_append
    (Guid.forall_mem_append (hlit _ (.inl rfl)) fun _ => fileName_char_safe hk) (hlit _ (.inl rfl)))
    (Guid.forall_mem_append (Guid.forall_mem_append (fun _ => digit_char_safe) (hlit _ (.inl rfl)))
      fun _ => digit_char_safe)) (hlit _ (.inr rfl)) c h

theorem getLast?_stagingName (k : VarKey) (process seq : Nat) :
    (k.stagingName process seq).getLast? = some 112 := by
  unfold stagingName
  have hlast : ("." ++ k.fileName ++ "." ++ (toString process ++ "." ++ toString seq) ++
      ".tmp").toList.getLast? = some 'p' := by
    rw [String.toList_append, List.getLast?_append_of_ne_nil _ (by simp)]
    simp
  rw [Utf8.getLast?_encode_of_lt hlast (by decide)]
  rfl

/-- A staging name is a single name. -/
theorem stagingName_name (hk : k.PathSafe) (process seq : Nat) :
    Path.Name (k.stagingName process seq) := by
  obtain ⟨hnil, hdot, hdotdot⟩ := ne_dots_of_getLast? (getLast?_stagingName k process seq)
    (by decide)
  exact ⟨hnil, hdot, hdotdot,
    Utf8.not_mem_encode (by decide) fun _ hc => (stagingName_char_safe hk hc).2⟩

theorem nul_not_mem_stagingName (hk : k.PathSafe) (process seq : Nat) :
    (0 : UInt8) ∉ k.stagingName process seq :=
  Utf8.not_mem_encode (by decide) fun _ hc => (stagingName_char_safe hk hc).1

/-- No staging name is the name of a variable's file: a staging name ends in `p`, a file name in
a hexadecimal digit. -/
theorem stagingName_ne_fileName (k k' : VarKey) (process seq : Nat) :
    k.stagingName process seq ≠ Utf8.encode k'.fileName := by
  intro h
  obtain ⟨d, hd, hlast⟩ := k'.getLast?_fileName
  have hdigit := Bytes.hexDigit_toNat hd
  rw [← h, getLast?_stagingName, Option.some.injEq] at hlast
  have := congrArg UInt8.toNat hlast
  rw [Nat.toUInt8_eq, UInt8.toNat_ofNat_of_lt' (by unfold UInt8.size; omega)] at this
  simp at this
  omega

end VarKey

end FirmwareVars
