import FirmwareVars.Checksum.Crc32
import FirmwareVars.Proofs.Export.Codec

/-!
# What CRC-32 detects

The register of CRC-32 moves by a map that is linear over exclusive or: one shift moves the
register down a place and folds the polynomial back in when a one falls out (`shift_xor`). Because
the polynomial's top bit is set, nothing is lost on the way (`shift_injective`). Feeding a byte is
eight shifts after an exclusive or, so the register after a message is affine in the message
(`update_zipWith_xor`): flipping bits of a message moves its register by the register that the
flips alone leave behind, started from zero.

Feeding up to four bytes is feeding them as one little-endian word (`update_word`): a byte fed
later enters the register eight places above, and eight shifts bring it down to where it would
have entered. The checksum written after a message, four little-endian bytes, is therefore exactly
what brings the register to one fixed value, the residue (`checksum_eq_iff`). And a pattern of
flips confined to four consecutive bytes, some flip set, leaves the zero register non-zero: the
zeros before it leave the register at zero, its bytes make a non-zero word, and the shifts that
follow lose nothing (`update_burst_ne_zero`).

Main statements:
  * `shift_xor`, `shift_injective` — one shift is linear and loses nothing.
  * `update_zipWith_xor` — the register is affine in the message.
  * `update_word` — up to four bytes enter as one word.
  * `checksum_eq_iff` — a trailer is the checksum exactly when the register ends at the residue.
  * `update_burst_ne_zero` — every burst of at most 32 bits moves the register.
-/

namespace FirmwareVars.Crc32

/-! ## §1. One shift -/

theorem and_one_eq_one_iff (r : UInt32) : r &&& 1 = 1 ↔ r.toNat % 2 = 1 := by
  rw [← UInt32.toNat_inj, UInt32.toNat_and, show (1 : UInt32).toNat = 1 from rfl,
    Nat.and_one_is_mod]

/-- One shift is linear over exclusive or. -/
theorem shift_xor (a b : UInt32) : shift (a ^^^ b) = shift a ^^^ shift b := by
  simp only [shift, and_one_eq_one_iff, UInt32.toNat_xor, Nat.xor_mod_two_eq_one,
    UInt32.shiftRight_xor]
  -- the polynomial comes in once for each operand whose low bit is set; twice, it cancels
  by_cases ha : a.toNat % 2 = 1 <;> by_cases hb : b.toNat % 2 = 1
  · rw [if_neg (by simp [ha, hb]), if_pos ha, if_pos hb, UInt32.xor_assoc,
      UInt32.xor_comm (b >>> 1), ← UInt32.xor_assoc polynomial, UInt32.xor_self, UInt32.zero_xor]
  · rw [if_pos (by simp [ha, hb]), if_pos ha, if_neg hb]
    ac_rfl
  · rw [if_pos (by simp [ha, hb]), if_neg ha, if_pos hb]
    ac_rfl
  · rw [if_neg (by simp [ha, hb]), if_neg ha, if_neg hb]

@[simp] theorem shift_zero : shift 0 = 0 := rfl

/-- Only the zero register shifts to zero: a one that falls out brings in the polynomial, whose top
bit no shifted register has. -/
theorem eq_zero_of_shift_eq_zero {r : UInt32} (h : shift r = 0) : r = 0 := by
  have hr := r.toNat_lt
  unfold shift at h
  split at h
  · have hpoly := congrArg UInt32.toNat (UInt32.xor_eq_zero_iff.mp h)
    simp [UInt32.toNat_shiftRight, polynomial] at hpoly
    omega
  · rename_i hlow
    rw [and_one_eq_one_iff] at hlow
    have hzero := congrArg UInt32.toNat h
    simp [UInt32.toNat_shiftRight] at hzero
    apply UInt32.toNat_inj.mp
    simp
    omega

theorem shift_injective : Function.Injective shift := by
  intro a b h
  have hab : shift (a ^^^ b) = 0 := by rw [shift_xor, h, UInt32.xor_self]
  exact UInt32.xor_eq_zero_iff.mp (eq_zero_of_shift_eq_zero hab)

/-- A register whose low bit is clear only moves down. -/
theorem shift_two_mul {k : Nat} (hk : 2 * k < Nat.pow 2 32) :
    shift (2 * k).toUInt32 = k.toUInt32 := by
  have hlow : ¬ (2 * k).toUInt32 &&& 1 = 1 := by
    rw [and_one_eq_one_iff]
    simp [Nat.pow_eq] at hk ⊢
  rw [shift, if_neg hlow]
  apply UInt32.toNat_inj.mp
  simp only [Nat.pow_eq] at hk
  simp [UInt32.toNat_shiftRight, Nat.shiftRight_eq_div_pow]
  omega

/-! ## §2. Many shifts -/

theorem iterate_shift_xor (n : Nat) (a b : UInt32) :
    shift^[n] (a ^^^ b) = shift^[n] a ^^^ shift^[n] b := by
  induction n generalizing a b with
  | zero => rfl
  | succ n ih =>
    rw [Function.iterate_succ_apply, Function.iterate_succ_apply, Function.iterate_succ_apply,
      shift_xor, ih]

@[simp] theorem iterate_shift_zero (n : Nat) : shift^[n] 0 = 0 :=
  Function.iterate_fixed shift_zero n

theorem eq_zero_of_iterate_shift_eq_zero {n : Nat} {r : UInt32} (h : shift^[n] r = 0) : r = 0 :=
  (shift_injective.iterate n) (h.trans (iterate_shift_zero n).symm)

/-- `n` shifts bring a register down `n` places when no one falls out on the way. -/
theorem iterate_shift_two_pow_mul (n : Nat) {k : Nat} (hk : 2 ^ n * k < 2 ^ 32) :
    shift^[n] (2 ^ n * k).toUInt32 = k.toUInt32 := by
  induction n generalizing k with
  | zero => simp
  | succ n ih =>
    have hdouble : 2 ^ (n + 1) * k = 2 * (2 ^ n * k) := by rw [Nat.pow_succ]; ring
    rw [Function.iterate_succ_apply, hdouble,
      shift_two_mul (by simpa [Nat.pow_eq, hdouble] using hk), ih (by rw [hdouble] at hk; omega)]

/-! ## §3. Feeding bytes -/

/-- Feeding a byte: exclusive or into the low end, then eight shifts. -/
theorem feed_eq (r : UInt32) (b : UInt8) : feed r b = shift^[8] (r ^^^ b.toUInt32) := rfl

@[simp] theorem update_nil (r : UInt32) : update r [] = r := rfl

theorem update_cons (r : UInt32) (b : UInt8) (bs : Bytes) :
    update r (b :: bs) = update (feed r b) bs := rfl

theorem feed_xor (r s : UInt32) (b c : UInt8) :
    feed (r ^^^ s) (b ^^^ c) = feed r b ^^^ feed s c := by
  rw [feed_eq, feed_eq, feed_eq, ← iterate_shift_xor, UInt8.toUInt32_xor]
  ac_rfl

/-- Flipping bits of a message moves its register by the register that the flips alone leave. -/
theorem update_zipWith_xor (r s : UInt32) {m e : Bytes} (h : m.length = e.length) :
    update (r ^^^ s) (List.zipWith (· ^^^ ·) m e) = update r m ^^^ update s e := by
  induction m generalizing e r s with
  | nil =>
    cases e with
    | nil => rfl
    | cons _ _ => cases h
  | cons x m ih =>
    cases e with
    | nil => cases h
    | cons y e =>
      rw [List.zipWith_cons_cons, update_cons, update_cons, update_cons, feed_xor]
      exact ih _ _ (by simpa using h)

/-- Zero bytes only shift the register. -/
theorem update_replicate_zero (r : UInt32) (n : Nat) :
    update r (List.replicate n 0) = shift^[8 * n] r := by
  induction n generalizing r with
  | zero => rfl
  | succ n ih =>
    rw [List.replicate_succ, update_cons, ih, feed_eq, show (0 : UInt8).toUInt32 = 0 from rfl,
      UInt32.xor_zero, ← Function.iterate_add_apply, Nat.mul_succ]

/-- Below a multiple of `2 ^ k`, adding a number less than `2 ^ k` sets only bits that are clear. -/
theorem xor_two_pow_mul {x k : Nat} (hx : x < 2 ^ k) (m : Nat) :
    x ^^^ 2 ^ k * m = x + 2 ^ k * m := by
  have hpos : 0 < 2 ^ k := Nat.two_pow_pos k
  have hlow : (x ^^^ 2 ^ k * m) % 2 ^ k = x := by
    rw [Nat.xor_mod_two_pow, Nat.mul_mod_right, Nat.xor_zero, Nat.mod_eq_of_lt hx]
  have hhigh : (x ^^^ 2 ^ k * m) / 2 ^ k = m := by
    rw [Nat.xor_div_two_pow, Nat.div_eq_of_lt hx, Nat.mul_div_cancel_left m hpos, Nat.zero_xor]
  rw [← Nat.div_add_mod (x ^^^ 2 ^ k * m) (2 ^ k), hlow, hhigh]
  ring

/-- A byte and a word above it make one word: adding the byte and or-ing it in agree. -/
theorem toUInt32_byte_add (b : UInt8) {n : Nat} (hn : n < 2 ^ 24) :
    (b.toNat + 256 * n).toUInt32 = b.toUInt32 ^^^ (2 ^ 8 * n).toUInt32 := by
  have hb := b.toNat_lt
  apply UInt32.toNat_inj.mp
  rw [UInt32.toNat_xor, Nat.toUInt32_eq, Nat.toUInt32_eq, UInt32.toNat_ofNat',
    UInt32.toNat_ofNat', UInt8.toNat_toUInt32, Nat.mod_eq_of_lt (by omega),
    Nat.mod_eq_of_lt (by omega), xor_two_pow_mul (k := 8) hb]
  rfl

/-- Up to four bytes enter the register as one little-endian word: a byte fed later enters eight
places further up, and the eight shifts of the byte before it bring it down to its place. -/
theorem update_word (r : UInt32) {f : Bytes} (hf : f.length ≤ 4) :
    update r f = shift^[8 * f.length] (r ^^^ (Bytes.leValue f).toUInt32) := by
  induction f generalizing r with
  | nil => simp [Bytes.leValue]
  | cons b f ih =>
    have hlen : f.length ≤ 3 := by simp at hf; omega
    have hlt : Bytes.leValue f < 2 ^ 24 := by
      have := Bytes.leValue_lt f
      have : Nat.pow 256 f.length ≤ Nat.pow 256 3 := Nat.pow_le_pow_right (by omega) hlen
      simp only [Nat.pow_eq] at *
      omega
    have hdown : shift^[8] (2 ^ 8 * Bytes.leValue f).toUInt32 = (Bytes.leValue f).toUInt32 :=
      iterate_shift_two_pow_mul 8 (by omega)
    calc update r (b :: f)
        = shift^[8 * f.length] (feed r b ^^^ (Bytes.leValue f).toUInt32) := by
          rw [update_cons, ih _ (by omega)]
      _ = shift^[8 * f.length]
            (shift^[8] (r ^^^ b.toUInt32 ^^^ (2 ^ 8 * Bytes.leValue f).toUInt32)) := by
          rw [iterate_shift_xor 8 (r ^^^ b.toUInt32), hdown, feed_eq]
      _ = shift^[8 * (b :: f).length] (r ^^^ (Bytes.leValue (b :: f)).toUInt32) := by
          rw [Bytes.leValue, toUInt32_byte_add b hlt, ← UInt32.xor_assoc,
            ← Function.iterate_add_apply, List.length_cons, Nat.mul_succ]

/-! ## §4. The residue and short bursts -/

/-- The register at which every message followed by its own checksum ends. -/
def residue : UInt32 := shift^[32] 0xFFFFFFFF

/-- Four bytes after a message are its checksum exactly when the register ends at the residue. -/
theorem checksum_eq_iff (c : Bytes) {t : Bytes} (ht : t.length = 4) :
    (Bytes.leValue t).toUInt32 = checksum c ↔ update 0xFFFFFFFF (c ++ t) = residue := by
  rw [update_append, update_word _ (by omega), ht, residue, (shift_injective.iterate _).eq_iff,
    checksum]
  generalize update 0xFFFFFFFF c = u
  constructor
  · intro h
    rw [h, ← UInt32.xor_assoc, UInt32.xor_self, UInt32.zero_xor]
  · intro h
    rw [← h, ← UInt32.xor_assoc, UInt32.xor_self, UInt32.zero_xor]

theorem leValue_ne_zero {f : Bytes} (h : ∃ b ∈ f, b ≠ 0) : Bytes.leValue f ≠ 0 := by
  induction f with
  | nil => simp at h
  | cons b f ih =>
    rw [Bytes.leValue]
    by_cases hb : b = 0
    · have hrest : ∃ c ∈ f, c ≠ 0 := by simpa [hb] using h
      have := ih hrest
      omega
    · have : b.toNat ≠ 0 := fun h0 => hb (UInt8.toNat_inj.mp h0)
      omega

/-- A burst of at most 32 bits, some bit set, moves the zero register. -/
theorem update_burst_ne_zero (p q : Nat) {f : Bytes} (hf : f.length ≤ 4)
    (hnz : ∃ b ∈ f, b ≠ 0) :
    update 0 (List.replicate p 0 ++ f ++ List.replicate q 0) ≠ 0 := by
  -- the bytes of the burst are one non-zero word
  have hword : (Bytes.leValue f).toUInt32 ≠ 0 := by
    have hlt := Bytes.leValue_lt f
    have : Nat.pow 256 f.length ≤ Nat.pow 256 4 := Nat.pow_le_pow_right (by omega) hf
    have hne := leValue_ne_zero hnz
    intro h0
    have := congrArg UInt32.toNat h0
    simp only [Nat.pow_eq] at *
    simp [Nat.toUInt32, UInt32.toNat_ofNat'] at this
    omega
  rw [update_append, update_append, update_replicate_zero 0 p, iterate_shift_zero,
    update_word _ hf, UInt32.zero_xor, update_replicate_zero, ← Function.iterate_add_apply]
  exact fun h => hword (eq_zero_of_iterate_shift_eq_zero h)

end FirmwareVars.Crc32
