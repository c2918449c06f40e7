import FirmwareVars.Export.File
import FirmwareVars.Proofs.Names

/-!
# Reading back an export file

An export file is read back as the variable it was written from. Each field of the format reads
back as what was put there: a little-endian word of `n` bytes as its value, when that value is
below `256 ^ n` (`Bytes.leValue_le_of_lt`); the namespace's sixteen bytes in EFI order as the
namespace (`Guid.ofEfi_toEfi`), the EFI order being a permutation that undoes itself; the name's
UTF-8 bytes as the name; the attribute header as the word. A body therefore reads back as its
variable (`Body.decode_encode`), and a whole file, whose prefix and checksum are computed from
the body, passes every check of the reader (`ExportFile.decode_of_encode`).

Main statements:
  * `Guid.ofEfi_toEfi` — the EFI byte order loses nothing.
  * `Body.decode_encode` — a body reads back as its variable.
  * `ExportFile.decode_of_encode` — a written export file reads back as its variable.
  * `ExportFile.decode_encode_of_fits` — every variable whose body fits is written, and read
    back; writing fails only with `overflow`.
-/

namespace FirmwareVars

/-- A successful step of an `Except` computation hands its value on. -/
@[simp] theorem Except.ok_bind {ε α β : Type} (a : α) (f : α → Except ε β) :
    (Except.ok a >>= f) = f a := rfl

/-! ## §1. Little-endian words -/

namespace Bytes

theorem le_succ (n v : Nat) : le (n + 1) v = (v % 256).toUInt8 :: le n (v / 256) := by
  simp only [le, List.range_succ_eq_map, List.map_cons, List.map_map]
  congr 1
  · simp [Nat.pow_eq]
  · apply List.map_congr_left
    intro i _
    simp only [Function.comp, Nat.pow_eq, Nat.pow_succ', Nat.div_div_eq_div_mul]

/-- A word written in `n` bytes reads back as its value modulo `256 ^ n`. -/
theorem leValue_le (n v : Nat) : leValue (le n v) = v % Nat.pow 256 n := by
  induction n generalizing v with
  | zero => simp [le, leValue, Nat.mod_one]
  | succ n ih =>
    -- the low byte, then the rest of the value one byte further on
    rw [le_succ, leValue, ih, Nat.pow_eq, Nat.pow_eq, Nat.pow_succ', Nat.mod_mul]
    simp [Nat.toUInt8, UInt8.toNat_ofNat']

theorem leValue_le_of_lt {n v : Nat} (h : v < Nat.pow 256 n) : leValue (le n v) = v := by
  rw [leValue_le, Nat.mod_eq_of_lt h]

theorem leValue_lt (l : Bytes) : leValue l < Nat.pow 256 l.length := by
  induction l with
  | nil => simp [leValue, Nat.pow_eq]
  | cons b rest ih =>
    have hb : b.toNat < 256 := b.toNat_lt
    rw [leValue, List.length_cons, Nat.pow_eq, Nat.pow_succ']
    rw [Nat.pow_eq] at ih
    omega

/-- A byte string is the little-endian word of its own value. -/
theorem le_leValue (l : Bytes) : le l.length (leValue l) = l := by
  induction l with
  | nil => rfl
  | cons b rest ih =>
    have hb : b.toNat < 256 := b.toNat_lt
    -- the low byte is `b`, and what is above it is the value of the rest
    have hlow : (b.toNat + 256 * leValue rest) % 256 = b.toNat := by omega
    have hhigh : (b.toNat + 256 * leValue rest) / 256 = leValue rest := by omega
    rw [List.length_cons, le_succ, leValue, hlow, hhigh, ih]
    simp [Nat.toUInt8]

end Bytes

/-! ## §2. Namespaces in EFI order -/

namespace Guid

/-- The bytes in text order are the value's little-endian bytes, read from the other end. -/
theorem bytes_eq_reverse_le (g : Guid) : g.bytes = (Bytes.le 16 g.value.toNat).reverse := by
  simp only [bytes, Bytes.le, List.range, List.range.loop, List.map_cons, List.map_nil,
    List.reverse_cons, List.reverse_nil, List.nil_append, List.cons_append]

theorem foldl_reverse_le (l : Bytes) :
    l.reverse.foldl (fun acc b => acc * 256 + b.toNat) 0 = Bytes.leValue l := by
  rw [List.foldl_reverse]
  induction l with
  | nil => rfl
  | cons b rest ih =>
    rw [List.foldr_cons, ih, Bytes.leValue]
    omega

theorem ofBytes_bytes (g : Guid) : ofBytes g.bytes = g := by
  have hlen : g.bytes.length = 16 := by simp [bytes]
  rw [ofBytes, List.take_of_length_le (by omega), bytes_eq_reverse_le, foldl_reverse_le,
    Bytes.leValue_le_of_lt (by simpa [Nat.pow_eq] using g.value.isLt)]
  simp

theorem swapEfi_swapEfi {bs : Bytes} (h : bs.length = 16) : swapEfi (swapEfi bs) = bs := by
  apply List.ext_getElem
  · simp [swapEfi, efiOrder, h]
  · intro i h1 h2
    have hi : i < efiOrder.length := by simpa [swapEfi] using h1
    -- the permutation undoes itself, position by position
    have hinv : efiOrder[efiOrder[i]]? = some i := by
      have : i < 16 := hi
      interval_cases i <;> rfl
    simp [swapEfi, hinv, h2]

theorem length_toEfi (g : Guid) : g.toEfi.length = 16 := by
  simp [toEfi, swapEfi, efiOrder]

/-- A namespace stored in EFI order is read back as itself. -/
theorem ofEfi_toEfi (g : Guid) : ofEfi g.toEfi = g := by
  have hlen : g.bytes.length = 16 := by simp [bytes]
  rw [ofEfi, toEfi, swapEfi_swapEfi hlen, ofBytes_bytes]

end Guid

/-! ## §3. The body -/

namespace Body

theorem field_append {n : Nat} {a : Bytes} (ha : a.length = n) (b : Bytes) :
    field n (a ++ b) = .ok (a, b) := by
  simp [field, ha]

/-- A body reads back as its variable, whatever follows it, when the name and the payload are
short enough for their eight-byte counts. -/
theorem decode_encode_append (v : Exported) (t : Bytes)
    (hname : (Utf8.encode v.name).length < Nat.pow 256 8) (hdata : v.data.length < Nat.pow 256 8) :
    decode (encode v ++ t) = .ok v := by
  obtain ⟨g, name, a, d⟩ := v
  have hheader : a.header.length = 4 := Bytes.length_le 4 _
  simp only [encode, List.append_assoc]
  simp only [decode, field_append (Guid.length_toEfi g), Except.ok_bind,
    field_append (Bytes.length_le 8 _), Bytes.leValue_le_of_lt hname]
  -- the name's bytes are all there, and read back as the name
  rw [if_neg (by simp), List.take_left' rfl, List.drop_left' rfl, Utf8.decode_encode]
  simp only [Except.mapError, Except.ok_bind, field_append hheader,
    field_append (Bytes.length_le 8 _), Bytes.leValue_le_of_lt hdata]
  -- the payload is all there, and what follows it is left unread
  rw [if_neg (by simp), List.take_left' rfl, Guid.ofEfi_toEfi, Attributes.ofHeader_header]
  rfl

/-- A body reads back as its variable, when the name and the payload are short enough for their
eight-byte counts. -/
theorem decode_encode (v : Exported) (hname : (Utf8.encode v.name).length < Nat.pow 256 8)
    (hdata : v.data.length < Nat.pow 256 8) : decode (encode v) = .ok v := by
  simpa using decode_encode_append v [] hname hdata

end Body

/-! ## §4. The whole file -/

namespace ExportFile

theorem length_body_name (v : Exported) :
    (Utf8.encode v.name).length ≤ (Body.encode v).length := by
  simp [Body.encode]
  omega

theorem length_body_data (v : Exported) : v.data.length ≤ (Body.encode v).length := by
  simp [Body.encode]
  omega

/-- The export file around a body: the magic, the version, the body's length, the body, and the
checksum of all of it. -/
def frame (body : Bytes) : Bytes :=
  let covered := magic ++ Bytes.le 2 version ++ Bytes.le 4 body.length ++ body
  covered ++ Bytes.le 4 (Crc32.checksum covered).toNat

/-- Writing frames the body, unless it is too long for its four-byte length. -/
theorem encode_eq (v : Exported) :
    encode v = if Nat.pow 2 32 ≤ (Body.encode v).length then
      .error (.overflow (Body.encode v).length) else .ok (frame (Body.encode v)) := rfl

theorem toUInt32_leValue_le (c : UInt32) : (Bytes.leValue (Bytes.le 4 c.toNat)).toUInt32 = c := by
  rw [Bytes.leValue_le_of_lt (by simpa [Nat.pow_eq] using c.toNat_lt)]
  exact UInt32.ofNat_toNat

/-- A framed body passes every check of the file's framing, and then the body is read. -/
theorem decode_frame {body : Bytes} (h32 : body.length < Nat.pow 256 4) :
    decode (frame body) = (Body.decode body).mapError .serialization := by
  have hmagic : magic.length = 4 := rfl
  unfold frame
  generalize hcov : magic ++ Bytes.le 2 version ++ Bytes.le 4 body.length ++ body = covered
  have hclen : covered.length = prefixLen + body.length := by
    rw [← hcov]
    simp [hmagic, prefixLen]
    omega
  unfold decode
  -- the fixed parts are there, and the trailer is the checksum of what it covers
  rw [if_neg (by simp [hclen, prefixLen, trailerLen])]
  dsimp only [trailerLen]
  rw [List.length_append, Bytes.length_le, Nat.add_sub_cancel, List.take_left' rfl,
    List.drop_left' rfl, toUInt32_leValue_le, if_neg (not_not.mpr rfl)]
  -- the prefix is the magic, the version and the body's length, then the body
  have hslices : covered.take 4 = magic ∧ (covered.drop 4).take 2 = Bytes.le 2 version ∧
      (covered.drop 6).take 4 = Bytes.le 4 body.length ∧ covered.drop prefixLen = body := by
    rw [← hcov]
    simp [List.append_assoc, prefixLen, hmagic, List.drop_append, List.drop_eq_nil_of_le]
  obtain ⟨h1, h2, h3, h4⟩ := hslices
  rw [h1, h2, h3, h4, Bytes.leValue_le_of_lt (by decide), Bytes.leValue_le_of_lt h32]
  simp

/-- The bytes of an export file read back as the variable they were written from. -/
theorem decode_of_encode {v : Exported} {bs : Bytes} (h : encode v = .ok bs) :
    decode bs = .ok v := by
  rw [encode_eq] at h
  split at h
  · cases h
  rename_i hlen
  cases h
  have h32 : (Body.encode v).length < Nat.pow 256 4 := by simp only [Nat.pow_eq] at hlen ⊢; omega
  have h64 : Nat.pow 256 4 ≤ Nat.pow 256 8 := by simp only [Nat.pow_eq]; omega
  have hbody : Body.decode (Body.encode v) = .ok v :=
    Body.decode_encode v (by have := length_body_name v; omega)
      (by have := length_body_data v; omega)
  rw [decode_frame h32, hbody]
  rfl

/-- Every variable whose body fits a four-byte length is written, and its file reads back as the
variable; writing fails only for a longer body, and then with `overflow`. -/
theorem decode_encode_of_fits (v : Exported) :
    ((Body.encode v).length < Nat.pow 2 32 → ∃ bs, encode v = .ok bs ∧ decode bs = .ok v) ∧
      ∀ e, encode v = .error e →
        e = .overflow (Body.encode v).length ∧ Nat.pow 2 32 ≤ (Body.encode v).length := by
  refine ⟨fun hfit => ?_, fun e he => ?_⟩
  · have hok : encode v = .ok (frame (Body.encode v)) := by
      rw [encode_eq, if_neg (Nat.not_le.mpr hfit)]
    exact ⟨_, hok, decode_of_encode hok⟩
  · rw [encode_eq] at he
    split at he
    · cases he
      exact ⟨rfl, by assumption⟩
    · cases he

/-- The variable `Timeout` of the global namespace, as an export file carries it. -/
def timeoutVar : Exported :=
  ⟨Guid.ofFields 0x8be4df61 0x93ca 0x11d2 [0xaa, 0x0d, 0x00, 0xe0, 0x98, 0x03, 0x2b, 0x8c],
    "Timeout", ⟨7⟩, [5, 0]⟩

theorem decode_encode_timeout :
    (Body.encode timeoutVar).length < Nat.pow 2 32 ∧
      ∃ bs, encode timeoutVar = .ok bs ∧ decode bs = .ok timeoutVar :=
  ⟨by decide, (decode_encode_of_fits timeoutVar).1 (by decide)⟩

end ExportFile

end FirmwareVars
