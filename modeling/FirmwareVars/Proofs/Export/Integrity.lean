import FirmwareVars.Proofs.Checksum.Crc32
import FirmwareVars.Proofs.Export.Transfer
import FirmwareVars.Proofs.Text.Utf8

/-!
# What reading an export file accepts

Reading an export file checks its framing exactly and its body loosely. The magic, the version,
the body's length and the checksum must be what writing puts there, and the fields of the body
must be the namespace's sixteen bytes, the name's length and its UTF-8 bytes (strict reading
accepts only encodings), the attribute word, and the payload's length and bytes. After the
payload, though, the body may go on: nothing marks its end, and reading ignores what follows the
payload. So a file is read as a variable exactly when it frames that variable's body followed by
any bytes (`decode_eq_ok_iff`), and it is what writing produces for the variable exactly when no
bytes follow (`encode_of_decode_eq_ok`); a file whose body carries one byte more reads as the same
variable (`decode_accepts_trailing_body_byte`).

The checksum guards the whole file. A corruption flips bits of the file; the register the
checksum's algorithm ends at then moves by what the flips alone leave in a zero register, and
a burst of flips within four consecutive bytes always moves it (`Crc32.update_burst_ne_zero`).
Reading therefore refuses every such corruption of a written file with a checksum mismatch
(`decode_detects_short_burst`), wherever the burst lies: in the prefix, the body, the trailer, or
across the boundary before the trailer.

Main statements:
  * `ExportFile.decode_eq_ok_iff` — the files read as a variable.
  * `ExportFile.encode_of_decode_eq_ok` — a file read as a variable is what writing produces for
    it exactly when its body carries nothing after the payload.
  * `ExportFile.decode_detects_short_burst` — every burst of at most four bytes is caught.
-/

namespace FirmwareVars

theorem Except.bind_eq_ok {ε α β : Type} {x : Except ε α} {f : α → Except ε β} {b : β}
    (h : (x >>= f) = .ok b) : ∃ a, x = .ok a ∧ f a = .ok b := by
  cases x with
  | error e => cases h
  | ok a => exact ⟨a, rfl, h⟩

theorem Except.eq_ok_of_mapError {ε ε' α : Type} {x : Except ε α} {g : ε → ε'} {a : α}
    (h : x.mapError g = .ok a) : x = .ok a := by
  cases x with
  | error e => cases h
  | ok b => cases h; rfl

/-! ## §1. Namespaces and bodies, read back -/

theorem Bytes.eq_le_of_leValue {l : Bytes} {n v : Nat} (hl : l.length = n)
    (hv : Bytes.leValue l = v) : l = Bytes.le n v := by
  rw [← hl, ← hv, Bytes.le_leValue]

namespace Guid

theorem bytes_ofBytes {bs : Bytes} (h : bs.length = 16) : (ofBytes bs).bytes = bs := by
  have hval : (ofBytes bs).value.toNat = Bytes.leValue bs.reverse := by
    have hlt := Bytes.leValue_lt bs.reverse
    rw [List.length_reverse, h] at hlt
    have hfold := foldl_reverse_le bs.reverse
    rw [List.reverse_reverse] at hfold
    rw [ofBytes, List.take_of_length_le (by omega), hfold, BitVec.toNat_ofNat,
      Nat.mod_eq_of_lt (by simpa [Nat.pow_eq] using hlt)]
  have hrev : bs.reverse.length = 16 := by rw [List.length_reverse, h]
  rw [bytes_eq_reverse_le, hval, ← hrev, Bytes.le_leValue, List.reverse_reverse]

/-- Sixteen bytes in EFI order are the EFI bytes of the namespace they are read as. -/
theorem toEfi_ofEfi {bs : Bytes} (h : bs.length = 16) : (ofEfi bs).toEfi = bs := by
  have hswap : (swapEfi bs).length = 16 := by simp [swapEfi, efiOrder]
  rw [ofEfi, toEfi, bytes_ofBytes hswap, swapEfi_swapEfi h]

end Guid

namespace Body

theorem eq_append_of_field {n : Nat} {bs a r : Bytes} (h : field n bs = .ok (a, r)) :
    a.length = n ∧ bs = a ++ r := by
  unfold field at h
  split at h
  · cases h
  · cases h
    exact ⟨by simp; omega, (List.take_append_drop n bs).symm⟩

/-- A body read as a variable is that variable's body, followed by whatever reading ignored. -/
theorem encode_of_decode {body : Bytes} {v : Exported} (h : decode body = .ok v) :
    ∃ t, body = encode v ++ t := by
  unfold decode at h
  -- every field read in turn, each check passed
  obtain ⟨⟨guid, r1⟩, hf1, h⟩ := Except.bind_eq_ok h
  obtain ⟨⟨nameLen, r2⟩, hf2, h⟩ := Except.bind_eq_ok h
  dsimp only at h
  split_ifs at h with hshort
  · cases h
  obtain ⟨name, hu, h⟩ := Except.bind_eq_ok h
  obtain ⟨⟨attrs, r3⟩, hf3, h⟩ := Except.bind_eq_ok h
  obtain ⟨⟨dataLen, r4⟩, hf4, h⟩ := Except.bind_eq_ok h
  dsimp only at h
  split_ifs at h with hend
  · cases h
  cases h
  -- every field written back is what was read
  obtain ⟨hguid, rfl⟩ := eq_append_of_field hf1
  obtain ⟨hnameLen, rfl⟩ := eq_append_of_field hf2
  obtain ⟨hattrs, hr2⟩ := eq_append_of_field hf3
  obtain ⟨hdataLen, rfl⟩ := eq_append_of_field hf4
  have hname : Utf8.encode name = r2.take (Bytes.leValue nameLen) :=
    Utf8.encode_of_decode (Except.eq_ok_of_mapError hu)
  have hnameLen' : Bytes.le 8 (Bytes.leValue nameLen) = nameLen :=
    (Bytes.eq_le_of_leValue hnameLen rfl).symm
  have hdataLen' : Bytes.le 8 (Bytes.leValue dataLen) = dataLen :=
    (Bytes.eq_le_of_leValue hdataLen rfl).symm
  have hsize : (r2.take (Bytes.leValue nameLen)).length = Bytes.leValue nameLen := by
    simp only [List.length_take]
    omega
  have hdata : (r4.take (Bytes.leValue dataLen)).length = Bytes.leValue dataLen := by
    simp only [List.length_take]
    omega
  have hr2' : r2 = r2.take (Bytes.leValue nameLen) ++ (attrs ++ (dataLen ++
      (r4.take (Bytes.leValue dataLen) ++ r4.drop (Bytes.leValue dataLen)))) := by
    rw [List.take_append_drop, ← hr2, List.take_append_drop]
  refine ⟨r4.drop (Bytes.leValue dataLen), ?_⟩
  simp only [encode, Guid.toEfi_ofEfi hguid, Attributes.header_ofHeader hattrs, hname, hsize,
    hdata, hnameLen', hdataLen', List.append_assoc]
  conv_lhs => rw [hr2']

end Body

/-! ## §2. The files read as a variable -/

namespace ExportFile

theorem length_frame (body : Bytes) :
    (frame body).length = prefixLen + body.length + trailerLen := by
  simp [frame, magic, prefixLen, trailerLen]
  omega

/-- Four bytes read as a 32-bit word are that word written back. -/
theorem eq_le_of_toUInt32 {t : Bytes} {c : UInt32} (ht : t.length = 4)
    (h : (Bytes.leValue t).toUInt32 = c) : t = Bytes.le 4 c.toNat := by
  have hlt := Bytes.leValue_lt t
  rw [ht] at hlt
  apply Bytes.eq_le_of_leValue ht
  rw [← h, UInt32.toNat_ofNat_of_lt' (by simpa [Nat.pow_eq] using hlt)]

/-- Bytes that pass the checks on the magic, the version and the body's length begin with the
prefix writing puts before that body. -/
theorem eq_prefix_of_checks {c : Bytes} (hlen : prefixLen ≤ c.length) (hmagic : c.take 4 = magic)
    (hversion : Bytes.leValue ((c.drop 4).take 2) = version)
    (hbody : (c.drop prefixLen).length = Bytes.leValue ((c.drop 6).take 4)) :
    c = magic ++ Bytes.le 2 version ++ Bytes.le 4 (c.drop prefixLen).length ++
      c.drop prefixLen := by
  simp only [prefixLen] at hlen hbody ⊢
  have hversion' : (c.drop 4).take 2 = Bytes.le 2 version :=
    Bytes.eq_le_of_leValue (by simp only [List.length_take, List.length_drop]; omega) hversion
  have hlength' : (c.drop 6).take 4 = Bytes.le 4 (c.drop 10).length :=
    Bytes.eq_le_of_leValue (by simp only [List.length_take, List.length_drop]; omega) hbody.symm
  rw [← hmagic, ← hversion', ← hlength']
  -- cut the bytes at 4, 6 and 10
  conv_lhs => rw [← List.take_append_drop 4 c, ← List.take_append_drop 2 (c.drop 4),
    List.drop_drop, ← List.take_append_drop 4 (c.drop 6), List.drop_drop]
  simp only [List.append_assoc]

/-- A file read as a variable frames a body that fits its four-byte length and is read as the
variable. -/
theorem frame_of_decode_eq_ok {bs : Bytes} {v : Exported} (h : decode bs = .ok v) :
    ∃ body, body.length < Nat.pow 2 32 ∧ bs = frame body ∧ Body.decode body = .ok v := by
  unfold decode at h
  -- every check passed: each one that fails throws
  split at h
  · cases h
  rename_i hshort
  dsimp only at h
  split at h
  · cases h
  rename_i hcrc
  split at h
  · cases h
  rename_i hmagic
  split at h
  · cases h
  rename_i hversion
  split at h
  · cases h
  rename_i hbodyLen
  -- the file is what it covers, then its trailer
  generalize hcov : bs.take (bs.length - trailerLen) = covered at hcrc hmagic hversion hbodyLen h
  generalize htr : bs.drop (bs.length - trailerLen) = trailer at hcrc
  have hbs : bs = covered ++ trailer := by rw [← hcov, ← htr, List.take_append_drop]
  have htlen : trailer.length = 4 := by
    rw [← htr, List.length_drop]
    simp only [prefixLen, trailerLen] at hshort ⊢
    omega
  have hclen : prefixLen ≤ covered.length := by
    rw [← hcov, List.length_take]
    simp only [prefixLen, trailerLen] at hshort ⊢
    omega
  -- the body's length is the four bytes read for it
  have hfit : (covered.drop prefixLen).length < Nat.pow 2 32 := by
    have hlen4 : ((covered.drop 6).take 4).length = 4 := by
      simp only [List.length_take, List.length_drop, prefixLen] at hclen ⊢
      omega
    have := Bytes.leValue_lt ((covered.drop 6).take 4)
    rw [hlen4] at this
    rw [not_not.mp hbodyLen]
    simpa [Nat.pow_eq] using this
  refine ⟨covered.drop prefixLen, hfit, ?_, Except.eq_ok_of_mapError h⟩
  rw [hbs, eq_le_of_toUInt32 htlen (not_not.mp hcrc), frame,
    ← eq_prefix_of_checks hclen (not_not.mp hmagic) (not_not.mp hversion) (not_not.mp hbodyLen)]

/-- A file is read as a variable exactly when it frames the variable's body followed by bytes
that reading ignores, the whole body fitting its four-byte length. -/
theorem decode_eq_ok_iff {bs : Bytes} {v : Exported} :
    decode bs = .ok v ↔
      ∃ t, (Body.encode v ++ t).length < Nat.pow 2 32 ∧ bs = frame (Body.encode v ++ t) := by
  constructor
  · intro h
    obtain ⟨body, hfit, rfl, hbody⟩ := frame_of_decode_eq_ok h
    obtain ⟨t, rfl⟩ := Body.encode_of_decode hbody
    exact ⟨t, hfit, rfl⟩
  · rintro ⟨t, hfit, rfl⟩
    have h64 : Nat.pow 2 32 ≤ Nat.pow 256 8 := by simp only [Nat.pow_eq]; omega
    have hlen : (Body.encode v).length ≤ (Body.encode v ++ t).length := by simp
    rw [decode_frame (by simpa [Nat.pow_eq] using hfit),
      Body.decode_encode_append v t (by have := length_body_name v; omega)
        (by have := length_body_data v; omega)]
    rfl

/-- Writing frames the body alone: the framing of the body with bytes after it is longer than
what writing produces. -/
theorem eq_nil_of_encode_eq_frame {v : Exported} {t : Bytes}
    (h : encode v = .ok (frame (Body.encode v ++ t))) : t = [] := by
  rw [encode_eq] at h
  split at h
  · cases h
  · have hlen := congrArg List.length (Except.ok.inj h)
    simp only [length_frame, List.length_append] at hlen
    exact List.eq_nil_of_length_eq_zero (by omega)

/-- A file read as a variable frames the variable's body followed by some bytes, and it is what
writing produces for the variable exactly when no bytes follow. -/
theorem encode_of_decode_eq_ok {bs : Bytes} {v : Exported} (h : decode bs = .ok v) :
    ∃ t, bs = frame (Body.encode v ++ t) ∧ (encode v = .ok bs ↔ t = []) := by
  obtain ⟨t, hfit, rfl⟩ := decode_eq_ok_iff.mp h
  refine ⟨t, rfl, ⟨eq_nil_of_encode_eq_frame, fun ht => ?_⟩⟩
  subst ht
  rw [List.append_nil] at hfit ⊢
  rw [encode_eq, if_neg (Nat.not_le.mpr hfit)]

/-- `Timeout`'s body with one byte more, framed as writing frames a body. -/
theorem decode_frame_timeout_zero :
    decode (frame (Body.encode timeoutVar ++ [0])) = .ok timeoutVar :=
  decode_eq_ok_iff.mpr ⟨[0], by decide, rfl⟩

theorem encode_of_decode_eq_ok_timeout :
    decode (frame (Body.encode timeoutVar ++ [0])) = .ok timeoutVar ∧
      ∃ t, frame (Body.encode timeoutVar ++ [0]) = frame (Body.encode timeoutVar ++ t) ∧
        (encode timeoutVar = .ok (frame (Body.encode timeoutVar ++ [0])) ↔ t = []) :=
  ⟨decode_frame_timeout_zero, encode_of_decode_eq_ok decode_frame_timeout_zero⟩

/-- A file whose body carries one byte after the payload is read as the variable, but it is not
the file writing produces for that variable. -/
theorem decode_accepts_trailing_body_byte :
    decode (frame (Body.encode timeoutVar ++ [0])) = .ok timeoutVar ∧
      encode timeoutVar ≠ .ok (frame (Body.encode timeoutVar ++ [0])) :=
  ⟨decode_frame_timeout_zero, fun h => List.cons_ne_nil 0 [] (eq_nil_of_encode_eq_frame h)⟩

end ExportFile

/-! ## §3. Bursts of errors -/

namespace Bytes

/-- The bytes `bs` with the bits set in `e` flipped. -/
def xor (bs e : Bytes) : Bytes := List.zipWith (· ^^^ ·) bs e

/-- An error pattern over `n` bytes that is zero outside one window of at most four consecutive
bytes and not zero inside it. -/
def ShortBurst (n : Nat) (e : Bytes) : Prop :=
  ∃ p f q, e = List.replicate p 0 ++ f ++ List.replicate q 0 ∧ p + f.length + q = n ∧
    f.length ≤ 4 ∧ ∃ b ∈ f, b ≠ 0

theorem length_of_shortBurst {n : Nat} {e : Bytes} (h : ShortBurst n e) : e.length = n := by
  obtain ⟨p, f, q, rfl, hn, -, -⟩ := h
  simp only [List.length_append, List.length_replicate]
  omega

end Bytes

namespace ExportFile

/-- The register of the checksum's algorithm ends at the residue on every framed body. -/
theorem update_frame (body : Bytes) : Crc32.update 0xFFFFFFFF (frame body) = Crc32.residue :=
  (Crc32.checksum_eq_iff _ (Bytes.length_le 4 _)).mp (toUInt32_leValue_le _)

/-- A file long enough for the fixed parts whose register does not end at the residue is refused
with a checksum mismatch. -/
theorem decode_of_update_ne_residue {bs : Bytes} (hlen : prefixLen + trailerLen ≤ bs.length)
    (hres : Crc32.update 0xFFFFFFFF bs ≠ Crc32.residue) :
    ∃ expected actual, expected ≠ actual ∧
      decode bs = .error (corrupt (.checksum expected actual)) := by
  have htlen : (bs.drop (bs.length - trailerLen)).length = 4 := by
    simp only [List.length_drop, prefixLen, trailerLen] at hlen ⊢
    omega
  -- the trailer read is the checksum exactly when the register ends at the residue
  have hne : (Bytes.leValue (bs.drop (bs.length - trailerLen))).toUInt32 ≠
      Crc32.checksum (bs.take (bs.length - trailerLen)) := by
    intro heq
    apply hres
    rw [← List.take_append_drop (bs.length - trailerLen) bs]
    exact (Crc32.checksum_eq_iff _ htlen).mp heq
  refine ⟨_, _, hne, ?_⟩
  unfold decode
  rw [if_neg (by omega)]
  dsimp only
  rw [if_pos hne]
  rfl

/-- Every burst of errors within four consecutive bytes of a written export file, wherever it
lies, is refused with a checksum mismatch. -/
theorem decode_detects_short_burst {v : Exported} {bs e : Bytes} (henc : encode v = .ok bs)
    (he : Bytes.ShortBurst bs.length e) :
    ∃ expected actual, expected ≠ actual ∧
      decode (Bytes.xor bs e) = .error (corrupt (.checksum expected actual)) := by
  rw [encode_eq] at henc
  split at henc
  · cases henc
  cases henc
  have helen := Bytes.length_of_shortBurst he
  apply decode_of_update_ne_residue
  · simp [Bytes.xor, helen, length_frame]
  -- the flips move the register by what they leave in a zero register, which is not zero
  obtain ⟨p, f, q, rfl, -, hf, hnz⟩ := he
  rw [Bytes.xor, ← UInt32.xor_zero (a := 0xFFFFFFFF), Crc32.update_zipWith_xor _ _ helen.symm,
    update_frame]
  intro heq
  exact Crc32.update_burst_ne_zero p q hf hnz (by simpa using heq)

/-- One bit flipped in the name length of `Timeout`'s export file is caught by the checksum. -/
theorem decode_detects_short_burst_timeout :
    encode timeoutVar = .ok (frame (Body.encode timeoutVar)) ∧
      Bytes.ShortBurst (frame (Body.encode timeoutVar)).length
        (List.replicate 30 0 ++ [1] ++ List.replicate 28 0) ∧
      ∃ expected actual, expected ≠ actual ∧
        decode (Bytes.xor (frame (Body.encode timeoutVar))
          (List.replicate 30 0 ++ [1] ++ List.replicate 28 0)) =
          .error (corrupt (.checksum expected actual)) := by
  have henc : encode timeoutVar = .ok (frame (Body.encode timeoutVar)) := by
    rw [encode_eq, if_neg (by decide)]
  have hburst : Bytes.ShortBurst (frame (Body.encode timeoutVar)).length
      (List.replicate 30 0 ++ [1] ++ List.replicate 28 0) :=
    ⟨30, [1], 28, rfl, by rw [length_frame]; decide, by decide, ⟨1, by simp, by decide⟩⟩
  exact ⟨henc, hburst, decode_detects_short_burst henc hburst⟩

end ExportFile

end FirmwareVars
