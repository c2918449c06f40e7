import FirmwareVars.Cli.Commands
import FirmwareVars.Proofs.Store.KeyPaths

/-!
# Reading a key back from its text

A key is written `{name}-{guid}`, the GUID in its lowercase hyphenated form: as the name of the
variable's file, and as the text the command line shows and takes. That text reads back as the
key whenever the name is not empty. The GUID's 36 characters are read back digit by digit into the
number they were written from (`Guid.ofHyphenated?_text`); the reader finds them by their count
from the end, so whatever stands before the hyphen in front of them is the name, whichever
characters it holds, hyphens, hex digits and a text shaped like a GUID included. An empty name is
refused, by the file name reader and so by the command line.

Main statements:
  * `Guid.ofHyphenated?_text` — the text of a GUID reads back as the GUID.
  * `VarKey.ofFileName?_fileName` — a file name reads back as its key exactly when the name is not
    empty.
  * `VarKey.fileName_reads_back` — so does the text the command line reads.
-/

namespace FirmwareVars

/-! ## §1. Hex digits as numbers -/

namespace Bytes

/-- The values of the two hex digits of each byte, the high one first. -/
def nibbles (bs : Bytes) : List Nat :=
  bs.flatMap fun b => [b.toNat / 16, b.toNat % 16]

@[simp] theorem nibbles_append (a b : Bytes) : nibbles (a ++ b) = nibbles a ++ nibbles b := by
  simp [nibbles]

@[simp] theorem length_nibbles (bs : Bytes) : (nibbles bs).length = 2 * bs.length := by
  induction bs with
  | nil => rfl
  | cons b bs ih =>
    simp only [nibbles, List.flatMap_cons, List.length_append, List.length_cons,
      List.length_nil] at ih ⊢
    omega

theorem lt_of_mem_nibbles {bs : Bytes} {d : Nat} (h : d ∈ nibbles bs) : d < 16 := by
  simp only [nibbles, List.mem_flatMap, List.mem_cons, List.not_mem_nil, or_false] at h
  obtain ⟨b, -, h⟩ := h
  have := b.toNat_lt
  omega

theorem toList_toHex_nibbles (bs : Bytes) : (toHex bs).toList = (nibbles bs).map hexDigit := by
  simp [toList_toHex, nibbles, List.map_flatMap]

/-- Reading the digits sixteen at a time reads the bytes 256 at a time. -/
theorem foldl_nibbles (bs : Bytes) (a : Nat) :
    (nibbles bs).foldl (fun acc d => acc * 16 + d) a =
      bs.foldl (fun acc b => acc * 256 + b.toNat) a := by
  induction bs generalizing a with
  | nil => rfl
  | cons b bs ih =>
    simp only [nibbles, List.flatMap_cons, List.foldl_append, List.foldl_cons,
      List.foldl_nil] at ih ⊢
    rw [ih]
    congr 1
    omega

end Bytes

/-! ## §2. The text of a GUID, read back -/

namespace Guid

/-- Digits at positions that take no hyphen are read back as their values. -/
theorem digits?_hex {i n m : Nat} {ds : List Nat} (hd : ∀ d ∈ ds, d < 16) (hlen : ds.length = n)
    (hm : i + n = m) (hgap : ∀ j < n, hyphenAt (i + j) = false) (rest : List Char) :
    digits? i (ds.map Bytes.hexDigit ++ rest) = (digits? m rest).map (ds ++ ·) := by
  subst hlen hm
  induction ds generalizing i with
  | nil => simp
  | cons d ds ih =>
    have hi : hyphenAt i = false := by simpa using hgap 0 (by simp)
    have hrest := ih (fun e he => hd e (List.mem_cons_of_mem d he)) (i := i + 1)
      (fun j hj => by simpa [Nat.add_assoc, Nat.add_comm 1 j] using hgap (j + 1) (by simpa))
    rw [List.map_cons, List.cons_append, digits?, if_neg (by simp [hi]),
      Bytes.hexValue?_hexDigit (hd d (by simp)), hrest, List.length_cons,
      show i + 1 + ds.length = i + (ds.length + 1) by omega]
    cases digits? (i + (ds.length + 1)) rest <;> simp

theorem digits?_hyphen {i m : Nat} (hm : i + 1 = m) (h : hyphenAt i = true) (rest : List Char) :
    digits? i ('-' :: rest) = digits? m rest := by
  simp [digits?, h, hm]

/-- The digits of the text form are the digits of the sixteen bytes, in order. -/
theorem digits?_text (g : Guid) : digits? 0 g.text.toList = some (Bytes.nibbles g.bytes) := by
  have hlen (i n : Nat) (hn : i + n ≤ 16) : (Bytes.nibbles ((g.bytes.drop i).take n)).length =
      2 * n := by
    simp [bytes]
    omega
  have hdigits (bs : Bytes) : ∀ d ∈ Bytes.nibbles bs, d < 16 := fun _ => Bytes.lt_of_mem_nibbles
  simp only [text, String.toList_append, Bytes.toList_toHex_nibbles, List.append_assoc,
    show "-".toList = ['-'] from rfl, List.cons_append, List.nil_append]
  -- five groups of digits, with the hyphens at 8, 13, 18 and 23 between them
  rw [digits?_hex (i := 0) (m := 8) (hdigits _) (hlen 0 4 (by omega)) rfl (by decide),
    digits?_hyphen (i := 8) (m := 9) rfl (by decide),
    digits?_hex (i := 9) (m := 13) (hdigits _) (hlen 4 2 (by omega)) rfl (by decide),
    digits?_hyphen (i := 13) (m := 14) rfl (by decide),
    digits?_hex (i := 14) (m := 18) (hdigits _) (hlen 6 2 (by omega)) rfl (by decide),
    digits?_hyphen (i := 18) (m := 19) rfl (by decide),
    digits?_hex (i := 19) (m := 23) (hdigits _) (hlen 8 2 (by omega)) rfl (by decide),
    digits?_hyphen (i := 23) (m := 24) rfl (by decide),
    ← List.append_nil (List.map Bytes.hexDigit _),
    digits?_hex (i := 24) (m := 36) (hdigits _) (hlen 10 6 (by omega)) rfl (by decide)]
  simp only [digits?, Option.map_some, List.append_nil, ← Bytes.nibbles_append,
    ← List.append_assoc, List.drop_zero, groups_bytes]

/-- The text of a GUID reads back as the GUID. -/
theorem ofHyphenated?_text (g : Guid) : ofHyphenated? g.text.toList = some g := by
  have hbytes : g.bytes.length = 16 := by simp [bytes]
  rw [ofHyphenated?, if_pos (length_text g), digits?_text, Option.map_some,
    Bytes.foldl_nibbles]
  conv => rhs; rw [← ofBytes_bytes g]
  rw [ofBytes, List.take_of_length_le (by omega)]

end Guid

/-! ## §3. File names and the command line -/

namespace VarKey

/-- A file name reads back as its key exactly when the name is not empty. -/
theorem ofFileName?_fileName (k : VarKey) :
    ofFileName? k.fileName = if k.name = "" then none else some k := by
  have htext := Guid.length_text k.guid
  have hcs : k.fileName.toList = k.name.toList ++ '-' :: k.guid.text.toList := by
    simp [fileName]
  have hsplit : k.fileName.toList.length - 37 = k.name.toList.length := by
    rw [hcs, List.length_append, List.length_cons, htext]
    omega
  unfold ofFileName?
  rw [if_neg (by rw [hcs]; simp [htext]), hsplit, hcs, List.take_left' rfl, List.drop_left' rfl]
  simp only
  -- the name is empty exactly when its characters are
  by_cases hname : k.name = ""
  · rw [if_pos (by simp [hname]), if_pos hname]
  · rw [if_neg (by simpa using hname), if_neg hname, Guid.ofHyphenated?_text, Option.map_some,
      String.ofList_toList]

/-- A key's text reads back as the key, as a file name and on the command line, exactly when its
name is not empty. -/
theorem fileName_reads_back (k : VarKey) :
    ofFileName? k.fileName = (if k.name = "" then none else some k) ∧
      Cli.readKey (toString k) = if k.name = "" then
        .error ("expected Name-GUID, got " ++ Quoted.quote k.fileName) else .ok k := by
  have htext : toString k = k.fileName := rfl
  refine ⟨ofFileName?_fileName k, ?_⟩
  rw [htext, Cli.readKey, ofFileName?_fileName]
  by_cases hname : k.name = "" <;> simp [hname]

end VarKey

end FirmwareVars
