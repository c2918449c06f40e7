/-!
# Byte strings

Byte strings are lists of `UInt8`. This module holds the little-endian words used by the
record header and the export format, lowercase hexadecimal text (how bytes and words are shown
everywhere), and the byte-wise order used to sort paths.

Main statement: `length_le`, a little-endian word has exactly its width.
-/

namespace FirmwareVars

/-- A byte string. -/
abbrev Bytes := List UInt8

namespace Bytes

/-! ## §1. Little-endian words -/

/-- The `n` low bytes of `v`, least significant first. -/
def le (n v : Nat) : Bytes :=
  (List.range n).map fun i => (v / Nat.pow 256 i % 256).toUInt8

/-- The number a little-endian byte string stands for. -/
def leValue : Bytes → Nat
  | [] => 0
  | b :: rest => b.toNat + 256 * leValue rest

@[simp] theorem length_le (n v : Nat) : (le n v).length = n := by
  simp [le]

/-! ## §2. Hexadecimal text -/

/-- The lowercase hexadecimal digit of `n < 16`. -/
def hexDigit (n : Nat) : Char :=
  if n < 10 then Char.ofNat (48 + n) else Char.ofNat (87 + n)

/-- Two lowercase hex digits for one byte. -/
def byteHex (b : UInt8) : String :=
  String.ofList [hexDigit (b.toNat / 16), hexDigit (b.toNat % 16)]

/-- Bytes as lowercase hex, two digits each, no separators. -/
def toHex (bs : Bytes) : String :=
  String.join (bs.map byteHex)

/-- The value of one hexadecimal digit, either case. -/
def hexValue? (c : Char) : Option Nat :=
  if '0' ≤ c ∧ c ≤ '9' then some (c.toNat - 48)
  else if 'a' ≤ c ∧ c ≤ 'f' then some (c.toNat - 87)
  else if 'A' ≤ c ∧ c ≤ 'F' then some (c.toNat - 55)
  else none

/-- Reads pairs of hex digits; an odd count or a stray character gives `none`. -/
def ofHexChars? : List Char → Option Bytes
  | [] => some []
  | [_] => none
  | hi :: lo :: rest => do
    let h ← hexValue? hi
    let l ← hexValue? lo
    let tail ← ofHexChars? rest
    pure ((h * 16 + l).toUInt8 :: tail)

/-- Reads hex text such as `"07000000"`. -/
def ofHex? (s : String) : Option Bytes :=
  ofHexChars? s.toList

/-! ## §3. Byte-wise order -/

/-- Lexicographic order on bytes, a proper prefix first. -/
def lexLe : Bytes → Bytes → Bool
  | [], _ => true
  | _ :: _, [] => false
  | a :: as, b :: bs => if a < b then true else if b < a then false else lexLe as bs

end Bytes

/-! ## §4. Words as text -/

/-- Lowercase hexadecimal digits of `n`, no leading zeros (`0` for zero). -/
def hexText (n : Nat) : String :=
  String.ofList (Nat.toDigits 16 n)

/-- Lowercase hexadecimal of `n`, left-padded with zeros to `width` digits. -/
def hexPadded (width n : Nat) : String :=
  let digits := Nat.toDigits 16 n
  String.ofList (List.replicate (width - digits.length) '0' ++ digits)

/-- Octal digits of `n`, no leading zeros (`0` for zero). -/
def octalText (n : Nat) : String :=
  String.ofList (Nat.toDigits 8 n)

end FirmwareVars
