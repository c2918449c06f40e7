import FirmwareVars.Bytes

/-!
# CRC-32

The IEEE 802.3 cyclic redundancy check in its reflected form: the register starts as all ones,
each byte is xored into the low end and shifted out bit by bit against the reversed polynomial
`0xEDB88320`, and the result is complemented. This is the checksum that closes an export file.

The definition is the plain bit-serial one, so that laws about it follow the polynomial
arithmetic directly.
-/

namespace FirmwareVars.Crc32

/-- The reversed generator polynomial. -/
def polynomial : UInt32 := 0xEDB88320

/-- One shift of the register: out goes the low bit, in comes the polynomial if it was set. -/
def shift (r : UInt32) : UInt32 :=
  if r &&& 1 = 1 then (r >>> 1) ^^^ polynomial else r >>> 1

/-- Feeds one byte into the register: xor it in, then shift eight times. -/
def feed (r : UInt32) (b : UInt8) : UInt32 :=
  (List.replicate 8 ()).foldl (fun acc _ => shift acc) (r ^^^ b.toUInt32)

/-- The register after feeding all of `bs` into `r`. -/
def update (r : UInt32) (bs : Bytes) : UInt32 :=
  bs.foldl feed r

/-- The CRC-32 of a byte string. -/
def checksum (bs : Bytes) : UInt32 :=
  update 0xFFFFFFFF bs ^^^ 0xFFFFFFFF

theorem update_append (r : UInt32) (xs ys : Bytes) :
    update r (xs ++ ys) = update (update r xs) ys := by
  simp [update, List.foldl_append]

end FirmwareVars.Crc32
