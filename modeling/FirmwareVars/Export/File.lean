import FirmwareVars.Export.Body
import FirmwareVars.Checksum.Crc32

/-!
# Export files

An export file is the magic `VARX`, the format version `1` as two little-endian bytes, the
body's length as four little-endian bytes, the body, and the CRC-32 of everything before it as
four little-endian bytes.

Reading checks, in this order: that the file can hold the fixed parts (14 bytes), the checksum,
the magic, the version, and that the body has the length the prefix gives; then it reads the
body. A body too long for its four-byte length cannot be written.
-/

namespace FirmwareVars

namespace ExportFile

/-- The four bytes every export file starts with: `VARX`. -/
def magic : Bytes := [0x56, 0x41, 0x52, 0x58]

/-- The one format version. -/
def version : Nat := 1

/-- The bytes before the body: magic, version, body length. -/
def prefixLen : Nat := 10

/-- The checksum after the body. -/
def trailerLen : Nat := 4

/-- The bytes of an export file. -/
def encode (v : Exported) : Except StoreError Bytes :=
  let body := Body.encode v
  if body.length ≥ Nat.pow 2 32 then .error (.overflow body.length)
  else
    let covered := magic ++ Bytes.le 2 version ++ Bytes.le 4 body.length ++ body
    .ok (covered ++ Bytes.le 4 (Crc32.checksum covered).toNat)

/-- A corruption of a file that has no path yet. -/
def corrupt (r : CorruptReason) : StoreError := .corrupt ⟨[]⟩ r

/-- The variable an export file holds, after every check. -/
def decode (bs : Bytes) : Except StoreError Exported := do
  if bs.length < prefixLen + trailerLen then throw (corrupt (.exportTooShort bs.length))
  let covered := bs.take (bs.length - trailerLen)
  let expected := (Bytes.leValue (bs.drop (bs.length - trailerLen))).toUInt32
  let actual := Crc32.checksum covered
  if expected ≠ actual then throw (corrupt (.checksum expected actual))
  if covered.take 4 ≠ magic then throw (corrupt (.magic (covered.take 4)))
  let v := Bytes.leValue ((covered.drop 4).take 2)
  if v ≠ version then throw (corrupt (.version v))
  let bodyLen := Bytes.leValue ((covered.drop 6).take 4)
  let body := covered.drop prefixLen
  if body.length ≠ bodyLen then throw (corrupt (.bodyLength bodyLen body.length))
  (Body.decode body).mapError .serialization

end ExportFile

end FirmwareVars
