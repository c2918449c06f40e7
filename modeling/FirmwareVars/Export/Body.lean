import FirmwareVars.Guid
import FirmwareVars.Attributes
import FirmwareVars.Key

/-!
# Export bodies

The body of an export file holds one variable in a fixed binary layout: the namespace's sixteen
bytes in EFI order, the name as a 64-bit little-endian byte count followed by its UTF-8 bytes,
the attribute word as four little-endian bytes, and the payload as a 64-bit little-endian
count followed by its bytes. Nothing marks the end, so bytes after the payload are ignored.

Reading reports the first field that runs past the end: a fixed-size field or a payload byte
(`endOfInput`), or the name's bytes (`shortBuffer`); a name that is not UTF-8 is refused with
the decoder's fault.
-/

namespace FirmwareVars

/-- A variable as an export file carries it: its key's two parts, its attributes and its
payload. -/
structure Exported where
  guid : Guid
  name : String
  attributes : Attributes
  data : Bytes
  deriving DecidableEq

namespace Exported

/-- The key the variable is stored under. -/
def key (v : Exported) : VarKey := ⟨v.guid, v.name⟩

end Exported

namespace Body

/-- The body of an export file. -/
def encode (v : Exported) : Bytes :=
  let name := Utf8.encode v.name
  v.guid.toEfi ++ Bytes.le 8 name.length ++ name ++ v.attributes.header ++
    Bytes.le 8 v.data.length ++ v.data

/-- Splits off a field of `n` bytes. -/
def field (n : Nat) (bs : Bytes) : Except BodyError (Bytes × Bytes) :=
  if bs.length < n then .error .endOfInput else .ok (bs.take n, bs.drop n)

/-- The variable a body holds; what follows the payload is ignored. -/
def decode (bs : Bytes) : Except BodyError Exported := do
  let (guid, rest) ← field 16 bs
  let (nameLen, rest) ← field 8 rest
  let n := Bytes.leValue nameLen
  if rest.length < n then throw .shortBuffer
  let name ← (Utf8.decode (rest.take n)).mapError .utf8
  let (attrs, rest) ← field 4 (rest.drop n)
  let (dataLen, rest) ← field 8 rest
  let d := Bytes.leValue dataLen
  if rest.length < d then throw .endOfInput
  pure ⟨Guid.ofEfi guid, name, Attributes.ofHeader attrs, rest.take d⟩

end Body

end FirmwareVars
