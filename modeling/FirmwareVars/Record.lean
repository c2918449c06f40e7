import FirmwareVars.Attributes

/-!
# Records

A variable file holds a record: the four-byte attribute header, then the payload. The payload's
length is never stored; it is the file's length less four.

Main statement: `decode?_encode`, a record reads back as the attributes and payload it was
written from.
-/

namespace FirmwareVars

/-- A variable as read back: its attribute word and its payload. -/
structure Variable where
  attributes : Attributes
  data : Bytes
  deriving DecidableEq

namespace Record

/-- The length of the attribute header. -/
def headerLen : Nat := 4

/-- The record of a variable: header, then payload. -/
def encode (a : Attributes) (data : Bytes) : Bytes := a.header ++ data

/-- The variable a record holds, if it is long enough for the header. -/
def decode? (bs : Bytes) : Option Variable :=
  if bs.length < headerLen then none
  else some ⟨Attributes.ofHeader (bs.take headerLen), bs.drop headerLen⟩

theorem decode?_encode (a : Attributes) (data : Bytes) :
    decode? (encode a data) = some ⟨a, data⟩ := by
  have hlen : a.header.length = headerLen := by simp [Attributes.header, headerLen]
  simp [decode?, encode, hlen, Attributes.ofHeader_header]

end Record

end FirmwareVars
