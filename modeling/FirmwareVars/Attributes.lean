import FirmwareVars.Bytes

/-!
# Attribute words

Every variable carries a 32-bit attribute word. Seven bits have names (non-volatile, boot
service access, runtime access, hardware error record, authenticated write, time-based
authenticated write, append write); only the append bit changes what the store does. The word is
shown as `0x` and eight lowercase hex digits, and stored as four little-endian bytes at the
head of the record.

Main statement: `ofHeader_header`, a header reads back as the word it was written from.
-/

namespace FirmwareVars

/-- A 32-bit attribute word. -/
structure Attributes where
  bits : UInt32
  deriving DecidableEq, Inhabited

namespace Attributes

/-- The append-write bit: writes add to the payload instead of replacing it. -/
def appendWrite : UInt32 := 0x40

/-- The named bits, lowest first, with their short names. -/
def named : List (UInt32 × String) :=
  [(0x01, "NV"), (0x02, "BS"), (0x04, "RT"), (0x08, "HER"), (0x10, "AW"), (0x20, "TBAW"),
    (0x40, "AP")]

/-- Whether the append bit is set. -/
def isAppend (a : Attributes) : Bool := a.bits &&& appendWrite != 0

/-- The same word with the append bit set. -/
def withAppend (a : Attributes) : Attributes := ⟨a.bits ||| appendWrite⟩

/-- The short names of the named bits that are set, lowest first. -/
def names (a : Attributes) : List String :=
  named.filterMap fun (bit, name) => if a.bits &&& bit != 0 then some name else none

/-- `0x` and eight lowercase hex digits. -/
def display (a : Attributes) : String := "0x" ++ hexPadded 8 a.bits.toNat

/-- The four little-endian bytes of the record header. -/
def header (a : Attributes) : Bytes := Bytes.le 4 a.bits.toNat

/-- The word a little-endian header stands for. -/
def ofHeader (bs : Bytes) : Attributes := ⟨(Bytes.leValue bs).toUInt32⟩

theorem ofHeader_header (a : Attributes) : ofHeader a.header = a := by
  obtain ⟨b⟩ := a
  simp only [ofHeader, header, Bytes.le, List.range, List.range.loop, List.map_cons,
    List.map_nil, Bytes.leValue, Attributes.mk.injEq, Nat.pow_eq]
  apply UInt32.toNat_inj.mp
  simp only [UInt32.toNat_ofNat', Nat.toUInt8, UInt8.toNat_ofNat']
  have h := b.toNat_lt
  omega

end Attributes

end FirmwareVars
