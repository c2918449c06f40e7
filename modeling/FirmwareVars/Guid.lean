import FirmwareVars.Bytes
import FirmwareVars.Text.Utf8
import FirmwareVars.Text.Quoted

/-!
# Namespace identifiers

A GUID is a 128-bit number. Its text form is 32 lowercase hex digits in groups of 8, 4, 4, 4
and 12 joined by hyphens; its sixteen bytes in text order are the number, most significant
byte first. Firmware lays the same GUID out differently: the first three groups (a 32-bit and
two 16-bit fields) are stored little-endian and the last eight bytes as they are (`toEfi`).

Reading accepts exactly the hyphenated form of 36 characters, in either case. A refusal says
why: the length when it is not 36 bytes, else the first character that is neither a hex digit
nor a hyphen (by byte offset), else the number of groups, else the first group of the wrong
length.

Main statement: `efiOrder_involutive`, the two byte orders differ by one permutation that
undoes itself.
-/

namespace FirmwareVars

/-- A 128-bit namespace identifier. -/
structure Guid where
  value : BitVec 128
  deriving DecidableEq

namespace Guid

/-- The all-zero namespace. -/
def zero : Guid := ⟨0⟩

/-- The sixteen bytes in text order, most significant first. -/
def bytes (g : Guid) : Bytes :=
  (List.range 16).map fun i => (g.value.toNat / Nat.pow 256 (15 - i) % 256).toUInt8

/-- The GUID whose bytes in text order are `bs` (the first sixteen are used). -/
def ofBytes (bs : Bytes) : Guid :=
  ⟨BitVec.ofNat 128 ((bs.take 16).foldl (fun acc b => acc * 256 + b.toNat) 0)⟩

/-- Where each EFI byte comes from in text order; the permutation is its own inverse. -/
def efiOrder : List Nat := [3, 2, 1, 0, 5, 4, 7, 6, 8, 9, 10, 11, 12, 13, 14, 15]

/-- Rearranges sixteen bytes between text order and EFI order (either way). -/
def swapEfi (bs : Bytes) : Bytes :=
  efiOrder.map fun i => bs.getD i 0

/-- The sixteen bytes in EFI order: the first three fields little-endian. -/
def toEfi (g : Guid) : Bytes := swapEfi g.bytes

/-- The GUID stored as `bs` in EFI order. -/
def ofEfi (bs : Bytes) : Guid := ofBytes (swapEfi bs)

/-- The GUID with fields `a`, `b`, `c` and the eight trailing bytes `d`. -/
def ofFields (a : UInt32) (b c : UInt16) (d : Bytes) : Guid :=
  ofBytes ((Bytes.le 4 a.toNat).reverse ++ (Bytes.le 2 b.toNat).reverse ++
    (Bytes.le 2 c.toNat).reverse ++ d)

theorem efiOrder_involutive :
    efiOrder.map (fun i => efiOrder.getD i 0) = List.range 16 := by
  decide

/-- The hyphenated lowercase text form. -/
def text (g : Guid) : String :=
  let hex (i n : Nat) : String := Bytes.toHex ((g.bytes.drop i).take n)
  hex 0 4 ++ "-" ++ hex 4 2 ++ "-" ++ hex 6 2 ++ "-" ++ hex 8 2 ++ "-" ++ hex 10 6

instance : ToString Guid := ⟨text⟩

/-! ## §1. Reading the text form -/

/-- Why a 36-byte text is not a hyphenated GUID. -/
inductive Fault where
  /-- The first character that is neither a hex digit nor a hyphen, at its byte offset. -/
  | char (c : Char) (index : Nat)
  /-- The number of hyphen-separated groups, when it is not five. -/
  | groupCount (count : Nat)
  /-- The first group whose length is wrong. -/
  | groupLength (group expected found : Nat)
  deriving DecidableEq

/-- The wording of a fault. -/
def Fault.message : Fault → String
  | .char c i => s!"invalid character: found `{c}` at {i}"
  | .groupCount n => s!"invalid group count: expected 5, found {n}"
  | .groupLength g e n => s!"invalid group length in group {g}: expected {e}, found {n}"

/-- Why a text is not a GUID. -/
inductive ParseError where
  /-- The text is not 36 bytes long. -/
  | length (n : Nat)
  /-- The text is 36 bytes long but not a hyphenated GUID. -/
  | malformed (text : String) (fault : Fault)
  deriving DecidableEq

/-- The wording of a parse error. -/
def ParseError.message : ParseError → String
  | .length n => s!"GUID must be 36 characters, got {n}"
  | .malformed t f => "bad GUID " ++ Quoted.quote t ++ ": " ++ f.message

/-- The lengths of the five groups of the text form. -/
def groupSizes : List Nat := [8, 4, 4, 4, 12]

/-- Positions of the hyphens in the text form. -/
def hyphenAt (i : Nat) : Bool := i == 8 || i == 13 || i == 18 || i == 23

/-- The hex digits of a well-placed text form, or `none`. -/
def digits? : Nat → List Char → Option (List Nat)
  | _, [] => some []
  | i, c :: rest =>
    if hyphenAt i then
      if c = '-' then digits? (i + 1) rest else none
    else do
      let d ← Bytes.hexValue? c
      let ds ← digits? (i + 1) rest
      pure (d :: ds)

/-- Reads exactly the hyphenated form of 36 characters. -/
def ofHyphenated? (cs : List Char) : Option Guid :=
  if cs.length = 36 then
    (digits? 0 cs).map fun ds => ⟨BitVec.ofNat 128 (ds.foldl (fun acc d => acc * 16 + d) 0)⟩
  else none

/-- The first character that is neither a hex digit nor a hyphen, with its byte offset. -/
def firstStray : Nat → List Char → Option (Char × Nat)
  | _, [] => none
  | i, c :: rest =>
    if c = '-' || (Bytes.hexValue? c).isSome then firstStray (i + Utf8.size c.toString) rest
    else some (c, i)

/-- The first group whose length differs from the text form's, as a fault. -/
def firstBadGroup : Nat → List Nat → List Nat → Option Fault
  | g, e :: es, n :: ns => if e = n then firstBadGroup (g + 1) es ns else some (.groupLength g e n)
  | _, _, _ => none

/-- Why `cs`, 36 bytes long, is not a hyphenated GUID. -/
def fault (cs : List Char) : Fault :=
  match firstStray 0 cs with
  | some (c, i) => .char c i
  | none =>
    let hyphens := cs.count '-'
    if hyphens ≠ 4 then .groupCount (hyphens + 1)
    else
      let lengths := ((String.ofList cs).splitOn "-").map String.length
      (firstBadGroup 0 groupSizes lengths).getD (.groupCount (hyphens + 1))

/-- Reads a GUID from its hyphenated text form. -/
def parse (s : String) : Except ParseError Guid :=
  let n := Utf8.size s
  if n ≠ 36 then .error (.length n)
  else match ofHyphenated? s.toList with
    | some g => .ok g
    | none => .error (.malformed s (fault s.toList))

end Guid

end FirmwareVars
