import FirmwareVars.Bytes

/-!
# UTF-8

Encoding characters as UTF-8, and reading bytes back under the well-formedness table of the
Unicode standard (Table 3-7): a lead byte fixes the width, the second byte of a three- or
four-byte sequence has a narrowed range (no overlong forms, no surrogates, nothing above
U+10FFFF), and every later byte is a continuation `0x80..0xBF`.

Reading reports the first fault as the position of the sequence it starts at and either the
length of the longest prefix of a valid sequence there (`invalid`) or the fact that the input
ended inside a sequence (`incomplete`). Lossy reading replaces each such maximal prefix by
U+FFFD.

Main statement: `step_pos`, every reading step consumes at least one byte, which is what makes
the readers total.
-/

namespace FirmwareVars.Utf8

/-! ## §1. Encoding -/

/-- The UTF-8 bytes of one character. -/
def encodeChar (c : Char) : Bytes :=
  let n := c.toNat
  if n < 0x80 then [n.toUInt8]
  else if n < 0x800 then [(0xC0 + n / 64).toUInt8, (0x80 + n % 64).toUInt8]
  else if n < 0x10000 then
    [(0xE0 + n / 4096).toUInt8, (0x80 + n / 64 % 64).toUInt8, (0x80 + n % 64).toUInt8]
  else
    [(0xF0 + n / 262144).toUInt8, (0x80 + n / 4096 % 64).toUInt8,
      (0x80 + n / 64 % 64).toUInt8, (0x80 + n % 64).toUInt8]

/-- The UTF-8 bytes of a string. -/
def encode (s : String) : Bytes :=
  s.toList.flatMap encodeChar

/-- The number of UTF-8 bytes of a string. -/
def size (s : String) : Nat :=
  (encode s).length

/-! ## §2. One sequence at the head -/

/-- Whether `b` is a continuation byte `0x80..0xBF`. -/
def isCont (b : UInt8) : Bool :=
  0x80 ≤ b && b ≤ 0xBF

/-- The allowed range of the byte after lead byte `b0` in a sequence of three or four. -/
def secondOk (b0 b1 : UInt8) : Bool :=
  if b0 = 0xE0 then 0xA0 ≤ b1 && b1 ≤ 0xBF
  else if b0 = 0xED then 0x80 ≤ b1 && b1 ≤ 0x9F
  else if b0 = 0xF0 then 0x90 ≤ b1 && b1 ≤ 0xBF
  else if b0 = 0xF4 then 0x80 ≤ b1 && b1 ≤ 0x8F
  else isCont b1

/-- What stands at the head of a byte string. -/
inductive Head where
  /-- A well-formed character of `width` bytes. -/
  | char (c : Char) (width : Nat)
  /-- A fault whose maximal valid prefix has `len` bytes (at least one). -/
  | invalid (len : Nat)
  /-- The input ends inside a sequence that is valid so far. -/
  | incomplete
  deriving Repr, DecidableEq

/-- The code point of a sequence whose continuation bytes carry `bits`. -/
def combine (lead : Nat) (conts : List UInt8) : Nat :=
  conts.foldl (fun acc b => acc * 64 + (b.toNat % 64)) lead

/-- Reads the sequence at the head of `bs` (which must not be empty to read anything). -/
def decodeHead : Bytes → Head
  | [] => .incomplete
  | b0 :: rest =>
    if b0 < 0x80 then .char (Char.ofNat b0.toNat) 1
    else if 0xC2 ≤ b0 && b0 ≤ 0xDF then
      match rest with
      | [] => .incomplete
      | b1 :: _ =>
        if isCont b1 then .char (Char.ofNat (combine (b0.toNat % 32) [b1])) 2 else .invalid 1
    else if 0xE0 ≤ b0 && b0 ≤ 0xEF then
      match rest with
      | [] => .incomplete
      | b1 :: rest1 =>
        if !secondOk b0 b1 then .invalid 1
        else match rest1 with
          | [] => .incomplete
          | b2 :: _ =>
            if isCont b2 then .char (Char.ofNat (combine (b0.toNat % 16) [b1, b2])) 3
            else .invalid 2
    else if 0xF0 ≤ b0 && b0 ≤ 0xF4 then
      match rest with
      | [] => .incomplete
      | b1 :: rest1 =>
        if !secondOk b0 b1 then .invalid 1
        else match rest1 with
          | [] => .incomplete
          | b2 :: rest2 =>
            if !isCont b2 then .invalid 2
            else match rest2 with
              | [] => .incomplete
              | b3 :: _ =>
                if isCont b3 then .char (Char.ofNat (combine (b0.toNat % 8) [b1, b2, b3])) 4
                else .invalid 3
    else .invalid 1

/-- One reading step at `b :: rest`: the character read (`none` at a fault) and how many
bytes it takes (the sequence, the faulty prefix, or all the rest when the input ends). -/
def step (b : UInt8) (rest : Bytes) : Option Char × Nat :=
  match decodeHead (b :: rest) with
  | .char c w => (some c, max 1 w)
  | .invalid n => (none, max 1 n)
  | .incomplete => (none, rest.length + 1)

theorem step_pos (b : UInt8) (rest : Bytes) : 0 < (step b rest).2 := by
  unfold step
  split <;> omega

theorem length_drop_step_lt (b : UInt8) (rest : Bytes) :
    ((b :: rest).drop (step b rest).2).length < (b :: rest).length := by
  have := step_pos b rest
  simp only [List.length_drop, List.length_cons]
  omega

/-! ## §3. Strict reading -/

/-- Where and how a byte string fails to be UTF-8. -/
inductive Fault where
  /-- At byte `index`, a maximal valid prefix of `len` bytes is followed by a bad byte. -/
  | invalid (index len : Nat)
  /-- At byte `index` the input ends inside a sequence. -/
  | incomplete (index : Nat)
  deriving Repr, DecidableEq

/-- The standard wording of a fault. -/
def Fault.message : Fault → String
  | .invalid i n => s!"invalid utf-8 sequence of {n} bytes from index {i}"
  | .incomplete i => s!"incomplete utf-8 byte sequence from index {i}"

/-- Reads characters from `bs`, `offset` being the position of `bs` in the whole input. -/
def decodeFrom (offset : Nat) (acc : List Char) (bs : Bytes) : Except Fault (List Char) :=
  match bs with
  | [] => .ok acc.reverse
  | b :: rest =>
    match decodeHead (b :: rest) with
    | .invalid n => .error (.invalid offset n)
    | .incomplete => .error (.incomplete offset)
    | .char c _ =>
      decodeFrom (offset + (step b rest).2) (c :: acc) ((b :: rest).drop (step b rest).2)
termination_by bs.length
decreasing_by exact length_drop_step_lt b rest

/-- The string that `bs` encodes, or its first fault. -/
def decode (bs : Bytes) : Except Fault String :=
  (decodeFrom 0 [] bs).map String.ofList

/-! ## §4. Lossy reading -/

/-- Reads characters from `bs`, putting U+FFFD for every maximal faulty prefix. -/
def lossyChars (bs : Bytes) : List Char :=
  match bs with
  | [] => []
  | b :: rest => (step b rest).1.getD '\ufffd' :: lossyChars ((b :: rest).drop (step b rest).2)
termination_by bs.length
decreasing_by exact length_drop_step_lt b rest

/-- Bytes shown as text, each fault replaced by U+FFFD. -/
def lossy (bs : Bytes) : String :=
  String.ofList (lossyChars bs)

end FirmwareVars.Utf8
