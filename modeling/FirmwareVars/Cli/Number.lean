import FirmwareVars.Text.Quoted

/-!
# Reading numbers from arguments

Unsigned 32-bit numbers are read digit by digit in a radix: an empty text is refused, one
leading `+` is allowed (but not alone), every other character must be a digit of the radix, and
the value must stay below `2 ^ 32`. The first fault found scanning from the left is the one
reported.

An attribute word is hexadecimal after one `0x` or `0X`, decimal otherwise. A mode is octal,
after every leading `0o` is dropped.
-/

namespace FirmwareVars

/-- Why a text is not a number. -/
inductive NumberFault where
  | empty
  | invalidDigit
  | overflow
  deriving DecidableEq

/-- The wording of a number fault. -/
def NumberFault.message : NumberFault → String
  | .empty => "cannot parse integer from empty string"
  | .invalidDigit => "invalid digit found in string"
  | .overflow => "number too large to fit in target type"

namespace Number

/-- The value of a digit character in `radix`, if it is one. -/
def digit (radix : Nat) (c : Char) : Option Nat :=
  let v :=
    if '0' ≤ c ∧ c ≤ '9' then some (c.toNat - '0'.toNat)
    else if 'a' ≤ c ∧ c ≤ 'z' then some (c.toNat - 'a'.toNat + 10)
    else if 'A' ≤ c ∧ c ≤ 'Z' then some (c.toNat - 'A'.toNat + 10)
    else none
  v.filter (· < radix)

/-- Accumulates digits onto `acc`, refusing the first non-digit or the first step past
`limit`. -/
def digits (radix limit : Nat) : Nat → List Char → Except NumberFault Nat
  | acc, [] => .ok acc
  | acc, c :: cs =>
    match digit radix c with
    | none => .error .invalidDigit
    | some d =>
      let v := acc * radix + d
      if v ≥ limit then .error .overflow else digits radix limit v cs

/-- An unsigned number below `limit` written in `radix`. -/
def read (radix limit : Nat) (s : String) : Except NumberFault Nat :=
  match s.toList with
  | [] => .error .empty
  | ['+'] => .error .invalidDigit
  | '+' :: cs => digits radix limit 0 cs
  | cs => digits radix limit 0 cs

/-- A 32-bit word: hexadecimal after one `0x` or `0X`, else decimal. -/
def readWord (s : String) : Except NumberFault Nat :=
  match s.toList with
  | '0' :: 'x' :: rest | '0' :: 'X' :: rest => read 16 (Nat.pow 2 32) (String.ofList rest)
  | _ => read 10 (Nat.pow 2 32) s

/-- Drops every leading `0o`. -/
def dropOctalMarks : List Char → List Char
  | '0' :: 'o' :: rest => dropOctalMarks rest
  | cs => cs

/-- A mode: octal, after every leading `0o`. -/
def readMode (s : String) : Except NumberFault Nat :=
  read 8 (Nat.pow 2 32) (String.ofList (dropOctalMarks s.toList))

end Number

end FirmwareVars
