import FirmwareVars.Bytes
import FirmwareVars.Text.Utf8
import FirmwareVars.Text.Printable
import FirmwareVars.Text.GraphemeExtend

/-!
# Quoted text

The quoted form in which messages show a text or a path: the text between double quotes, with a
backslash before a quote or a backslash, the short escapes `\t`, `\r`, `\n` and `\0`, and
`\u{…}` (lowercase hex) for a character that extends the grapheme before it or that is not
printable. Every other character stands as itself, the single quote included.

A path is quoted from its bytes: the parts that read as UTF-8 as above, and every byte of a
faulty part as `\xNN` (uppercase hex).
-/

namespace FirmwareVars.Quoted

/-- The quoted form of one character. -/
def escapeChar (c : Char) : String :=
  if c = '"' then "\\\""
  else if c = '\\' then "\\\\"
  else if c = '\t' then "\\t"
  else if c = '\r' then "\\r"
  else if c = '\n' then "\\n"
  else if c = '\x00' then "\\0"
  else if GraphemeExtend.isExtender c then "\\u\x7b" ++ hexText c.toNat ++ "\x7d"
  else if Printable.isPrintable c then c.toString
  else "\\u\x7b" ++ hexText c.toNat ++ "\x7d"

/-- Text between double quotes, escaped character by character. -/
def quote (s : String) : String :=
  "\"" ++ String.join (s.toList.map escapeChar) ++ "\""

/-- Two uppercase hexadecimal digits of a byte. -/
def hexUpper (b : UInt8) : String := (hexPadded 2 b.toNat).toUpper

/-- The escaped bytes of a path, without the quotes. -/
def pathBody (bs : Bytes) : String :=
  match bs with
  | [] => ""
  | b :: rest =>
    let here := match (Utf8.step b rest).1 with
      | some c => escapeChar c
      | none =>
        String.join (((b :: rest).take (Utf8.step b rest).2).map fun x => "\\x" ++ hexUpper x)
    here ++ pathBody ((b :: rest).drop (Utf8.step b rest).2)
termination_by bs.length
decreasing_by exact Utf8.length_drop_step_lt b rest

/-- A path between double quotes, escaped byte sequence by byte sequence. -/
def quotePath (bs : Bytes) : String := "\"" ++ pathBody bs ++ "\""

end FirmwareVars.Quoted
