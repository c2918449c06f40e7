import FirmwareVars.Store.Basic

/-!
# Reading variables

A read opens the variable's file, then reads the header and, in a second read, everything after
it; a file shorter than the header is corrupt. The size of a variable is the file's length
less the header, taken from a stat without reading.
-/

namespace FirmwareVars

namespace Store

open StoreM

/-- A variable's attributes and payload. -/
def get (k : VarKey) : StoreM Variable := do
  let p ← buildPath k
  let h ← call "open" p (Sys.openPath p .read)
  let header ← match ← (Sys.readAt h 0 (some Record.headerLen) : StoreM _) with
    | .ok bs => pure bs
    | .error .shortRead => throw (.corrupt p .shortHeader)
    | .error e => throw (.ofOs "read" p e)
  let data ← call "read" p (Sys.readAt h Record.headerLen none)
  pure ⟨Attributes.ofHeader header, data⟩

/-- The length of a variable's payload. -/
def getSize (k : VarKey) : StoreM Nat := do
  let p ← buildPath k
  let n ← call "stat" p (Sys.stat p)
  if n < Record.headerLen then throw (.corrupt p (.shorterThanHeader n))
  else pure (n - Record.headerLen)

/-- A variable's attributes; the whole record is read. -/
def getAttributes (k : VarKey) : StoreM Attributes := do
  return (← get k).attributes

end Store

end FirmwareVars
