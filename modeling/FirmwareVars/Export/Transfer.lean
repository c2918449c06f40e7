import FirmwareVars.Export.File
import FirmwareVars.Store.Write

/-!
# Moving variables through export files

A variable is exported by reading it from a store and writing its export file whole; it is
imported by reading an export file whole, checking it, and writing the variable back through an
ordinary store write. A corruption found in a file names that file.
-/

namespace FirmwareVars

namespace Exported

open StoreM

/-- The variable stored under `k`. -/
def ofStore (k : VarKey) : StoreM Exported := do
  let v ← Store.get k
  pure ⟨k.guid, k.name, v.attributes, v.data⟩

/-- Writes the export file of `v` at `p`, replacing what is there. -/
def writeTo (v : Exported) (p : Path) : StoreM Unit := do
  let bs ← MonadExcept.ofExcept (ExportFile.encode v)
  let h ← call "write export" p (Sys.openPath p .createTruncate)
  if !bs.isEmpty then
    let _ ← call "write export" p (Sys.write h bs)

/-- The variable in the export file at `p`. -/
def readFrom (p : Path) : StoreM Exported := do
  let h ← call "read export" p (Sys.openPath p .read)
  let bs ← call "read export" p (Sys.read h)
  match ExportFile.decode bs with
  | .ok v => pure v
  | .error (.corrupt _ r) => throw (.corrupt p r)
  | .error e => throw e

/-- Writes the variable back into a store, creating its file with `mode` if needed. -/
def importInto (v : Exported) (mode : Nat) : StoreM Unit :=
  Store.set v.key v.attributes v.data mode

end Exported

end FirmwareVars
