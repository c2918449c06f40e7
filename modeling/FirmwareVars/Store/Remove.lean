import FirmwareVars.Store.Guard
import FirmwareVars.Store.Persist

/-!
# Removing variables and changing their modes

A delete first clears the file's immutable bit, as a best effort: a failure to open the file or
to clear the bit is reported, and the unlink decides the result. After a successful unlink comes
the persistence copy. A mode change is a plain chmod of the variable's file.
-/

namespace FirmwareVars

namespace Store

open StoreM

/-- Removes a variable. -/
def delete (k : VarKey) : StoreM Unit := do
  let p ← buildPath k
  match ← (Sys.openPath p .read : StoreM _) with
  | .ok h =>
    match ← attempt (Guard.set h p false) with
    | .ok () => pure ()
    | .error e => report ⟨"delete", .clearFailed, some p, e.message⟩
  | .error e =>
    if !e.isNotFound then report ⟨"delete", .clearFailed, some p, e.message⟩
  call "unlink" p (Sys.unlink p)
  persist "delete"

/-- Sets the permission bits of a variable's file. -/
def chmod (k : VarKey) (mode : Nat) : StoreM Unit := do
  let p ← buildPath k
  call "chmod" p (Sys.chmod p mode)

end Store

end FirmwareVars
