import FirmwareVars.Store.Basic

/-!
# The immutable-flag guard

A variable file may carry the immutable inode flag, and then nothing may change it. Before the
store changes a file it opens a window: it reads the file's flag word and, if the immutable bit
is set, clears it; when the window closes it puts the saved word back, on every way out of
the change. A filesystem without inode flags (its query fails with `ENOTTY`, `EOPNOTSUPP`,
`ENOSYS` or `EINVAL`) has nothing to clear.

None of this may change an operation's result: a failed query, a refused clear and a refused
restore are reported as diagnostics, and the change goes ahead (and fails on its own if the
file is still immutable).
-/

namespace FirmwareVars

namespace Guard

open StoreM

/-- Whether a flag word has the immutable bit. -/
def isImmutableWord (w : UInt32) : Bool := w &&& immutableBit != 0

/-- The flag word of an open file; a filesystem without flags reports `0`. -/
def query (h : Handle) (p : Path) : StoreM UInt32 := do
  match ← (Sys.getFlags h : StoreM _) with
  | .ok w => pure w
  | .error e => if e.isUnsupported then pure 0 else throw (.ofOs "get inode flags" p e)

/-- Whether an open file is immutable. -/
def isImmutable (h : Handle) (p : Path) : StoreM Bool := do
  return isImmutableWord (← query h p)

/-- Makes an open file immutable or not; nothing happens when it already is as asked, or when
the filesystem has no flags. -/
def set (h : Handle) (p : Path) (immutable : Bool) : StoreM Unit := do
  match ← (Sys.getFlags h : StoreM _) with
  | .error e => if e.isUnsupported then pure () else throw (.ofOs "get inode flags" p e)
  | .ok w =>
    if isImmutableWord w = immutable then pure ()
    else
      let w' := if immutable then w ||| immutableBit else w &&& ~~~immutableBit
      call "set inode flags" p (Sys.setFlags h w')

/-- An open window: the file whose immutable bit was cleared, and the word to put back. -/
structure Window where
  handle : Handle
  path : Path
  operation : String
  saved : UInt32

/-- Clears the immutable bit of an open file if it is set, and opens a window that will put it
back. There is no window when the file is not immutable, the filesystem has no flags, the
query failed, or the clear was refused; the last two are reported. -/
def openWindow (h : Handle) (p : Path) (op : String) : Sys (Option Window) := do
  match ← Sys.getFlags h with
  | .error e =>
    if e.isUnsupported then pure none
    else
      Sys.note (.diagnostic ⟨op, .queryFailed, some p, e.message⟩)
      pure none
  | .ok w =>
    if !isImmutableWord w then pure none
    else
      match ← Sys.setFlags h (w &&& ~~~immutableBit) with
      | .error e =>
        Sys.note (.diagnostic ⟨op, .clearFailed, some p, e.message⟩)
        pure none
      | .ok () => pure (some ⟨h, p, op, w⟩)

/-- Puts the saved word back; a refusal is reported. -/
def closeWindow : Option Window → Sys Unit
  | none => pure ()
  | some w => do
    match ← Sys.setFlags w.handle w.saved with
    | .ok () => pure ()
    | .error e => Sys.note (.diagnostic ⟨w.operation, .restoreFailed, some w.path, e.message⟩)

/-- Runs `body` inside a window on an open file: the window is closed after `body`, whether it
succeeded or failed, and the outcome of `body` is the outcome. -/
def windowed {α : Type} (h : Handle) (p : Path) (op : String) (body : StoreM α) : StoreM α := do
  let w ← (openWindow h p op : StoreM _)
  let r ← attempt body
  (closeWindow w : StoreM Unit)
  MonadExcept.ofExcept r

end Guard

end FirmwareVars
