import FirmwareVars.Store.Guard
import FirmwareVars.Store.Persist

/-!
# Writing variables

A write takes no lock. It looks at the file first (the observe), then opens it again for the
change (the reopen) and checks that both descriptors name the same inode; when another actor
removed or replaced the file in between, or created it first, the write fails with a race and
leaves that actor's file alone. Every write is one system call.

* An existing file is replaced: the record is written at offset 0 and the file is cut to the
  record's length. On the variable filesystem itself nothing is cut, since the filesystem
  replaces the variable as a whole.
* An append to an existing file writes at its end. On a plain directory only the payload is
  written, so the stored attributes stay; the variable filesystem takes the header and payload
  and drops the header itself.
* A new file on the variable filesystem is created exclusively in place; when its write fails it
  is removed again.
* A new file on a plain directory is written to a hidden staging file next to it and linked into
  place, so that a reader never sees half a record and of two creators exactly one wins. The
  staging name, new for every call, is removed afterwards in every case but one: when its own
  exclusive create failed, the name belongs to somebody else.

The immutable bit of the file being written is cleared for the write and put back afterwards
(`Guard.windowed`). After a successful write comes the persistence copy.
-/

namespace FirmwareVars

namespace Store

open StoreM

/-- Whether the root is the variable filesystem: its type is the configured magic. Decided on
first use and kept. -/
def isVarfsRoot : StoreM Bool := do
  let s ← MonadState.get
  match s.varfsRoot with
  | some b => pure b
  | none =>
    let b := match ← (Sys.statfs s.config.root : StoreM _) with
      | .ok m => m == s.config.fsMagic
      | .error _ => false
    modify fun s => { s with varfsRoot := some b }
    pure b

/-- The hidden sibling a new file is written to before it is linked into place, numbered by the
process and by a sequence number. It starts with a dot and does not end in a GUID, so listings
skip it. -/
def stagingPath (p : Path) (process seq : Nat) : Path :=
  let name := match p.fileName? with
    | some n => Utf8.lossy n
    | none => ""
  let tag := toString process ++ "." ++ toString seq
  p.withFileName (Utf8.encode ("." ++ name ++ "." ++ tag ++ ".tmp"))

/-- A staging path for `p` under the next sequence number. Every call takes a new number, so a
staging file an earlier call left behind never stands in the way of a later one. -/
def freshStagingPath (p : Path) : StoreM Path := do
  let s ← MonadState.get
  MonadState.set { s with stagingCount := s.stagingCount + 1 }
  pure (stagingPath p s.process s.stagingCount)

/-- One write of the whole buffer; anything shorter is a failure. -/
def writeOnce (h : Handle) (p : Path) (bytes : Bytes) : StoreM Unit := do
  let n ← call "write" p (Sys.write h bytes)
  if n ≠ bytes.length then throw (.shortWrite p n bytes.length)

/-- Overwrites the observed file in place. -/
def replace (p : Path) (observed : Handle) (a : Attributes) (bytes : Bytes) : StoreM Unit :=
  Guard.windowed observed p "set" do
    let h ← match ← (Sys.reopen p (.write a.isAppend) : StoreM _) with
      | .ok h => pure h
      | .error e =>
        if e.isNotFound then throw (.race p .removed) else throw (.ofOs "open for writing" p e)
    if h.ino ≠ observed.ino then throw (.race p .replaced)
    writeOnce h p bytes
    if !a.isAppend then
      if !(← isVarfsRoot) then call "truncate" p (Sys.truncate h bytes.length)

/-- Removes a file the failed create made; a failure to do so is reported. -/
def rollback (p : Path) : StoreM Unit := do
  match ← (Sys.unlink p : StoreM _) with
  | .ok () => pure ()
  | .error e => report ⟨"set", .rollbackFailed, some p, e.message⟩

/-- Creates the file exclusively at its final name, and removes it again if the write fails. -/
def createInPlace (p : Path) (bytes : Bytes) (mode : Nat) : StoreM Unit := do
  let h ← match ← (Sys.reopen p (.createNew mode) : StoreM _) with
    | .ok h => pure h
    | .error e =>
      if e.isAlreadyExists then throw (.race p .created) else throw (.ofOs "create" p e)
  let r ← attempt (Guard.windowed h p "set" (writeOnce h p bytes))
  if r matches .error _ then rollback p
  MonadExcept.ofExcept r

/-- Writes a staging file and links it to the final name; the staging name is always removed
once the staging file was made. -/
def createStaged (p : Path) (bytes : Bytes) (mode : Nat) : StoreM Unit := do
  let staged ← freshStagingPath p
  let h ← call "create staging file" staged (Sys.reopen staged (.createNew mode))
  let r ← attempt do
    Guard.windowed h staged "set" (writeOnce h staged bytes)
    match ← (Sys.publish staged p : StoreM _) with
    | .ok () => pure ()
    | .error e =>
      if e.isAlreadyExists then throw (.race p .created) else throw (.ofOs "link" p e)
  rollback staged
  MonadExcept.ofExcept r

/-- Creates or replaces a variable's file, or appends to it when the attributes carry the append
bit; `mode` is used only when the file is created. This is the write of a set, without the
persistence copy that follows it. -/
def put (k : VarKey) (a : Attributes) (data : Bytes) (mode : Nat) : StoreM Unit := do
  MonadExcept.ofExcept k.validate
  let record := Record.encode a data
  let p ← buildPath k
  let existing ← match ← (Sys.observe p : StoreM _) with
    | .ok h => pure (some h)
    | .error e => if e.isNotFound then pure none else throw (.ofOs "open" p e)
  let bytes ←
    if a.isAppend && existing.isSome then do
      if ← isVarfsRoot then pure record else pure data
    else pure record
  match existing with
  | some h => replace p h a bytes
  | none => if ← isVarfsRoot then createInPlace p bytes mode else createStaged p bytes mode

/-- Creates or replaces a variable, or appends to it when the attributes carry the append bit;
`mode` is used only when the file is created. The persistence copy runs only after the write
succeeded. -/
def set (k : VarKey) (a : Attributes) (data : Bytes) (mode : Nat) : StoreM Unit := do
  put k a data mode
  persist "set"

/-- Appends to a variable: a write with the append bit set, creating with the configured
mode. -/
def append (k : VarKey) (a : Attributes) (data : Bytes) : StoreM Unit := do
  set k a.withAppend data (← StoreM.config).appendMode

end Store

end FirmwareVars
