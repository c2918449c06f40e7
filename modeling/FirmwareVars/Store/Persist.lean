import FirmwareVars.Store.Read

/-!
# The persistence copy

Some platforms keep variables in volatile storage while running and load them from a file on
the EFI system partition at boot. After each change the store copies one variable's payload
onto that file, in three steps:

1. *Name.* One variable holds the target's name, up to its first NUL byte. When it does not
   exist there is nothing to do.
2. *Place.* The name is taken relative to a mount point even when it starts with `/`; the first
   mount point under which it exists is the target.
3. *Copy.* The target is truncated, the header of the payload variable's record is read and
   passed over, and the rest is copied through a buffer of `chunkSize` bytes: each read into
   the buffer is followed by a write of the part it filled, until a read answers with nothing.

Every problem up to the moment the target is opened skips the copy and is reported. Once the
target has been truncated there is no way back: a failure from there on is the fatal
`persistIo` error.
-/

namespace FirmwareVars

/-- What one pass of the persistence copy did. -/
inductive CopyOutcome where
  /-- The target was overwritten with this many payload bytes. -/
  | replicated (target : Path) (bytes : Nat)
  /-- Nothing was written. -/
  | skipped
  deriving DecidableEq

namespace Persist

open StoreM

/-- The target's name, from the file-name variable: none when that variable does not exist. -/
def targetName (spec : PersistSpec) : StoreM (Option (Except SkipReason Path)) := do
  match ← attempt (Store.get spec.fileNameKey) with
  | .error e =>
    if e.isNotFound then pure none
    else pure (some (.error (.lookupFailed spec.fileNameVar e.message)))
  | .ok v =>
    if v.data.length > spec.maxFileNameLen then
      pure (some (.error (.nameTooBig v.data.length spec.maxFileNameLen)))
    else
      let raw := v.data.takeWhile (· != 0)
      if raw.isEmpty then pure (some (.error (.emptyName spec.fileNameVar)))
      else pure (some (.ok ⟨raw⟩))

/-- The name with its root taken away, so that it is relative to a mount point. -/
def relative (name : Path) : Path :=
  Path.ofComponents (name.components.filter (· != .root))

/-- The first of `mounts` under which `rel` exists; a candidate of `pathMax` bytes or more ends
the search. -/
def locateIn (rel : Path) (pathMax : Nat) (name : Path) : List Path → Sys (Except SkipReason Path)
  | [] => pure (.error (.notOnAnyMount name.display))
  | m :: ms =>
    let c := m.join rel
    if c.bytes.length ≥ pathMax then pure (.error (.pathTooBig pathMax))
    else do
      match ← Sys.stat c with
      | .ok _ => pure (.ok c)
      | .error _ => locateIn rel pathMax name ms

/-- The size of the buffer the payload is copied through. -/
def chunkSize : Nat := 1024

/-- The copy loop: copies onto the target through `ht` what each read answered, in turn, after
the `total` bytes copied so far. A read fills the front of the buffer `buf`, and the part it
filled is written. A read of nothing ends the loop, an interrupted read is made again, and any
other failure is fatal. The answer is the number of bytes copied. -/
def pump (ht : Handle) (target : Path) : Bytes → Nat → List (Except OsError Bytes) → StoreM Nat
  -- the answers end with the read of nothing; a read past them would find nothing too
  | _, total, [] => pure total
  | buf, total, .ok c :: reads =>
    if c.isEmpty then pure total
    else do
      let buf := c ++ buf.drop c.length
      match ← (Sys.writeAt ht total (buf.take c.length) : StoreM _) with
      | .ok _ => pump ht target buf (total + c.length) reads
      | .error e => throw (.persistIo "write" target e)
  | buf, total, .error e :: reads =>
    if e.isInterrupted then pump ht target buf total reads
    else throw (.persistIo "read payload" target e)

/-- Copies the payload variable's record, less its header, over `target`. -/
def copy (spec : PersistSpec) (target : Path) : StoreM (Except SkipReason Nat) := do
  match (← config).buildPath spec.payloadKey with
  | .error e => pure (.error (.sourcePath e.message))
  | .ok src =>
    match ← (Sys.openPath src .read : StoreM _) with
    | .error e => pure (.error (.cannotOpen src e))
    | .ok hs =>
      match ← (Sys.openPath target .createTruncate : StoreM _) with
      | .error e => pure (.error (.cannotOpen target e))
      | .ok ht =>
        match ← (Sys.readAt hs 0 (some Record.headerLen) : StoreM _) with
        | .error e => throw (.persistIo "skip attribute header" target e)
        | .ok _ =>
          let reads ← (Sys.readChunks hs Record.headerLen chunkSize : StoreM _)
          return .ok (← pump ht target (List.replicate chunkSize 0) 0 reads)

/-- One pass of the persistence copy during operation `op`; a skip is reported. -/
def replicate (spec : PersistSpec) (op : String) : StoreM CopyOutcome := do
  let skip (r : SkipReason) : StoreM CopyOutcome := do
    report ⟨op, .persistSkipped, none, (StoreError.persistUnavailable r).message⟩
    pure .skipped
  match ← targetName spec with
  | none => pure .skipped
  | some (.error r) => skip r
  | some (.ok name) =>
    match ← (locateIn (relative name) (← config).pathMax name spec.mountPoints : StoreM _) with
    | .error r => skip r
    | .ok target =>
      match ← copy spec target with
      | .error r => skip r
      | .ok n => pure (.replicated target n)

end Persist

namespace Store

open StoreM

/-- The persistence copy after a change made by operation `op`, when the store has one; only a
fatal failure reaches the caller, and it is reported first. -/
def persist (op : String) : StoreM Unit := do
  match (← StoreM.config).persist with
  | none => pure ()
  | some spec =>
    match ← attempt (Persist.replicate spec op) with
    | .ok _ => pure ()
    | .error e =>
      (Sys.note (.copyFailed op e) : StoreM Unit)
      throw e

end Store

end FirmwareVars
