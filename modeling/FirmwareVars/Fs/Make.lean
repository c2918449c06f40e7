import FirmwareVars.Fs.Change

/-!
# Making files and directories

Whole-file writes, and directories made together with their parents, the way a caller sets up
a tree before handing it to a store. A directory is made with one call when it can be; only a
missing parent sends the work up a level, so a file on the way is reported as it is found
(`ENOTDIR`), and a trailing `.` or `..` is tried as written. The parents made before a failure
stay made (a `Change`).
-/

namespace FirmwareVars

namespace Fs

/-- Writes a whole file: creates or truncates it, then writes `data` from the start. -/
def writeFile (fs : Fs) (p : Path) (data : Bytes) : Except OsError Fs := do
  let (fs', i) ← fs.createTruncate p
  .ok (fs'.writeAt i 0 data)

namespace Change

/-- Makes directory `p` with one call; a failure is no failure when `p` names a directory
after it. -/
def mkdirHere (p : Path) : Change Unit := do
  let fs ← MonadState.get
  match fs.mkdir p with
  | .ok fs' => MonadState.set fs'
  | .error e => if fs.isDirAt p then pure () else throw e

/-- Makes directory `p`, whose components read from the end are `rcs`, with the directories
above it. The directory is made at once when it can be. When something on the way is missing,
the parent (the components but the last) is made first and `p` is tried again. A failure is no
failure when `p` names a directory after it; the parents made before a failure stay. -/
def mkdirUp (p : Path) : List Path.Component → Change Unit
  | [] | .root :: _ => mkdirHere p
  | _ :: above => do
    let fs ← MonadState.get
    match fs.mkdir p with
    | .ok fs' => MonadState.set fs'
    | .error e =>
      if !e.isNotFound then (if fs.isDirAt p then pure () else throw e)
      else do
        if !above.isEmpty then mkdirUp (Path.ofComponents above.reverse) above
        mkdirHere p

/-- Makes a directory together with every missing parent; the empty path asks for nothing. -/
def mkdirAll (p : Path) : Change Unit :=
  if p.bytes.isEmpty then pure () else mkdirUp p p.components.reverse

/-- Writes a whole file after making its missing parents, then sets its permission bits when
`mode` is given. -/
def makeFile (p : Path) (data : Bytes) (mode : Option Nat) : Change Unit := do
  if let some d := p.parent? then mkdirAll d
  call fun fs => fs.writeFile p data
  if let some m := mode then call fun fs => fs.chmod p m

end Change

end Fs

end FirmwareVars
