import FirmwareVars.Sys.Basic
import FirmwareVars.Fs.Make

/-!
# Running programs against a host

A host is a filesystem together with what the store cannot see but the caller sets up: how the
inode flag store behaves, and whether another actor acts during the write protocol. Running a
`Sys` program makes its calls one after another against the host; the host also keeps every
flag word the program tried to set, every event it reported, and a line for each action of the
other actor.

The flag store keeps one word per inode (a default for an inode never set). Its queries can be
made to fail with one error number; setting a word that clears the immutable bit, or one that
sets it, can be refused with `EPERM` after the call is counted.

Files are regular files of a local disk: a read never comes back interrupted or short while
bytes are left (`fullReads`).

The other actor acts once, just before the first write-protocol call of its kind (observe,
reopen, publish), on that call's path: it writes a whole file, removes a name, removes and then
writes, makes a directory, or (before a publish) removes the staging file. The mutating open can
also hand back a read-only descriptor of the file it opened, and then remove its name.

Main statements: `run_bind`, running `x >>= f` runs `x` and then `f` on its value.
-/

namespace FirmwareVars

/-- How the in-memory flag store behaves. -/
structure FlagPolicy where
  /-- The word of an inode nobody set. -/
  defaultWord : UInt32 := 0
  /-- Every query fails with this error number. -/
  queryErrno : Option Int := none
  /-- Every word without the immutable bit is refused. -/
  rejectClear : Bool := false
  /-- Every word with the immutable bit is refused. -/
  rejectRestore : Bool := false

/-- The write-protocol call that another actor acts before. -/
inductive Point where
  | observe
  | reopen
  | publish
  deriving DecidableEq

/-- How a point is named in the actor's log. -/
def Point.text : Point → String
  | .observe => "observe"
  | .reopen => "reopen"
  | .publish => "publish"

/-- What the other actor does. -/
inductive Meddling where
  /-- Writes a whole file at the path, creating or truncating it. -/
  | write (data : Bytes)
  /-- Removes the name. -/
  | remove
  /-- Removes the name, then writes a whole file there if that worked. -/
  | replace (data : Bytes)
  /-- Makes a directory at the path. -/
  | mkdir
  /-- Removes the staging file that is about to be published. -/
  | removeStaged
  deriving DecidableEq

/-- How an action is named in the actor's log. -/
def Meddling.verb : Meddling → String
  | .write _ => "write"
  | .remove | .removeStaged => "remove"
  | .replace _ => "replace"
  | .mkdir => "mkdir"

/-- One action of another actor, and the call it comes before. -/
structure Interference where
  before : Point
  action : Meddling
  deriving DecidableEq

/-- What the mutating open of the write protocol hands back. -/
inductive Handover where
  /-- The descriptor it opened. -/
  | asOpened
  /-- A read-only descriptor of the same path, opened after it. -/
  | readOnly
  /-- A read-only descriptor as above, after which the name is removed. -/
  | readOnlyUnlinked
  deriving DecidableEq

namespace Fs

/-- Opens a path; a new file becomes an entry of its directory. -/
def openAt (fs : Fs) (p : Path) : OpenMode → Except OsError (Fs × Handle)
  | .read => do
    let i ← fs.openRead p
    .ok (fs, ⟨i, .read⟩)
  | .write app => do
    let i ← fs.openWrite p
    .ok (fs, ⟨i, if app then .append else .write⟩)
  | .createNew mode => do
    let (fs', i) ← fs.createNew p mode
    .ok (fs', ⟨i, .write⟩)
  | .createTruncate => do
    let (fs', i) ← fs.createTruncate p
    .ok (fs', ⟨i, .write⟩)

/-- Carries out one action of another actor at `p`; `staged` is the staging file of a
publish. -/
def meddle (fs : Fs) (p staged : Path) : Meddling → Except OsError Fs
  | .write data => fs.writeFile p data
  | .remove => fs.unlink p
  | .replace data => do
    let fs' ← fs.unlink p
    fs'.writeFile p data
  | .mkdir => fs.mkdir p
  | .removeStaged => fs.unlink staged

end Fs

/-- A filesystem, the behaviour of what the store cannot see, and what a run left behind. -/
structure Host where
  fs : Fs
  flagPolicy : FlagPolicy := {}
  /-- The other actor's action, until it has happened. -/
  interference : Option Interference := none
  handover : Handover := .asOpened
  /-- Every flag word a program tried to set, in order. -/
  flagCalls : List UInt32 := []
  /-- Every event a program reported, in order. -/
  notes : List Note := []
  /-- One line for each action of the other actor. -/
  interfered : List String := []

namespace Host

/-- Lets the other actor act, if it waits for this point; `p` is the call's path. -/
def fire (h : Host) (pt : Point) (p staged : Path) : Host :=
  match h.interference with
  | some i =>
    if i.before = pt then
      let shown := if i.action = .removeStaged then staged else p
      let (fs', outcome) := match h.fs.meddle p staged i.action with
        | .ok fs' => (fs', "ok")
        | .error e => (h.fs, e.message)
      { h with
        fs := fs'
        interference := none
        interfered := h.interfered ++
          [i.action.verb ++ " " ++ shown.display ++ " before " ++ pt.text ++ ": " ++ outcome] }
    else h
  | none => h

/-- Opens a path and keeps the filesystem it leaves. -/
def openAt (h : Host) (p : Path) (m : OpenMode) : Except OsError Handle × Host :=
  match h.fs.openAt p m with
  | .ok (fs', hd) => (.ok hd, { h with fs := fs' })
  | .error e => (.error e, h)

/-- The mutating open: opens as asked, then hands back what `handover` says. -/
def reopen (h : Host) (p : Path) (m : OpenMode) : Except OsError Handle × Host :=
  match h.openAt p m with
  | (.error e, h') => (.error e, h')
  | (.ok hd, h') =>
    match h'.handover with
    | .asOpened => (.ok hd, h')
    | .readOnly => h'.openAt p .read
    | .readOnlyUnlinked =>
      match h'.openAt p .read with
      | (.ok ro, h'') =>
        match h''.fs.unlink p with
        | .ok fs' => (.ok ro, { h'' with fs := fs' })
        | .error _ => (.ok ro, h'')
      | other => other

/-- Keeps a filesystem change, or the error that prevented it. -/
def change (h : Host) : Except OsError Fs → Except OsError Unit × Host
  | .ok fs' => (.ok (), { h with fs := fs' })
  | .error e => (.error e, h)

/-- The answer to one call, and the host after it. -/
def exec (h : Host) : (c : Call) → c.Reply × Host
  | .openPath p m => h.openAt p m
  | .observe p => (h.fire .observe p p).openAt p .read
  | .reopen p m => (h.fire .reopen p p).reopen p m
  | .publish staged target =>
    let h' := h.fire .publish target staged
    h'.change (h'.fs.link staged target)
  | .read hd off len =>
    if hd.access = .read then ((h.fs.read hd.ino).bind (readSpan off len), h)
    else (.error .badDescriptor, h)
  | .readChunks hd off size =>
    if hd.access = .read then
      (match h.fs.read hd.ino with
        | .ok bs => fullReads size (bs.drop off)
        | .error e => [.error e], h)
    else ([.error .badDescriptor], h)
  | .write hd off data =>
    match hd.access with
    | .read => (.error .badDescriptor, h)
    | .write => (.ok data.length, { h with fs := h.fs.writeAt hd.ino off data })
    | .append => (.ok data.length, { h with fs := h.fs.append hd.ino data })
  | .truncate hd len =>
    if hd.access = .read then (.error (.errno 22), h)
    else (.ok (), { h with fs := h.fs.truncate hd.ino len })
  | .stat p => ((h.fs.find p).map h.fs.size, h)
  | .unlink p => h.change (h.fs.unlink p)
  | .chmod p mode => h.change (h.fs.chmod p mode)
  | .readDir p => (h.fs.readDir p, h)
  | .statfs p => (h.fs.statfs p, h)
  | .getFlags hd =>
    match h.flagPolicy.queryErrno with
    | some n => (.error (.errno n), h)
    | none => (.ok (h.fs.flagsOf hd.ino h.flagPolicy.defaultWord), h)
  | .setFlags hd w =>
    let h' := { h with flagCalls := h.flagCalls ++ [w] }
    let restoring := w &&& immutableBit != 0
    if (restoring && h.flagPolicy.rejectRestore) || (!restoring && h.flagPolicy.rejectClear) then
      (.error .notPermitted, h')
    else (.ok (), { h' with fs := h.fs.setFlags hd.ino w })
  | .note n => ((), { h with notes := h.notes ++ [n] })

/-- Runs a program to its end: its value and the host it leaves. -/
def run {α : Type} : Sys α → Host → α × Host
  | .pure a, h => (a, h)
  | .call c k, h =>
    let (r, h') := h.exec c
    run (k r) h'

@[simp]
theorem run_pure {α : Type} (a : α) (h : Host) : run (Sys.pure a) h = (a, h) := rfl

@[simp]
theorem run_call {α : Type} (c : Call) (k : c.Reply → Sys α) (h : Host) :
    run (Sys.call c k) h = run (k (h.exec c).1) (h.exec c).2 := rfl

theorem run_bind {α β : Type} (x : Sys α) (f : α → Sys β) (h : Host) :
    run (x >>= f) h = run (f (run x h).1) (run x h).2 := by
  induction x generalizing h with
  | pure a => rfl
  | call c k ih => exact ih (h.exec c).1 (h.exec c).2

end Host

end FirmwareVars
