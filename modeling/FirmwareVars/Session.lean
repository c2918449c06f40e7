import FirmwareVars.Store.Write
import FirmwareVars.Store.Remove
import FirmwareVars.Store.Listing
import FirmwareVars.Store.Probe
import FirmwareVars.Export.Transfer
import FirmwareVars.Sys.Host
import FirmwareVars.Fs.Snapshot
import FirmwareVars.Fs.Remove
import FirmwareVars.Fs.Make

/-!
# Sessions

A session is one store working on one host, step after step. Each step starts with empty logs
and may set up another actor's action and what the mutating open hands back; afterwards the
step's diagnostics, the flag words it tried to set and the actor's log can be read off the
host. Besides store operations a step can act on the host directly (write, read or remove a
file, make a directory, set a flag word) or use the flag guard on an open file.

A step fails with a store error, or with an error of the host itself when a direct action
fails.
-/

namespace FirmwareVars

/-- Why a step failed: a store operation failed, or a direct action on the host did. -/
inductive StepError where
  | store (e : StoreError)
  | host (e : OsError)
  deriving DecidableEq

/-- Directories and files made before a session starts: each file with its bytes and, when
given, its permission bits; parents are made as needed. -/
structure Setup where
  dirs : List Path := []
  files : List (Path × Bytes × Option Nat) := []

/-- Makes everything a setup asks for, directories first. -/
def Setup.make (s : Setup) : Fs.Change Unit := do
  s.dirs.forM Fs.Change.mkdirAll
  s.files.forM fun (p, data, mode) => Fs.Change.makeFile p data mode

/-- A store working on a host. -/
structure Session where
  host : Host
  store : Store

namespace Session

/-- The host before a step: empty logs, and the given actor and handover. -/
def prepare (s : Session) (meddle : Option Interference) (handover : Handover) : Host :=
  { s.host with
    interference := meddle, handover := handover, flagCalls := [], notes := [], interfered := [] }

/-- Runs a store operation as one step, with another actor's action and what the mutating open
hands back. -/
def runWith {α : Type} (s : Session) (x : StoreM α) (meddle : Option Interference)
    (handover : Handover) : Except StepError α × Session :=
  let ((r, st), h) := Host.run (x.run.run s.store) (s.prepare meddle handover)
  (r.mapError .store, { host := h, store := st })

/-- Runs a store operation as one step, with no other actor. -/
def run {α : Type} (s : Session) (x : StoreM α) : Except StepError α × Session :=
  s.runWith x none .asOpened

/-- Acts on the host's filesystem directly as one step. -/
def act {α : Type} (s : Session) (f : Fs → Except OsError (α × Fs)) : Except StepError α × Session :=
  let h := s.prepare none .asOpened
  match f h.fs with
  | .ok (a, fs') => (.ok a, { s with host := { h with fs := fs' } })
  | .error e => (.error (.host e), { s with host := h })

/-- Opens `p` for reading on the host, then runs a store operation on the descriptor as one
step; a failed open is the host's error. -/
def withOpen {α : Type} (s : Session) (p : Path) (body : Handle → StoreM α) :
    Except StepError α × Session :=
  match s.host.fs.openAt p .read with
  | .ok (_, h) => s.run (body h)
  | .error e => (.error (.host e), { s with host := s.prepare none .asOpened })

/-- Writes a whole file on the host. -/
def writeFile (s : Session) (p : Path) (data : Bytes) : Except StepError Unit × Session :=
  s.act fun fs => (fs.writeFile p data).map fun fs' => ((), fs')

/-- Changes the host's filesystem directly as one step; a change that fails part way keeps
what it did. -/
def change {α : Type} (s : Session) (x : Fs.Change α) : Except StepError α × Session :=
  let h := s.prepare none .asOpened
  let (r, fs') := x.apply h.fs
  (r.mapError .host, { s with host := { h with fs := fs' } })

/-- Makes a directory and its parents on the host; the parents made before a failure stay. -/
def mkdir (s : Session) (p : Path) : Except StepError Unit × Session :=
  s.change (Fs.Change.mkdirAll p)

/-- Removes a file, or a directory with everything under it, on the host; a removal that fails
part way keeps what it removed. -/
def remove (s : Session) (p : Path) : Except StepError Unit × Session :=
  s.change (Fs.Change.removePath p)

/-- Reads a whole file on the host. -/
def contentsOf (s : Session) (p : Path) : Except StepError Bytes × Session :=
  s.act fun fs => do
    let i ← fs.openRead p
    let bs ← fs.read i
    .ok (bs, fs)

/-- Sets the flag word of the inode at `p` on the host, reached by opening `p` for reading. -/
def markFlags (s : Session) (p : Path) (w : UInt32) : Except StepError Unit × Session :=
  s.act fun fs => do
    let i ← fs.openRead p
    .ok ((), fs.setFlags i w)

/-- The diagnostics of the last step. -/
def diagnostics (s : Session) : List Diagnostic :=
  s.host.notes.filterMap fun
    | .diagnostic d => some d
    | _ => none

/-- The flag words the last step tried to set. -/
def flagCalls (s : Session) : List UInt32 := s.host.flagCalls

/-- The other actor's log of the last step. -/
def interfered (s : Session) : List String := s.host.interfered

/-- Every name under the working directory. -/
def snapshot (s : Session) : List SnapshotEntry := s.host.fs.snapshot

end Session

namespace Guard

open StoreM

/-- The flag word, or none when the query fails. -/
def query? (h : Handle) (p : Path) : StoreM (Option UInt32) := do
  match ← attempt (query h p) with
  | .ok w => pure (some w)
  | .error _ => pure none

/-- The saved word of a window opened on `h` (none when there was none to open), the word
while it is open, and the word after it closed. -/
def probeWindow (h : Handle) (p : Path) : StoreM (Option UInt32 × Option UInt32 × Option UInt32) := do
  let w ← (openWindow h p "guard" : StoreM _)
  let during ← query? h p
  (closeWindow w : StoreM Unit)
  let after ← query? h p
  pure (w.map Window.saved, during, after)

end Guard

end FirmwareVars
