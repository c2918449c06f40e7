import FirmwareVars.Fs.Tree

/-!
# Changes that keep their partial work

Several things done to a filesystem are a series of calls, and when one call fails the calls
before it have still happened: making a directory with its parents leaves the parents it made,
removing a tree leaves removed what it removed. A `Change` is such a series: a computation on
the filesystem whose error ends it and leaves the filesystem as it then is.

Main statements: `apply_pure`, `apply_call_ok` and `apply_call_error` say what running the
simplest changes gives.
-/

namespace FirmwareVars

namespace Fs

/-- A change to the filesystem that may fail part way, keeping what it did. -/
abbrev Change := ExceptT OsError (StateM Fs)

namespace Change

/-- Runs a change on `fs`: its outcome, and the filesystem it leaves behind. -/
def apply {α : Type} (x : Change α) (fs : Fs) : Except OsError α × Fs :=
  Id.run (x.run.run fs)

/-- One call on the filesystem: it gives the filesystem after it, or it fails and leaves the
filesystem as it was. -/
def call (f : Fs → Except OsError Fs) : Change Unit :=
  ExceptT.mk fun fs => match f fs with
    | .ok fs' => (.ok (), fs')
    | .error e => (.error e, fs)

/-- Fails with `EACCES` unless inode `i` may be used in the way `bit` stands for. -/
def require (i bit : Nat) : Change Unit := do
  MonadExcept.ofExcept ((← MonadState.get).require i bit)

theorem apply_pure {α : Type} (a : α) (fs : Fs) : (pure a : Change α).apply fs = (.ok a, fs) :=
  rfl

theorem apply_call_ok (f : Fs → Except OsError Fs) (fs fs' : Fs) (h : f fs = .ok fs') :
    (call f).apply fs = (.ok (), fs') := by
  show (match f fs with
    | .ok fs' => ((.ok () : Except OsError Unit), fs')
    | .error e => (.error e, fs)) = _
  rw [h]

theorem apply_call_error (f : Fs → Except OsError Fs) (fs : Fs) (e : OsError)
    (h : f fs = .error e) : (call f).apply fs = (.error e, fs) := by
  show (match f fs with
    | .ok fs' => ((.ok () : Except OsError Unit), fs')
    | .error e => (.error e, fs)) = _
  rw [h]

end Change

end Fs

end FirmwareVars
