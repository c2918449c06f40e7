import FirmwareVars.Store.Write
import FirmwareVars.Store.Read
import FirmwareVars.Store.Remove
import FirmwareVars.Sys.Host
import FirmwareVars.Proofs.Names

/-!
# Running store operations

A store operation is a `Sys` program under an exception and a state layer. `StoreM.exec` runs it
against a host from a store state, giving its outcome, the store after it and the host after it.
This module gives the equations that take such a run apart: one for each way of building an
operation (`exec_bind`, `exec_lift`, `exec_attempt`, `exec_call`, ...), so that later proofs
follow an operation's code line by line without unfolding the monad stack again.

A host is quiet when no other actor waits to act and the mutating open hands back what it
opened: then the three calls of the write protocol are plain opens and links
(`Host.exec_observe`, `Host.exec_reopen`, `Host.exec_publish`). §4 gives each call the host's
answer in terms of the filesystem's own calls.
-/

namespace FirmwareVars

/-! ## §1. Programs of calls -/

namespace Host

theorem run_map {α β : Type} (f : α → β) (x : Sys α) (h : Host) :
    run (f <$> x) h = (f (run x h).1, (run x h).2) := by
  rw [← bind_pure_comp, run_bind]
  rfl

@[simp] theorem run_perform (c : Call) (h : Host) : run (Sys.perform c) h = h.exec c := rfl

end Host

/-! ## §2. Store operations -/

namespace StoreM

/-- Runs a store operation against a host from store state `st`. -/
def exec {α : Type} (x : StoreM α) (st : Store) (h : Host) : (Except StoreError α × Store) × Host :=
  Host.run (x.run.run st) h

variable {α β : Type}

@[simp] theorem exec_pure (a : α) (st : Store) (h : Host) :
    exec (pure a : StoreM α) st h = ((.ok a, st), h) := rfl

@[simp] theorem exec_throw (e : StoreError) (st : Store) (h : Host) :
    exec (throw e : StoreM α) st h = ((.error e, st), h) := rfl

/-- A sequence runs its first part, and goes on only when that succeeded. -/
theorem exec_bind (x : StoreM α) (f : α → StoreM β) (st : Store) (h : Host) :
    exec (x >>= f) st h =
      match exec x st h with
      | ((.ok a, st'), h') => exec (f a) st' h'
      | ((.error e, st'), h') => ((.error e, st'), h') := by
  show Host.run ((x.run.run st) >>= _) h = _
  rw [Host.run_bind]
  simp only [exec]
  rcases Host.run (x.run.run st) h with ⟨⟨r, st'⟩, h'⟩
  cases r <;> rfl

/-- A mapped operation runs the operation and maps its value. -/
theorem exec_map (f : α → β) (x : StoreM α) (st : Store) (h : Host) :
    exec (f <$> x) st h = (((exec x st h).1.1.map f, (exec x st h).1.2), (exec x st h).2) := by
  show Host.run ((x.run.run st) >>= _) h = _
  rw [Host.run_bind]
  simp only [exec]
  rcases Host.run (x.run.run st) h with ⟨⟨r, st'⟩, h'⟩
  cases r <;> rfl

theorem exec_bind_ok {x : StoreM α} {f : α → StoreM β} {st st' : Store} {h h' : Host} {a : α}
    (hx : exec x st h = ((.ok a, st'), h')) : exec (x >>= f) st h = exec (f a) st' h' := by
  rw [exec_bind, hx]

theorem exec_bind_error {x : StoreM α} {f : α → StoreM β} {st st' : Store} {h h' : Host}
    {e : StoreError} (hx : exec x st h = ((.error e, st'), h')) :
    exec (x >>= f) st h = ((.error e, st'), h') := by
  rw [exec_bind, hx]

@[simp] theorem exec_lift (x : Sys α) (st : Store) (h : Host) :
    exec (x : StoreM α) st h = ((.ok (Host.run x h).1, st), (Host.run x h).2) := by
  unfold exec
  show Host.run (ExceptT.run (ExceptT.lift (StateT.lift x)) |>.run st) h = _
  simp only [ExceptT.run_lift, StateT.run_map, StateT.run_lift, Host.run_map, Host.run_bind]
  rfl

theorem exec_attempt (x : StoreM α) (st : Store) (h : Host) :
    exec (attempt x) st h = ((.ok (exec x st h).1.1, (exec x st h).1.2), (exec x st h).2) := by
  unfold exec attempt
  simp only [ExceptT.run_lift, StateT.run_map, Host.run_map]

@[simp] theorem exec_get (st : Store) (h : Host) :
    exec (MonadState.get : StoreM Store) st h = ((.ok st, st), h) := rfl

@[simp] theorem exec_set (st st' : Store) (h : Host) :
    exec (MonadState.set st' : StoreM Unit) st h = ((.ok (), st'), h) := rfl

@[simp] theorem exec_modify (f : Store → Store) (st : Store) (h : Host) :
    exec (modify f : StoreM Unit) st h = ((.ok (), f st), h) := rfl

@[simp] theorem exec_ofExcept (r : Except StoreError α) (st : Store) (h : Host) :
    exec (MonadExcept.ofExcept r : StoreM α) st h = ((r, st), h) := by
  cases r <;> rfl

/-- A lifted system call: its error becomes the store error of the operation. -/
theorem exec_call (op : String) (p : Path) (x : Sys (Except OsError α)) (st : Store) (h : Host) :
    exec (call op p x) st h =
      match (Host.run x h).1 with
      | .ok a => ((.ok a, st), (Host.run x h).2)
      | .error e => ((.error (.ofOs op p e), st), (Host.run x h).2) := by
  unfold call
  rw [exec_bind, exec_lift]
  cases (Host.run x h).1 <;> rfl

@[simp] theorem exec_config (st : Store) (h : Host) :
    exec config st h = ((.ok st.config, st), h) := rfl

theorem exec_buildPath (k : VarKey) (st : Store) (h : Host) :
    exec (buildPath k) st h = ((st.config.buildPath k, st), h) := by
  unfold buildPath
  rw [exec_bind_ok (exec_config st h), exec_ofExcept]

@[simp] theorem exec_report (d : Diagnostic) (st : Store) (h : Host) :
    exec (report d) st h = ((.ok (), st), { h with notes := h.notes ++ [.diagnostic d] }) := rfl

end StoreM

/-! ## §3. Quiet hosts -/

namespace Host

/-- A host with no other actor: nobody waits to act during the write protocol, and the mutating
open hands back the descriptor it opened. -/
structure Quiet (h : Host) : Prop where
  interference : h.interference = none
  handover : h.handover = .asOpened

variable {h : Host}

theorem fire_of_none (hn : h.interference = none) (pt : Point) (p staged : Path) :
    h.fire pt p staged = h := by
  unfold fire
  rw [hn]

theorem exec_observe (hq : h.Quiet) (p : Path) : h.exec (.observe p) = h.openAt p .read := by
  show (h.fire .observe p p).openAt p .read = _
  rw [fire_of_none hq.interference]

theorem exec_reopen (hq : h.Quiet) (p : Path) (m : OpenMode) :
    h.exec (.reopen p m) = h.openAt p m := by
  show (h.fire .reopen p p).reopen p m = _
  rw [fire_of_none hq.interference]
  unfold reopen
  rcases ho : h.openAt p m with ⟨_ | hd, h'⟩
  · rfl
  · -- the open keeps the handover, which is to hand back what was opened
    have hh : h'.handover = .asOpened := by
      unfold openAt at ho
      split at ho
      · cases ho
        exact hq.handover
      · cases ho
    simp only [hh]

theorem exec_publish (hq : h.Quiet) (staged target : Path) :
    h.exec (.publish staged target) = h.change (h.fs.link staged target) := by
  show (h.fire .publish target staged).change _ = _
  rw [fire_of_none hq.interference]

end Host

/-! ## §4. One call at a time -/

namespace Host

variable {h : Host} {p : Path}

theorem run_openPath_read {i : Nat} (hr : h.fs.openRead p = .ok i) :
    run (Sys.openPath p .read) h = (.ok ⟨i, .read⟩, h) := by
  show h.openAt p .read = _
  simp only [openAt, Fs.openAt, hr, Fs.ok_bind]

theorem run_openPath_read_error {e : OsError} (hr : h.fs.openRead p = .error e) :
    run (Sys.openPath p .read) h = (.error e, h) := by
  show h.openAt p .read = _
  unfold openAt Fs.openAt
  rw [hr]
  rfl

theorem run_observe (hq : h.Quiet) : run (Sys.observe p) h = run (Sys.openPath p .read) h :=
  exec_observe hq p

theorem run_reopen_write (hq : h.Quiet) {i : Nat} (hw : h.fs.openWrite p = .ok i) (app : Bool) :
    run (Sys.reopen p (.write app)) h = (.ok ⟨i, if app then .append else .write⟩, h) := by
  show h.exec (.reopen p (.write app)) = _
  rw [exec_reopen hq]
  simp only [openAt, Fs.openAt, hw, Fs.ok_bind]
  rfl

theorem run_reopen_write_error (hq : h.Quiet) {e : OsError} (hw : h.fs.openWrite p = .error e)
    (app : Bool) : run (Sys.reopen p (.write app)) h = (.error e, h) := by
  show h.exec (.reopen p (.write app)) = _
  rw [exec_reopen hq]
  unfold openAt Fs.openAt
  rw [hw]
  rfl

theorem run_reopen_createNew (hq : h.Quiet) {m i : Nat} {fs' : Fs}
    (hc : h.fs.createNew p m = .ok (fs', i)) :
    run (Sys.reopen p (.createNew m)) h = (.ok ⟨i, .write⟩, { h with fs := fs' }) := by
  show h.exec (.reopen p (.createNew m)) = _
  rw [exec_reopen hq]
  simp only [openAt, Fs.openAt, hc, Fs.ok_bind]
  rfl

theorem run_publish (hq : h.Quiet) {staged : Path} {fs' : Fs} (hl : h.fs.link staged p = .ok fs') :
    run (Sys.publish staged p) h = (.ok (), { h with fs := fs' }) := by
  show h.exec (.publish staged p) = _
  rw [exec_publish hq, hl]
  rfl

theorem run_unlink {fs' : Fs} (hu : h.fs.unlink p = .ok fs') :
    run (Sys.unlink p) h = (.ok (), { h with fs := fs' }) := by
  show h.change (h.fs.unlink p) = _
  rw [hu]
  rfl

theorem run_write_write (i : Nat) (bs : Bytes) :
    run (Sys.write ⟨i, .write⟩ bs) h = (.ok bs.length, { h with fs := h.fs.writeAt i 0 bs }) :=
  rfl

theorem run_write_append (i : Nat) (bs : Bytes) :
    run (Sys.write ⟨i, .append⟩ bs) h = (.ok bs.length, { h with fs := h.fs.append i bs }) :=
  rfl

theorem run_writeAt_write (i off : Nat) (bs : Bytes) :
    run (Sys.writeAt ⟨i, .write⟩ off bs) h =
      (.ok bs.length, { h with fs := h.fs.writeAt i off bs }) :=
  rfl

theorem run_readChunks (i off size : Nat) :
    run (Sys.readChunks ⟨i, .read⟩ off size) h =
      (match h.fs.read i with
        | .ok bs => fullReads size (bs.drop off)
        | .error e => [.error e], h) :=
  rfl

theorem run_truncate {i : Nat} {acc : Access} (hacc : acc ≠ .read) (len : Nat) :
    run (Sys.truncate ⟨i, acc⟩ len) h = (.ok (), { h with fs := h.fs.truncate i len }) := by
  show (if acc = .read then _ else _) = _
  simp only [hacc, ↓reduceIte]
  rfl

theorem run_readAt (i off : Nat) (len : Option Nat) :
    run (Sys.readAt ⟨i, .read⟩ off len) h = ((h.fs.read i).bind (readSpan off len), h) := rfl

theorem run_stat : run (Sys.stat p) h = ((h.fs.find p).map h.fs.size, h) := rfl

theorem run_statfs : run (Sys.statfs p) h = (h.fs.statfs p, h) := rfl

end Host

end FirmwareVars
