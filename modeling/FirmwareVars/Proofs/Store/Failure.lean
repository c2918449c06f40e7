import FirmwareVars.Proofs.Store.Records

/-!
# Failed changes

What a change that fails leaves behind. An operation fails with an error, and everything it did
before the error stays done; this module says what that is for the removal of a variable and for
a mode change.

* `FailsWith`: the errors an operation can fail with, closed under the ways operations are
  built. The persistence copy fails only with its fatal error (`persist_failsWith`), so any other
  error of a change comes from before the copy.
* A delete clears the immutable bit of the variable's file before it unlinks the file, as a best
  effort, and nothing puts the bit back when the unlink then fails (`exec_delete_failed`): the
  tree keeps every entry, byte and mode, but the file's flag word has lost the bit, with no
  report of it. A set, by contrast, restores the word on every way out of its window.
* A chmod that fails leaves the host as it was (`exec_chmod_failed`).
-/

namespace FirmwareVars

open StoreM

/-! ## §1. The errors an operation fails with -/

/-- `x` fails only with errors that satisfy `P`, from every store and host. -/
def StoreM.FailsWith {α : Type} (P : StoreError → Prop) (x : StoreM α) : Prop :=
  ∀ st h e, (exec x st h).1.1 = .error e → P e

namespace StoreM.FailsWith

variable {α β : Type} {P : StoreError → Prop}

theorem pure (a : α) : FailsWith P (Pure.pure a : StoreM α) := by
  intro st h e he
  cases he

theorem lift (x : Sys α) : FailsWith P (x : StoreM α) := by
  intro st h e he
  rw [exec_lift] at he
  cases he

theorem attempt (x : StoreM α) : FailsWith P (StoreM.attempt x) := by
  intro st h e he
  rw [exec_attempt] at he
  cases he

theorem throw {e : StoreError} (he : P e) : FailsWith P (MonadExcept.throw e : StoreM α) := by
  intro st h e' he'
  cases he'
  exact he

theorem bind {x : StoreM α} {f : α → StoreM β} (hx : FailsWith P x) (hf : ∀ a, FailsWith P (f a)) :
    FailsWith P (x >>= f) := by
  intro st h e he
  rw [exec_bind] at he
  rcases hr : exec x st h with ⟨⟨r, st'⟩, h'⟩
  rw [hr] at he
  cases r with
  | ok a => exact hf a st' h' e he
  | error e' =>
    cases he
    exact hx st h e (by rw [hr])

theorem throw_bind {e : StoreError} (he : P e) (f : α → StoreM β) :
    FailsWith P (MonadExcept.throw e >>= f) := by
  intro st h e' he'
  rw [exec_bind_error (exec_throw e st h)] at he'
  cases he'
  exact he

/-- An error caught by `attempt` and thrown again is one of the errors `x` can fail with. -/
theorem bind_attempt {x : StoreM α} {f : Except StoreError α → StoreM β} (hx : FailsWith P x)
    (hok : ∀ a, FailsWith P (f (.ok a))) (herr : ∀ e, P e → FailsWith P (f (.error e))) :
    FailsWith P (StoreM.attempt x >>= f) := by
  intro st h e he
  rw [exec_bind, exec_attempt] at he
  rcases hr : exec x st h with ⟨⟨r, st'⟩, h'⟩
  rw [hr] at he
  cases r with
  | ok a => exact hok a st' h' e he
  | error e' => exact herr e' (hx st h e' (by rw [hr])) st' h' e he

theorem config : FailsWith P StoreM.config := by
  intro st h e he
  cases he

theorem report (d : Diagnostic) : FailsWith P (StoreM.report d) := lift _

end StoreM.FailsWith

/-! ## §2. The persistence copy fails only fatally -/

namespace Persist

open StoreM

variable {P : StoreError → Prop}

theorem targetName_failsWith (spec : PersistSpec) : FailsWith P (targetName spec) := by
  unfold targetName
  refine .bind (.attempt _) fun r => ?_
  cases r with
  | error e =>
    show FailsWith P (if _ then _ else _)
    split
    · exact .pure _
    · exact .pure _
  | ok v =>
    dsimp only
    split
    · exact .pure _
    · split <;> exact .pure _

/-- The copy loop fails only with the fatal error: an interrupted read is made again, and every
other failed read or write is fatal. -/
theorem pump_failsWith (ht : Handle) (target : Path) (buf : Bytes) (total : Nat)
    (reads : List (Except OsError Bytes)) :
    FailsWith (fun e => e.isFatal) (pump ht target buf total reads) := by
  induction reads generalizing buf total with
  | nil => exact .pure _
  | cons r reads ih =>
    rcases r with e | c
    · simp only [pump]
      split
      · exact ih _ _
      · exact .throw (by rfl)
    · simp only [pump]
      split
      · exact .pure _
      · refine .bind (.lift _) fun r => ?_
        split
        · exact ih _ _
        · exact .throw (by rfl)

theorem copy_failsWith (spec : PersistSpec) (target : Path) :
    FailsWith (fun e => e.isFatal) (copy spec target) := by
  unfold copy
  refine .bind .config fun c => ?_
  split
  · exact .pure _
  · refine .bind (.lift _) fun r => ?_
    split
    · exact .pure _
    · refine .bind (.lift _) fun r => ?_
      split
      · exact .pure _
      · -- past the opens, the header read and the loop fail only fatally
        refine .bind (.lift _) fun r => ?_
        split
        · exact .throw (by rfl)
        · exact .bind (.lift _) fun reads => .bind (pump_failsWith _ _ _ _ _) fun _ => .pure _

theorem replicate_failsWith (spec : PersistSpec) (op : String) :
    FailsWith (fun e => e.isFatal) (replicate spec op) := by
  unfold replicate
  dsimp only
  -- a skip reports and never fails
  have hskip : ∀ r, FailsWith (fun e : StoreError => e.isFatal)
      (do report ⟨op, .persistSkipped, none, (StoreError.persistUnavailable r).message⟩
          pure CopyOutcome.skipped) :=
    fun _ => .bind (.report _) fun _ => .pure _
  refine .bind (targetName_failsWith spec) fun t => ?_
  split
  · exact .pure _
  · exact hskip _
  · refine .bind .config fun c => .bind (.lift _) fun r => ?_
    split
    · exact hskip _
    · refine .bind (copy_failsWith spec _) fun r => ?_
      split
      · exact hskip _
      · exact .pure _

end Persist

namespace Store

/-- The persistence copy fails only with the fatal error of a copy that went wrong after its
target was truncated. -/
theorem persist_failsWith (op : String) : FailsWith (fun e => e.isFatal) (persist op) := by
  unfold persist
  refine .bind .config fun c => ?_
  split
  · exact .pure _
  · refine .bind_attempt (Persist.replicate_failsWith _ op) (fun _ => .pure _) fun e he => ?_
    exact .bind (.lift _) fun _ => .throw he

end Store

/-! ## §3. The best-effort clear of a delete -/

/-- A cleared word has no immutable bit. -/
theorem clear_immutable_and (w : UInt32) : (w &&& ~~~immutableBit) &&& immutableBit = 0 := by
  rw [UInt32.and_assoc, UInt32.not_and_self, UInt32.and_zero]

namespace Host

/-- The tree after the immutable bit of inode `i` is taken off as a best effort: the bit goes
when the flag store answers the query, the word has the bit, and clears are not refused. -/
def afterClear (h : Host) (i : Nat) : Fs :=
  match h.flagPolicy.queryErrno with
  | some _ => h.fs
  | none =>
    let w := h.fs.flagsOf i h.flagPolicy.defaultWord
    if Guard.isImmutableWord w && !h.flagPolicy.rejectClear then
      h.fs.setFlags i (w &&& ~~~immutableBit)
    else h.fs

/-- The flag words a best-effort clear of inode `i` tries to set. -/
def clearCalls (h : Host) (i : Nat) : List UInt32 :=
  match h.flagPolicy.queryErrno with
  | some _ => []
  | none =>
    let w := h.fs.flagsOf i h.flagPolicy.defaultWord
    if Guard.isImmutableWord w then [w &&& ~~~immutableBit] else []

/-- The host after a best-effort clear of the file at `p`, when the file opens for reading. -/
def clearAt (h : Host) (p : Path) : Host :=
  match h.fs.openRead p with
  | .ok i => { h with fs := h.afterClear i, flagCalls := h.flagCalls ++ h.clearCalls i }
  | .error _ => h

theorem run_getFlags (h : Host) (hd : Handle) :
    run (Sys.getFlags hd) h =
      (match h.flagPolicy.queryErrno with
        | some n => .error (.errno n)
        | none => .ok (h.fs.flagsOf hd.ino h.flagPolicy.defaultWord), h) := by
  show h.exec (.getFlags hd) = _
  cases hq : h.flagPolicy.queryErrno <;> simp only [exec, hq] <;> rfl

/-- A word without the immutable bit is set unless clears are refused; the call is counted
either way. -/
theorem run_setFlags_clear (h : Host) (hd : Handle) (w : UInt32) :
    run (Sys.setFlags hd (w &&& ~~~immutableBit)) h =
      if h.flagPolicy.rejectClear then
        (.error .notPermitted, { h with flagCalls := h.flagCalls ++ [w &&& ~~~immutableBit] })
      else
        (.ok (), { h with
          fs := h.fs.setFlags hd.ino (w &&& ~~~immutableBit)
          flagCalls := h.flagCalls ++ [w &&& ~~~immutableBit] }) := by
  show h.exec (.setFlags hd _) = _
  simp only [exec, clear_immutable_and, bne_self_eq_false, Bool.false_and, Bool.not_false,
    Bool.true_and, Bool.false_or]
  split <;> rfl

end Host

namespace Guard

/-- Taking the immutable bit off an open file changes the host only by the clear: the word loses
the bit, and the attempt is counted, unless the query fails or the word has no bit to clear. -/
theorem exec_set_false_host (i : Nat) (p : Path) (st : Store) (h : Host) :
    (exec (Guard.set ⟨i, .read⟩ p false) st h).2 =
      { h with fs := h.afterClear i, flagCalls := h.flagCalls ++ h.clearCalls i } := by
  unfold Guard.set Host.afterClear Host.clearCalls
  rw [exec_bind, exec_lift, Host.run_getFlags]
  cases hq : h.flagPolicy.queryErrno with
  | some n =>
    -- the query fails: nothing is set, whichever way its error is taken
    simp only [List.append_nil]
    split <;> rfl
  | none =>
    simp only
    cases hw : isImmutableWord (h.fs.flagsOf i h.flagPolicy.defaultWord)
    · -- no bit to clear: nothing is set
      simp only [Bool.false_and, Bool.false_eq_true, ↓reduceIte, List.append_nil, exec_pure]
    · simp only [Bool.true_eq_false, Bool.false_eq_true, ↓reduceIte, exec_call,
        Host.run_setFlags_clear]
      cases h.flagPolicy.rejectClear <;> rfl

end Guard

/-! ## §4. Failed deletes and mode changes -/

namespace Store

variable {st st' : Store} {h h' : Host} {e : StoreError} {p : Path}

/-- After a failed unlink nothing more happens; after a successful one only the persistence copy
can fail, and then fatally. -/
theorem exec_unlink_persist_failed
    (hx : exec (call "unlink" p (Sys.unlink p) >>= fun _ => persist "delete") st h =
      ((.error e, st'), h'))
    (he : e.isFatal = false) : h' = h := by
  rw [exec_bind, exec_call] at hx
  have hrun : Host.run (Sys.unlink p) h = h.change (h.fs.unlink p) := rfl
  rw [hrun] at hx
  cases hu : h.fs.unlink p with
  | error e' =>
    rw [hu] at hx
    cases hx
    rfl
  | ok fs' =>
    rw [hu] at hx
    simp only [Host.change] at hx
    have hfatal := persist_failsWith "delete" st { h with fs := fs' } e (by rw [hx])
    rw [hfatal] at he
    cases he

/-- A delete that fails with anything but the fatal copy error has changed no entry, no byte
and no mode. What it leaves is its best-effort clear of the immutable bit of the file at its path,
which nothing puts back, and reports of a refused clear. -/
theorem exec_delete_failed {k : VarKey}
    (hx : exec (delete k) st h = ((.error e, st'), h')) (he : e.isFatal = false) :
    match st.config.buildPath k with
    | .ok p => ∃ ns, h' = { h.clearAt p with notes := h.notes ++ ns } ∧
        ∀ n ∈ ns, ∃ msg, n = .diagnostic ⟨"delete", .clearFailed, some p, msg⟩
    | .error _ => h' = h := by
  cases hp : st.config.buildPath k with
  | error e₀ =>
    simp only [delete, exec_bind, exec_buildPath, hp] at hx
    cases hx
    rfl
  | ok p =>
    simp only [delete, exec_bind, exec_buildPath, hp, exec_lift] at hx
    simp only
    unfold Host.clearAt
    cases hr : h.fs.openRead p with
    | error e₀ =>
      -- the file does not open: there is nothing to clear, and a surprising error is reported
      rw [Host.run_openPath_read_error hr] at hx
      simp only at hx
      split at hx
      · rw [exec_bind, exec_report] at hx
        rw [exec_unlink_persist_failed hx he]
        exact ⟨_, rfl, fun n hn => ⟨_, List.mem_singleton.1 hn⟩⟩
      · rw [exec_unlink_persist_failed hx he]
        exact ⟨[], by simp, fun n hn => absurd hn List.not_mem_nil⟩
    | ok i =>
      rw [Host.run_openPath_read hr] at hx
      simp only at hx
      rw [exec_bind, exec_attempt] at hx
      have hg := Guard.exec_set_false_host i p st h
      rcases hrun : exec (Guard.set ⟨i, .read⟩ p false) st h with ⟨⟨r, st₁⟩, h₁⟩
      rw [hrun] at hx hg
      simp only at hx hg
      cases r with
      | ok u =>
        rw [exec_unlink_persist_failed hx he, hg]
        exact ⟨[], by simp, fun n hn => absurd hn List.not_mem_nil⟩
      | error e₁ =>
        -- the refused clear is reported
        rw [exec_bind, exec_report] at hx
        rw [exec_unlink_persist_failed hx he, hg]
        exact ⟨_, rfl, fun n hn => ⟨_, List.mem_singleton.1 hn⟩⟩

/-- A chmod that fails leaves the host as it was. -/
theorem exec_chmod_failed {k : VarKey} {mode : Nat}
    (hx : exec (chmod k mode) st h = ((.error e, st'), h')) : h' = h := by
  simp only [chmod, exec_bind, exec_buildPath] at hx
  cases hp : st.config.buildPath k with
  | error e₀ =>
    rw [hp] at hx
    cases hx
    rfl
  | ok p =>
    rw [hp] at hx
    simp only [exec_call] at hx
    have hrun : Host.run (Sys.chmod p mode) h = h.change (h.fs.chmod p mode) := rfl
    rw [hrun] at hx
    cases hc : h.fs.chmod p mode with
    | error e₁ =>
      rw [hc] at hx
      cases hx
      rfl
    | ok fs' =>
      rw [hc] at hx
      cases hx

/-- A delete or a mode change that fails with anything but the fatal copy error keeps every entry,
byte and mode of the tree. A failed mode change leaves the whole host as it was; so does a delete
whose path cannot be built. A delete that got as far as its unlink leaves its best-effort clear:
the word of the file at its path stays without the immutable bit, no call puts the word back,
and the only reports are of a refused clear, never of a failed restore. -/
theorem failed_removal_keeps_all_but_clear (k : VarKey) (mode : Nat) (st st' : Store)
    (h h' : Host) (e : StoreError) :
    (exec (delete k) st h = ((.error e, st'), h') → e.isFatal = false →
      match st.config.buildPath k with
      | .ok p => ∃ ns, h' = { h.clearAt p with notes := h.notes ++ ns } ∧
          ∀ n ∈ ns, ∃ msg, n = .diagnostic ⟨"delete", .clearFailed, some p, msg⟩
      | .error _ => h' = h) ∧
    (exec (chmod k mode) st h = ((.error e, st'), h') → h' = h) :=
  ⟨exec_delete_failed, exec_chmod_failed⟩

/-- The variable `D` of the zero GUID. -/
def dirKey : VarKey := ⟨Guid.zero, "D"⟩

/-- The path of `D` under `vars`. -/
def dirPath : Path := varsConfig.root.join (.ofString dirKey.fileName)

/-- `vars` holds a directory under the file name of `D`, and its flag word has the immutable
bit. -/
def dirTree : Fs :=
  ⟨#[⟨.dir [] 1, 0o755, none⟩, ⟨.dir [(Utf8.encode "vars", 2)] 1, 0o755, none⟩,
    ⟨.dir [(Utf8.encode dirKey.fileName, 3)] 1, 0o755, none⟩, ⟨.dir [] 1, 0o755, some 16⟩]⟩

/-- Deleting `D` clears the bit of the directory, whose unlink then fails: the word stays `0`. -/
theorem failed_delete_of_directory :
    (exec (delete dirKey) { config := varsConfig } { fs := dirTree }).1.1 =
        .error (.ofOs "unlink" dirPath .isDir) ∧
      (exec (delete dirKey) { config := varsConfig } { fs := dirTree }).2.fs =
        (Host.clearAt { fs := dirTree } dirPath).fs ∧
      dirTree.flagsOf 3 0 = 16 ∧ (Host.clearAt { fs := dirTree } dirPath).fs.flagsOf 3 0 = 0 := by
  have hx : exec (delete dirKey) { config := varsConfig } { fs := dirTree } =
      ((.error (.ofOs "unlink" dirPath .isDir),
          (exec (delete dirKey) { config := varsConfig } { fs := dirTree }).1.2),
        (exec (delete dirKey) { config := varsConfig } { fs := dirTree }).2) := by
    rfl
  have hc := (failed_removal_keeps_all_but_clear dirKey 0o644 _ _ _ _ _).1 hx rfl
  have hp : varsConfig.buildPath dirKey = .ok dirPath := by rfl
  simp only [hp] at hc
  obtain ⟨ns, hh, -⟩ := hc
  exact ⟨by rw [hx], by rw [hh], by decide, by decide +kernel⟩

end Store
end FirmwareVars
