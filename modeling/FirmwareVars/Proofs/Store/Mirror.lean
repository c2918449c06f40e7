import FirmwareVars.Proofs.Store.CopyLoop

/-!
# What one pass of the persistence copy does

A pass of the persistence copy (`Persist.replicate`) has three stages, and its outcome is decided
by where the first of them stops:

1. the variable that names the target is read; when it does not exist the pass ends quietly;
2. the name is looked for under each mount point in turn;
3. the payload variable's record, less its header, is copied over the target.

Every reason to stop before the target is opened (`Skips`) ends the pass with `skipped` and one
diagnostic that gives the reason, and changes no file. Once the target is opened it has been
emptied: a payload variable whose file holds a whole header is copied, and the pass answers
with the target and the number of payload bytes; a shorter one, or one that cannot be read, is
the fatal `persistIo` error, and the target stays empty (`replicate_outcome`).

Main statements:
  * `Fs.createTruncate_eq_truncate` — a regular file that opens for writing is emptied in place.
  * `run_locateIn_absent`, `run_locateIn_found` — the search passes over the mount points under
    which the name is missing.
  * `exec_copy_file` — a copy from a regular file.
  * `Skips.exec_replicate` — every reason to stop early gives one diagnostic and changes nothing.
  * `replicate_outcome` — the outcome of a pass, stage by stage.
-/

namespace FirmwareVars

/-! ## §1. Opening the target -/

namespace Fs

/-- Opening a regular file for writing, when it opens, empties it in place. -/
theorem createTruncate_eq_truncate {fs fs' : Fs} {p : Path} {j : Nat} {c : Bytes}
    (hc : fs.createTruncate p = .ok (fs', j)) (hd : fs.read j = .ok c) :
    fs' = fs.truncate j 0 := by
  unfold createTruncate at hc
  cases hl : fs.locate p with
  | error e => rw [hl] at hc; cases hc
  | ok l =>
    rw [hl, ok_bind] at hc
    obtain ⟨t, slash⟩ := l
    cases slash
    · cases t with
      | dirItself k => cases hc
      | entry d name ino =>
        cases ino with
        | some k =>
          simp only [Bool.false_eq_true, ↓reduceIte] at hc
          split at hc
          · cases hc
          · simp only [require] at hc
            split at hc
            · cases hc
              rw [modify_emptied hd]
            · cases hc
        | none =>
          -- a new file is numbered after every inode there was, so it is not `j`
          simp only [Bool.false_eq_true, ↓reduceIte, require] at hc
          split at hc
          · cases hc
            exact absurd (lt_size_of_read hd) (Nat.lt_irrefl _)
          · cases hc
    · cases hc

/-- A regular file emptied and then given `bs`, when there is anything to give, holds `bs`; every
other inode is as it was, and paths resolve as before. -/
theorem read_refilled {fs : Fs} {j : Nat} {c : Bytes} (hj : fs.read j = .ok c) (bs : Bytes) :
    (if bs.isEmpty then fs.truncate j 0 else (fs.truncate j 0).writeAt j 0 bs).read j = .ok bs := by
  split
  · rename_i hbs
    rw [read_truncate_self hj, List.isEmpty_iff.mp hbs]
    simp
  · exact read_emptied_writeAt_self hj bs

theorem read_refilled_ne (fs : Fs) {j k : Nat} (bs : Bytes) (hkj : k ≠ j) :
    (if bs.isEmpty then fs.truncate j 0 else (fs.truncate j 0).writeAt j 0 bs).read k =
      fs.read k := by
  split
  · exact read_truncate_ne fs 0 (Ne.symm hkj)
  · exact read_emptied_writeAt_ne fs bs hkj

theorem sameSkeleton_refilled (fs : Fs) (j : Nat) (bs : Bytes) :
    SameSkeleton fs (if bs.isEmpty then fs.truncate j 0 else (fs.truncate j 0).writeAt j 0 bs) := by
  split
  · exact sameSkeleton_truncate fs j 0
  · exact sameSkeleton_emptied_writeAt fs j bs

end Fs

/-! ## §2. Naming the target -/

namespace Persist

open StoreM Store

variable {spec : PersistSpec} {st : Store} {h : Host}

theorem exec_targetName_error {e : StoreError}
    (hg : (exec (get spec.fileNameKey) st h).1.1 = .error e) :
    exec (targetName spec) st h =
      ((.ok (if e.isNotFound then none
        else some (.error (.lookupFailed spec.fileNameVar e.message))), st), h) := by
  unfold targetName
  rw [exec_bind, exec_attempt, exec_get_reads, hg]
  dsimp only
  split <;> rfl

theorem exec_targetName_ok {v : Variable}
    (hg : (exec (get spec.fileNameKey) st h).1.1 = .ok v) :
    exec (targetName spec) st h =
      ((.ok (if v.data.length > spec.maxFileNameLen then
          some (.error (.nameTooBig v.data.length spec.maxFileNameLen))
        else if (v.data.takeWhile (· != 0)).isEmpty then
          some (.error (.emptyName spec.fileNameVar))
        else some (.ok ⟨v.data.takeWhile (· != 0)⟩)), st), h) := by
  unfold targetName
  rw [exec_bind, exec_attempt, exec_get_reads, hg]
  dsimp only
  split_ifs <;> rfl

/-! ## §3. Looking for the target under the mount points -/

/-- Under none of the mount points `ms` is the candidate too long or present. -/
def Absent (fs : Fs) (pathMax : Nat) (rel : Path) (ms : List Path) : Prop :=
  ∀ m ∈ ms, (m.join rel).bytes.length < pathMax ∧ ∃ e, fs.find (m.join rel) = .error e

section Search

variable {rel name m : Path} {pathMax : Nat} {ms : List Path}

theorem run_locateIn_long (hge : pathMax ≤ (m.join rel).bytes.length) :
    Host.run (locateIn rel pathMax name (m :: ms)) h = (.error (.pathTooBig pathMax), h) := by
  simp only [locateIn, ge_iff_le, hge, ↓reduceIte]
  rfl

theorem run_locateIn_found {i : Nat} (hlt : (m.join rel).bytes.length < pathMax)
    (hf : h.fs.find (m.join rel) = .ok i) :
    Host.run (locateIn rel pathMax name (m :: ms)) h = (.ok (m.join rel), h) := by
  simp only [locateIn, ge_iff_le, Nat.not_le.mpr hlt, ↓reduceIte, Host.run_bind, Host.run_stat,
    hf, Except.map]
  rfl

/-- A mount point under which the name is missing passes the search on to the next. -/
theorem run_locateIn_missing {e : OsError} (hlt : (m.join rel).bytes.length < pathMax)
    (hf : h.fs.find (m.join rel) = .error e) :
    Host.run (locateIn rel pathMax name (m :: ms)) h =
      Host.run (locateIn rel pathMax name ms) h := by
  simp only [locateIn, ge_iff_le, Nat.not_le.mpr hlt, ↓reduceIte, Host.run_bind, Host.run_stat,
    hf, Except.map]

/-- The search passes over the mount points under which the name is missing. -/
theorem run_locateIn_absent {pre : List Path} (ha : Absent h.fs pathMax rel pre) (ms : List Path) :
    Host.run (locateIn rel pathMax name (pre ++ ms)) h =
      Host.run (locateIn rel pathMax name ms) h := by
  induction pre with
  | nil => rfl
  | cons m pre ih =>
    obtain ⟨hlt, e, hf⟩ := ha m List.mem_cons_self
    rw [List.cons_append, run_locateIn_missing hlt hf]
    exact ih fun m' hm' => ha m' (List.mem_cons_of_mem _ hm')

end Search

/-! ## §4. The copy -/

section Copy

variable {target src : Path} {i j : Nat} {fs' : Fs}

theorem exec_copy_sourcePath {e : StoreError}
    (hp : st.config.buildPath spec.payloadKey = .error e) :
    exec (copy spec target) st h = ((.ok (.error (.sourcePath e.message)), st), h) := by
  unfold copy
  simp only [exec_bind, exec_config, hp]
  rfl

theorem exec_copy_sourceUnopened {e : OsError} (hp : st.config.buildPath spec.payloadKey = .ok src)
    (ho : h.fs.openRead src = .error e) :
    exec (copy spec target) st h = ((.ok (.error (.cannotOpen src e)), st), h) := by
  unfold copy
  simp only [exec_bind, exec_config, hp, exec_lift, Host.run_openPath_read_error ho]
  rfl

theorem exec_copy_targetUnopened {e : OsError} (hp : st.config.buildPath spec.payloadKey = .ok src)
    (ho : h.fs.openRead src = .ok i) (hc : h.fs.createTruncate target = .error e) :
    exec (copy spec target) st h = ((.ok (.error (.cannotOpen target e)), st), h) := by
  unfold copy
  simp only [exec_bind, exec_config, hp, exec_lift, Host.run_openPath_read ho,
    Host.run_openPath_createTruncate_error hc]
  rfl

/-- Once both files are open, the header of the payload variable's file is read, and the rest
is copied over the emptied target chunk by chunk, as a file on a local disk gives it; the copy
leaves the filesystem a single write of the rest leaves, and answers with the number of bytes
copied. -/
theorem exec_copy_file {d : Bytes} (hp : st.config.buildPath spec.payloadKey = .ok src)
    (ho : h.fs.openRead src = .ok i) (hc : h.fs.createTruncate target = .ok (fs', j))
    (hd : fs'.read i = .ok d) (hlen : Record.headerLen ≤ d.length) :
    exec (copy spec target) st h =
      ((.ok (.ok (d.length - Record.headerLen)), st),
        { h with fs := if (d.drop Record.headerLen).isEmpty then fs'
          else fs'.writeAt j 0 (d.drop Record.headerLen) }) := by
  have hloop := exec_pump_chunked
    (chunked_fullReads (by decide : 0 < chunkSize) (d.drop Record.headerLen)) fs' j target st []
    (List.replicate chunkSize 0) { h with fs := fs' } rfl
  rw [List.length_nil, List.nil_append, Nat.zero_add, List.length_drop] at hloop
  unfold copy
  simp only [exec_bind, exec_config, hp, exec_lift, Host.run_openPath_read ho,
    Host.run_openPath_createTruncate hc, Host.run_readAt, hd, Except.bind, readSpan]
  rw [if_pos (by omega)]
  simp only [exec_bind, exec_lift, Host.run_readChunks, hd, hloop, exec_pure]

/-- A file shorter than a header cannot be copied, and the target stays empty. -/
theorem exec_copy_short {d : Bytes} (hp : st.config.buildPath spec.payloadKey = .ok src)
    (ho : h.fs.openRead src = .ok i) (hc : h.fs.createTruncate target = .ok (fs', j))
    (hd : fs'.read i = .ok d) (hlen : d.length < Record.headerLen) :
    exec (copy spec target) st h =
      ((.error (.persistIo "skip attribute header" target .shortRead), st),
        { h with fs := fs' }) := by
  unfold copy
  simp only [exec_bind, exec_config, hp, exec_lift, Host.run_openPath_read ho,
    Host.run_openPath_createTruncate hc, Host.run_readAt, hd, Except.bind, readSpan]
  rw [if_neg (by omega)]
  rfl

/-- A payload path that opens but does not read, as a directory does: the target stays empty. -/
theorem exec_copy_unreadable {e : OsError} (hp : st.config.buildPath spec.payloadKey = .ok src)
    (ho : h.fs.openRead src = .ok i) (hc : h.fs.createTruncate target = .ok (fs', j))
    (hd : fs'.read i = .error e) :
    exec (copy spec target) st h =
      ((.error (.persistIo "skip attribute header" target e), st), { h with fs := fs' }) := by
  unfold copy
  simp only [exec_bind, exec_config, hp, exec_lift, Host.run_openPath_read ho,
    Host.run_openPath_createTruncate hc, Host.run_readAt, hd, Except.bind]
  rfl

end Copy

end Persist

/-! ## §5. One pass -/

/-- The host after a pass of the copy during `op` that skips for reason `r`: one diagnostic more,
which gives the reason. -/
def Host.afterSkip (h : Host) (op : String) (r : SkipReason) : Host :=
  { h with notes := h.notes ++
    [.diagnostic ⟨op, .persistSkipped, none, (StoreError.persistUnavailable r).message⟩] }

@[simp] theorem Host.afterSkip_fs (h : Host) (op : String) (r : SkipReason) :
    (h.afterSkip op r).fs = h.fs := rfl

namespace Persist

open StoreM Store

variable {spec : PersistSpec} {op : String} {st : Store} {h : Host} {name target : Path}

section Steps

theorem exec_replicate_unnamed (ht : exec (targetName spec) st h = ((.ok none, st), h)) :
    exec (replicate spec op) st h = ((.ok .skipped, st), h) := by
  unfold replicate
  simp only [exec_bind, ht]
  rfl

theorem exec_replicate_unnameable {r : SkipReason}
    (ht : exec (targetName spec) st h = ((.ok (some (.error r)), st), h)) :
    exec (replicate spec op) st h = ((.ok .skipped, st), h.afterSkip op r) := by
  unfold replicate
  simp only [exec_bind, ht, exec_report]
  rfl

theorem exec_replicate_unplaced {r : SkipReason}
    (ht : exec (targetName spec) st h = ((.ok (some (.ok name)), st), h))
    (hl : Host.run (locateIn (relative name) st.config.pathMax name spec.mountPoints) h =
      (.error r, h)) :
    exec (replicate spec op) st h = ((.ok .skipped, st), h.afterSkip op r) := by
  unfold replicate
  simp only [exec_bind, ht, exec_config, exec_lift, hl, exec_report]
  rfl

/-- Past the search, the pass answers as the copy does; a copy that skips is reported. -/
theorem exec_replicate_placed
    (ht : exec (targetName spec) st h = ((.ok (some (.ok name)), st), h))
    (hl : Host.run (locateIn (relative name) st.config.pathMax name spec.mountPoints) h =
      (.ok target, h)) :
    exec (replicate spec op) st h =
      match exec (copy spec target) st h with
      | ((.ok (.ok n), st'), h') => ((.ok (.replicated target n), st'), h')
      | ((.ok (.error r), st'), h') => ((.ok .skipped, st'), h'.afterSkip op r)
      | ((.error e, st'), h') => ((.error e, st'), h') := by
  unfold replicate
  simp only [exec_bind, ht, exec_config, exec_lift, hl]
  rcases exec (copy spec target) st h with ⟨⟨e | r | n, st'⟩, h'⟩
  · rfl
  · simp only [exec_bind, exec_report]
    rfl
  · rfl

end Steps

/-! ## §6. The outcome of a pass -/

/-- The file-name variable names `name`: its payload is within the limit, and its bytes before
the first NUL, which are `name`, are not empty. -/
def Named (spec : PersistSpec) (st : Store) (h : Host) (name : Path) : Prop :=
  ∃ v, (exec (get spec.fileNameKey) st h).1.1 = .ok v ∧ v.data.length ≤ spec.maxFileNameLen ∧
    v.data.takeWhile (· != 0) ≠ [] ∧ name = ⟨v.data.takeWhile (· != 0)⟩

/-- The target is the first mount point, in order, under which the name exists; the candidates
before it are short and missing. -/
def Locates (spec : PersistSpec) (st : Store) (h : Host) (target : Path) : Prop :=
  ∃ name pre m post, Named spec st h name ∧ spec.mountPoints = pre ++ m :: post ∧
    Absent h.fs st.config.pathMax (relative name) pre ∧
    (m.join (relative name)).bytes.length < st.config.pathMax ∧
    (∃ i, h.fs.find (m.join (relative name)) = .ok i) ∧ target = m.join (relative name)

/-- The ways a pass stops before it opens the target, each with the reason it gives. -/
inductive Skips (spec : PersistSpec) (st : Store) (h : Host) : SkipReason → Prop
  /-- The file-name variable cannot be read, for another reason than that it does not exist. -/
  | lookupFailed {e : StoreError} : (exec (get spec.fileNameKey) st h).1.1 = .error e →
      e.isNotFound = false → Skips spec st h (.lookupFailed spec.fileNameVar e.message)
  | nameTooBig {v : Variable} : (exec (get spec.fileNameKey) st h).1.1 = .ok v →
      spec.maxFileNameLen < v.data.length →
      Skips spec st h (.nameTooBig v.data.length spec.maxFileNameLen)
  | emptyName {v : Variable} : (exec (get spec.fileNameKey) st h).1.1 = .ok v →
      v.data.length ≤ spec.maxFileNameLen → v.data.takeWhile (· != 0) = [] →
      Skips spec st h (.emptyName spec.fileNameVar)
  /-- The search meets a candidate as long as the path limit before it finds the name. -/
  | pathTooBig {name m : Path} {pre post : List Path} : Named spec st h name →
      spec.mountPoints = pre ++ m :: post → Absent h.fs st.config.pathMax (relative name) pre →
      st.config.pathMax ≤ (m.join (relative name)).bytes.length →
      Skips spec st h (.pathTooBig st.config.pathMax)
  | notOnAnyMount {name : Path} : Named spec st h name →
      Absent h.fs st.config.pathMax (relative name) spec.mountPoints →
      Skips spec st h (.notOnAnyMount name.display)
  | sourcePath {target : Path} {e : StoreError} : Locates spec st h target →
      st.config.buildPath spec.payloadKey = .error e → Skips spec st h (.sourcePath e.message)
  | sourceUnopened {target src : Path} {e : OsError} : Locates spec st h target →
      st.config.buildPath spec.payloadKey = .ok src → h.fs.openRead src = .error e →
      Skips spec st h (.cannotOpen src e)
  | targetUnopened {target src : Path} {i : Nat} {e : OsError} : Locates spec st h target →
      st.config.buildPath spec.payloadKey = .ok src → h.fs.openRead src = .ok i →
      h.fs.createTruncate target = .error e → Skips spec st h (.cannotOpen target e)

/-- A pass that reaches the copy: the target `target` is located, the payload variable's file
opens as inode `i`, and the target, a regular file `j` other than `i`, opens for writing. -/
structure Copies (spec : PersistSpec) (st : Store) (h : Host) (target : Path) (i j : Nat) :
    Prop where
  locates : Locates spec st h target
  source : ∃ src, st.config.buildPath spec.payloadKey = .ok src ∧ h.fs.openRead src = .ok i
  opens : ∃ fs', h.fs.createTruncate target = .ok (fs', j)
  regular : ∃ c, h.fs.read j = .ok c
  apart : i ≠ j

theorem Named.exec_targetName (hn : Named spec st h name) :
    exec (targetName spec) st h = ((.ok (some (.ok name)), st), h) := by
  obtain ⟨v, hg, hle, hne, rfl⟩ := hn
  rw [exec_targetName_ok hg, if_neg (Nat.not_lt.mpr hle),
    if_neg (by simpa [List.isEmpty_iff] using hne)]

/-- The name is the one the first stage gives. -/
theorem named_of_exec_targetName
    (ht : (exec (targetName spec) st h).1.1 = .ok (some (.ok name))) : Named spec st h name := by
  cases hg : (exec (get spec.fileNameKey) st h).1.1 with
  | error e =>
    rw [exec_targetName_error hg] at ht
    split at ht <;> cases ht
  | ok v =>
    rw [exec_targetName_ok hg] at ht
    split_ifs at ht with hlt hempty
    · cases ht
    · cases ht
    · cases ht
      exact ⟨v, hg, Nat.not_lt.mp hlt, fun he => hempty (by rw [he]; rfl), rfl⟩

theorem Locates.run_locateIn (hl : Locates spec st h target) :
    ∃ name, Named spec st h name ∧
      Host.run (locateIn (relative name) st.config.pathMax name spec.mountPoints) h =
        (.ok target, h) := by
  obtain ⟨name, pre, m, post, hn, hms, ha, hlt, ⟨i, hf⟩, rfl⟩ := hl
  refine ⟨name, hn, ?_⟩
  rw [hms, run_locateIn_absent ha, run_locateIn_found hlt hf]

/-- Once the target is located, the pass answers as the copy does. -/
theorem Locates.exec_replicate (hl : Locates spec st h target) :
    exec (replicate spec op) st h =
      match exec (copy spec target) st h with
      | ((.ok (.ok n), st'), h') => ((.ok (.replicated target n), st'), h')
      | ((.ok (.error r), st'), h') => ((.ok .skipped, st'), h'.afterSkip op r)
      | ((.error e, st'), h') => ((.error e, st'), h') := by
  obtain ⟨name, hn, hrun⟩ := hl.run_locateIn
  exact exec_replicate_placed hn.exec_targetName hrun

/-- Every reason to stop before the target is opened ends the pass with one diagnostic that gives
the reason, and leaves the store and the files as they were. -/
theorem Skips.exec_replicate {r : SkipReason} (hs : Skips spec st h r) :
    exec (replicate spec op) st h = ((.ok .skipped, st), h.afterSkip op r) := by
  cases hs with
  | lookupFailed hg hnf =>
    apply exec_replicate_unnameable
    rw [exec_targetName_error hg, hnf]
    rfl
  | nameTooBig hg hlt =>
    apply exec_replicate_unnameable
    rw [exec_targetName_ok hg, if_pos hlt]
  | emptyName hg hle hempty =>
    apply exec_replicate_unnameable
    rw [exec_targetName_ok hg, if_neg (Nat.not_lt.mpr hle), if_pos (by simp [hempty])]
  | pathTooBig hn hms ha hge =>
    apply exec_replicate_unplaced hn.exec_targetName
    rw [hms, run_locateIn_absent ha, run_locateIn_long hge]
  | notOnAnyMount hn ha =>
    apply exec_replicate_unplaced hn.exec_targetName
    rw [← List.append_nil spec.mountPoints, run_locateIn_absent ha]
    rfl
  | sourcePath hl hp =>
    rw [hl.exec_replicate, exec_copy_sourcePath hp]
  | sourceUnopened hl hp ho =>
    rw [hl.exec_replicate, exec_copy_sourceUnopened hp ho]
  | targetUnopened hl hp ho hc =>
    rw [hl.exec_replicate, exec_copy_targetUnopened hp ho hc]

/-- A pass that reaches the copy has emptied the target, and has left the payload variable's file
as it was. -/
theorem Copies.opened {target : Path} {i j : Nat} (hc : Copies spec st h target i j) :
    ∃ src, st.config.buildPath spec.payloadKey = .ok src ∧ h.fs.openRead src = .ok i ∧
      h.fs.createTruncate target = .ok (h.fs.truncate j 0, j) ∧
      (h.fs.truncate j 0).read i = h.fs.read i := by
  obtain ⟨src, hp, ho⟩ := hc.source
  obtain ⟨fs', hct⟩ := hc.opens
  obtain ⟨c, hj⟩ := hc.regular
  rw [Fs.createTruncate_eq_truncate hct hj] at hct
  exact ⟨src, hp, ho, hct, Fs.read_truncate_ne _ 0 (Ne.symm hc.apart)⟩

/-- The outcome of one pass of the persistence copy during `op`, stage by stage.

* When the file-name variable does not exist, the pass skips, quietly.
* For every reason `r` to stop before the target is opened (`Skips`), the pass skips with one
  diagnostic that gives `r`; the store and the files stay as they were.
* Otherwise the target, the first mount point under which the name exists, has been emptied. A
  payload variable's file `d` of a whole header is copied: the pass answers with the target and
  the number of bytes after the header, the target holds them, and nothing else changes.
* A file shorter than a header, or one that cannot be read, is the fatal error, and the target
  stays empty. -/
theorem replicate_outcome (spec : PersistSpec) (op : String) (st : Store) (h : Host) :
    (∀ e, (exec (get spec.fileNameKey) st h).1.1 = .error e → e.isNotFound = true →
        exec (replicate spec op) st h = ((.ok .skipped, st), h)) ∧
      (∀ r, Skips spec st h r →
        exec (replicate spec op) st h = ((.ok .skipped, st), h.afterSkip op r)) ∧
      (∀ target i j d, Copies spec st h target i j → h.fs.read i = .ok d →
        Record.headerLen ≤ d.length →
        ∃ fs', exec (replicate spec op) st h =
            ((.ok (.replicated target (d.length - Record.headerLen)), st), { h with fs := fs' }) ∧
          fs'.read j = .ok (d.drop Record.headerLen) ∧ (∀ k, k ≠ j → fs'.read k = h.fs.read k) ∧
          Fs.SameSkeleton h.fs fs') ∧
      (∀ target i j d, Copies spec st h target i j → h.fs.read i = .ok d →
        d.length < Record.headerLen →
        exec (replicate spec op) st h =
          ((.error (.persistIo "skip attribute header" target .shortRead), st),
            { h with fs := h.fs.truncate j 0 })) ∧
      (∀ target i j e, Copies spec st h target i j → h.fs.read i = .error e →
        exec (replicate spec op) st h =
          ((.error (.persistIo "skip attribute header" target e), st),
            { h with fs := h.fs.truncate j 0 })) := by
  refine ⟨fun e hg hnf => ?_, fun r hs => hs.exec_replicate, fun target i j d hc hd hlen => ?_,
    fun target i j d hc hd hlen => ?_, fun target i j e hc hd => ?_⟩
  · -- the name is missing: nothing to do
    apply exec_replicate_unnamed
    rw [exec_targetName_error hg, hnf]
    rfl
  all_goals obtain ⟨src, hp, ho, hct, hread⟩ := hc.opened
  · obtain ⟨c, hj⟩ := hc.regular
    refine ⟨_, ?_, Fs.read_refilled hj _, fun k hk => Fs.read_refilled_ne _ _ hk,
      Fs.sameSkeleton_refilled _ _ _⟩
    rw [hc.locates.exec_replicate, exec_copy_file hp ho hct (hread.trans hd) hlen]
  · rw [hc.locates.exec_replicate, exec_copy_short hp ho hct (hread.trans hd) hlen]
  · rw [hc.locates.exec_replicate, exec_copy_unreadable hp ho hct (hread.trans hd)]

/-- On `mirrorTree`, a pass reaches the copy: the control variable names `target`, found under
`esp`, and the payload variable's file, inode 5, and the target, inode 6, both open. -/
theorem copies_mirror_target :
    Copies { PersistSpec.default with mountPoints := [.ofString "esp"] }
      { config := mirrorConfig } { fs := mirrorTree } (.ofString "esp/target") 5 6 where
  locates := ⟨⟨Utf8.encode "target"⟩, [], .ofString "esp", [],
      named_of_exec_targetName (by decide +kernel), rfl, fun _ hm => absurd hm List.not_mem_nil,
      by decide +kernel, ⟨6, by decide +kernel⟩, by decide +kernel⟩
  source := ⟨_, (Config.buildPath_ok_iff _ _ _).mpr ⟨rfl, by decide +kernel⟩, by decide +kernel⟩
  opens := by
    -- `Fs` has no decidable equality: compute the inode the target opens as, and take the rest
    have h6 : (mirrorTree.createTruncate (.ofString "esp/target")).toOption.map Prod.snd =
        some 6 := by decide +kernel
    revert h6
    cases mirrorTree.createTruncate (.ofString "esp/target") with
    | error e => intro h6; cases h6
    | ok r =>
      obtain ⟨fs', j⟩ := r
      intro h6
      cases h6
      exact ⟨fs', rfl⟩
  regular := ⟨[0xff], rfl⟩
  apart := by decide

/-- With the target `esp/target` named by the control variable, a pass copies the two payload
bytes of the payload variable over it. -/
theorem replicate_outcome_mirror :
    ∃ fs', exec (replicate { PersistSpec.default with mountPoints := [.ofString "esp"] } "set")
          { config := mirrorConfig } { fs := mirrorTree } =
        ((.ok (.replicated (.ofString "esp/target") 2), { config := mirrorConfig }),
          { ({ fs := mirrorTree } : Host) with fs := fs' }) ∧
      fs'.read 6 = .ok [0xaa, 0xbb] ∧ (∀ k, k ≠ 6 → fs'.read k = mirrorTree.read k) ∧
      Fs.SameSkeleton mirrorTree fs' :=
  (replicate_outcome _ "set" _ _).2.2.1 _ 5 6 [7, 0, 0, 0, 0xaa, 0xbb] copies_mirror_target rfl
    (by decide)

end Persist

end FirmwareVars
