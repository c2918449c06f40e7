import FirmwareVars.Proofs.Store.Failure

/-!
# A variable's size and its contents

The size of a variable is read without opening its file: `Store.getSize` takes the length a
`stat` of the path reports and subtracts the header. `Store.get` opens the path and reads the
record through the descriptor. The two answer alike exactly where a `stat` reports the number of
bytes a read finds, and where whatever opening needs beyond a lookup is granted: for a path that
names nothing, and for a regular file the caller may read (`getSize_agrees_with_get`). Both then
fail with the same kind of error: a name that is missing is not found, a file shorter than the
header is corrupt.

Everywhere else they part, by design: a directory reports a size of whole blocks but cannot be
read, and a file the caller may not read still has a length (`getSize_answers_where_get_fails`).

Main statements:
  * `exec_get_of_read`, `exec_getSize_of_find` — each read as the filesystem's own answers.
  * `getSize_agrees_with_get` — on a missing name or a readable regular file, the size is the
    payload's length and the errors are of one kind.
  * `getSize_answers_where_get_fails` — on a directory or an unreadable file, the size is
    answered while the read fails.
-/

namespace FirmwareVars

/-! ## §1. Kinds of errors -/

namespace StoreError

/-- What a caller can tell of an error without its data: which of the twelve causes it is. -/
inductive Kind where
  | invalidArgument
  | overflow
  | pathTooLong
  | notFound
  | corruptRecord
  | race
  | writeFailed
  | permissionDenied
  | io
  | mirrorUnavailable
  | mirrorIo
  | serialization
  deriving DecidableEq

/-- The kind of an error. -/
def kind : StoreError → Kind
  | .invalidArgument _ => .invalidArgument
  | .overflow _ => .overflow
  | .pathTooLong .. => .pathTooLong
  | .notFound _ => .notFound
  | .corrupt .. => .corruptRecord
  | .race .. => .race
  | .shortWrite .. => .writeFailed
  | .permissionDenied .. => .permissionDenied
  | .io .. => .io
  | .persistUnavailable _ => .mirrorUnavailable
  | .persistIo .. => .mirrorIo
  | .serialization _ => .serialization

/-- The kind of a filesystem failure depends only on the system's error, not on the operation
or the path it names. -/
theorem kind_ofOs (op op' : String) (p p' : Path) (e : OsError) :
    (ofOs op p e).kind = (ofOs op' p' e).kind := by
  unfold ofOs
  split_ifs <;> rfl

end StoreError

/-! ## §2. Opening a path -/

namespace Fs

variable {fs : Fs} {p : Path}

theorem openRead_of_find_error {e : OsError} (hf : fs.find p = .error e) :
    fs.openRead p = .error e := by
  unfold openRead
  rw [hf]
  rfl

theorem openRead_of_find {i : Nat} (hf : fs.find p = .ok i) :
    fs.openRead p = if fs.allows i readBit then .ok i else .error .accessDenied := by
  unfold openRead
  rw [hf, ok_bind]
  unfold require
  by_cases ha : fs.allows i readBit <;> simp only [ha, ↓reduceIte, Bool.false_eq_true] <;> rfl

theorem read_of_isDir {i : Nat} (hd : fs.isDir i) : fs.read i = .error .isDir := by
  unfold isDir at hd
  unfold Fs.read
  split at hd <;> simp_all

/-- A read never ends early: a file is read whole. -/
theorem read_ne_shortRead {i : Nat} : fs.read i ≠ .error .shortRead := by
  unfold Fs.read
  split <;> simp <;> decide

end Fs

/-! ## §3. The two reads, call by call -/

namespace Store

open StoreM Fs

variable {st : Store} {h : Host} {k : VarKey} {p : Path}

theorem exec_get_of_buildPath_error {e : StoreError} (hp : st.config.buildPath k = .error e) :
    exec (get k) st h = ((.error e, st), h) := by
  unfold get
  rw [exec_bind_error (by rw [exec_buildPath, hp])]

theorem exec_getSize_of_buildPath_error {e : StoreError} (hp : st.config.buildPath k = .error e) :
    exec (getSize k) st h = ((.error e, st), h) := by
  unfold getSize
  rw [exec_bind_error (by rw [exec_buildPath, hp])]

theorem exec_get_of_open_error {e : OsError} (hp : st.config.buildPath k = .ok p)
    (ho : h.fs.openRead p = .error e) :
    exec (get k) st h = ((.error (.ofOs "open" p e), st), h) := by
  unfold get
  simp only [exec_bind, exec_buildPath, hp, exec_call, Host.run_openPath_read_error ho]

/-- A read of an opened path that the file cannot answer, as a directory cannot. -/
theorem exec_get_of_read_error {i : Nat} {e : OsError} (hp : st.config.buildPath k = .ok p)
    (ho : h.fs.openRead p = .ok i) (hr : h.fs.read i = .error e) :
    exec (get k) st h = ((.error (.ofOs "read" p e), st), h) := by
  -- the read failed, and not by ending early: the match on its error takes the general case
  have he : e ≠ .shortRead := fun he => read_ne_shortRead (he ▸ hr)
  unfold get
  simp only [exec_bind, exec_buildPath, hp, exec_call, Host.run_openPath_read ho, exec_lift,
    Host.run_readAt, hr, Except.bind, exec_throw]

/-- A read of an opened file: the record it holds, or corrupt when it is shorter than the
header. -/
theorem exec_get_of_read {i : Nat} {d : Bytes} (hp : st.config.buildPath k = .ok p)
    (ho : h.fs.openRead p = .ok i) (hd : h.fs.read i = .ok d) :
    exec (get k) st h =
      ((match Record.decode? d with
        | some v => .ok v
        | none => .error (.corrupt p .shortHeader), st), h) := by
  unfold get
  simp only [exec_bind, exec_buildPath, hp, exec_call, Host.run_openPath_read ho, exec_lift,
    Host.run_readAt, hd, Except.bind, readSpan, Record.decode?, Nat.zero_add, List.drop_zero]
  -- the header is read whole, or the file ends first
  by_cases hlen : d.length < Record.headerLen
  · simp only [hlen, if_true, show ¬ Record.headerLen ≤ d.length by omega, if_false]
    rfl
  · simp only [hlen, if_false, show Record.headerLen ≤ d.length by omega, if_true, pure_bind,
      exec_bind, exec_call, Host.run_readAt, hd, Except.bind, readSpan]
    rfl

/-- A read changes neither the store nor the host, whatever it answers. -/
theorem exec_get_reads (k : VarKey) (st : Store) (h : Host) :
    exec (get k) st h = (((exec (get k) st h).1.1, st), h) := by
  cases hp : st.config.buildPath k with
  | error e => rw [exec_get_of_buildPath_error hp]
  | ok p =>
    cases ho : h.fs.openRead p with
    | error e => rw [exec_get_of_open_error hp ho]
    | ok i =>
      cases hr : h.fs.read i with
      | error e => rw [exec_get_of_read_error hp ho hr]
      | ok d => rw [exec_get_of_read hp ho hr]

theorem exec_getSize_of_find_error {e : OsError} (hp : st.config.buildPath k = .ok p)
    (hf : h.fs.find p = .error e) :
    exec (getSize k) st h = ((.error (.ofOs "stat" p e), st), h) := by
  unfold getSize
  simp only [exec_bind, exec_buildPath, hp, exec_call, Host.run_stat, hf, Except.map]

/-- The size is the length `stat` reports less the header, whatever the path names. -/
theorem exec_getSize_of_find {i : Nat} (hp : st.config.buildPath k = .ok p)
    (hf : h.fs.find p = .ok i) :
    exec (getSize k) st h =
      ((if h.fs.size i < Record.headerLen then
          .error (.corrupt p (.shorterThanHeader (h.fs.size i)))
        else .ok (h.fs.size i - Record.headerLen), st), h) := by
  unfold getSize
  simp only [exec_bind, exec_buildPath, hp, exec_call, Host.run_stat, hf, Except.map]
  split_ifs <;> rfl

end Store

/-! ## §4. Where the two agree -/

/-- A size answer `s` agrees with a read answer `g`: the size is answered exactly when the read is,
as the length of its payload, and an error of either comes with an error of the same kind from
the other. -/
structure SizeAgrees (g : Except StoreError Variable) (s : Except StoreError Nat) : Prop where
  ok_iff : ∀ n, s = .ok n ↔ ∃ v, g = .ok v ∧ v.data.length = n
  kind_of_size : ∀ e, s = .error e → ∃ e', g = .error e' ∧ e'.kind = e.kind
  kind_of_get : ∀ e, g = .error e → ∃ e', s = .error e' ∧ e'.kind = e.kind

namespace SizeAgrees

theorem errors {e e' : StoreError} (hk : e.kind = e'.kind) : SizeAgrees (.error e) (.error e') where
  ok_iff n := by simp
  kind_of_size e₀ hs := by
    cases hs
    exact ⟨e, rfl, hk⟩
  kind_of_get e₀ hg := by
    cases hg
    exact ⟨e', rfl, hk.symm⟩

theorem oks (v : Variable) : SizeAgrees (.ok v) (.ok v.data.length) where
  ok_iff n := by
    constructor
    · intro hs
      cases hs
      exact ⟨v, rfl, rfl⟩
    · rintro ⟨v', hv', rfl⟩
      cases hv'
      rfl
  kind_of_size e hs := by cases hs
  kind_of_get e hg := by cases hg

end SizeAgrees

namespace Store

open StoreM Fs

variable {st : Store} {h : Host} {k : VarKey} {p : Path}

/-- On a regular file the caller may read, the read decodes the file's bytes and the size is their
number less the header. -/
theorem reads_of_file {i : Nat} {d : Bytes} (hp : st.config.buildPath k = .ok p)
    (hf : h.fs.find p = .ok i) (hd : h.fs.read i = .ok d) (hr : h.fs.allows i readBit) :
    SizeAgrees (exec (get k) st h).1.1 (exec (getSize k) st h).1.1 ∧
      (d.length < Record.headerLen →
        (exec (get k) st h).1.1 = .error (.corrupt p .shortHeader) ∧
        (exec (getSize k) st h).1.1 = .error (.corrupt p (.shorterThanHeader d.length))) := by
  have ho : h.fs.openRead p = .ok i := by rw [openRead_of_find hf, if_pos hr]
  rw [exec_get_of_read hp ho hd, exec_getSize_of_find hp hf, size_of_read hd]
  unfold Record.decode?
  by_cases hlen : d.length < Record.headerLen
  · rw [if_pos hlen, if_pos hlen]
    exact ⟨.errors rfl, fun _ => ⟨rfl, rfl⟩⟩
  · rw [if_neg hlen, if_neg hlen]
    have hdata : (d.drop Record.headerLen).length = d.length - Record.headerLen := List.length_drop
    rw [← hdata]
    exact ⟨.oks _, fun h' => absurd h' hlen⟩

/-- Where the variable's path names nothing, or a regular file the caller may read, the size is
answered exactly when the variable is, as the length of its payload, and each fails with an
error of the kind the other fails with: not found where nothing is named, corrupt where the
file is shorter than the header. -/
theorem getSize_agrees_with_get (k : VarKey) (st : Store) (h : Host)
    (hfile : ∀ p i, st.config.buildPath k = .ok p → h.fs.find p = .ok i →
      (∃ d, h.fs.read i = .ok d) ∧ h.fs.allows i readBit) :
    SizeAgrees (exec (get k) st h).1.1 (exec (getSize k) st h).1.1 ∧
      (∀ p, st.config.buildPath k = .ok p → h.fs.find p = .error .noEntry →
        (exec (get k) st h).1.1 = .error (.notFound p) ∧
          (exec (getSize k) st h).1.1 = .error (.notFound p)) ∧
      (∀ p i d, st.config.buildPath k = .ok p → h.fs.find p = .ok i → h.fs.read i = .ok d →
        d.length < Record.headerLen →
        (exec (get k) st h).1.1 = .error (.corrupt p .shortHeader) ∧
          (exec (getSize k) st h).1.1 = .error (.corrupt p (.shorterThanHeader d.length))) := by
  cases hp : st.config.buildPath k with
  | error e =>
    -- the path is refused before any call: both fail with that refusal
    rw [exec_get_of_buildPath_error hp, exec_getSize_of_buildPath_error hp]
    refine ⟨.errors rfl, fun _ hp' => ?_, fun _ _ _ hp' => ?_⟩ <;> cases hp'
  | ok p =>
    cases hf : h.fs.find p with
    | error e =>
      -- nothing to open or stat: the same system error, reported by each
      rw [exec_get_of_open_error hp (openRead_of_find_error hf), exec_getSize_of_find_error hp hf]
      refine ⟨.errors (StoreError.kind_ofOs _ _ _ _ e), fun p' hp' he => ?_,
        fun p' _ _ hp' hf' => ?_⟩
      · cases hp'
        rw [hf] at he
        cases he
        exact ⟨rfl, rfl⟩
      · cases hp'
        rw [hf] at hf'
        cases hf'
    | ok i =>
      obtain ⟨⟨d, hd⟩, hr⟩ := hfile p i hp hf
      obtain ⟨hagree, hshort⟩ := reads_of_file hp hf hd hr
      refine ⟨hagree, fun p' hp' hf' => ?_, fun p' i' d' hp' hf' hd' hlen => ?_⟩
      · cases hp'
        rw [hf] at hf'
        cases hf'
      · cases hp'
        rw [hf] at hf'
        cases hf'
        rw [hd] at hd'
        cases hd'
        exact hshort hlen

/-- `vars` holding one record `rec`, under the file name of `RO`. -/
def recordTree (rec : Bytes) : Fs :=
  ⟨#[⟨.dir [] 1, 0o755, none⟩, ⟨.dir [(Utf8.encode "vars", 2)] 1, 0o755, none⟩,
    ⟨.dir [(Utf8.encode roKey.fileName, 3)] 1, 0o755, none⟩, ⟨.file rec, 0o644, none⟩]⟩

/-- On a record of one payload byte, the two agree. -/
theorem getSize_agrees_with_get_record :
    (∀ p i, varsConfig.buildPath roKey = .ok p → (recordTree [7, 0, 0, 0, 1]).find p = .ok i →
      (∃ d, (recordTree [7, 0, 0, 0, 1]).read i = .ok d) ∧
        (recordTree [7, 0, 0, 0, 1]).allows i readBit) ∧
    SizeAgrees (exec (get roKey) { config := varsConfig } { fs := recordTree [7, 0, 0, 0, 1] }).1.1
      (exec (getSize roKey) { config := varsConfig } { fs := recordTree [7, 0, 0, 0, 1] }).1.1 := by
  have hfile : ∀ p i, varsConfig.buildPath roKey = .ok p →
      (recordTree [7, 0, 0, 0, 1]).find p = .ok i →
      (∃ d, (recordTree [7, 0, 0, 0, 1]).read i = .ok d) ∧
        (recordTree [7, 0, 0, 0, 1]).allows i readBit := by
    intro p i hp hf
    have hpath : varsConfig.buildPath roKey = .ok (varsConfig.root.join (.ofString roKey.fileName)) :=
      by rfl
    rw [hpath] at hp
    cases hp
    have h3 : (recordTree [7, 0, 0, 0, 1]).find (varsConfig.root.join (.ofString roKey.fileName)) =
        .ok 3 := by decide +kernel
    rw [h3] at hf
    cases hf
    exact ⟨⟨_, rfl⟩, rfl⟩
  exact ⟨hfile, (getSize_agrees_with_get roKey { config := varsConfig }
    { fs := recordTree [7, 0, 0, 0, 1] } hfile).1⟩

/-! ## §5. Where they part -/

/-- On a directory, or on a file the caller may not read, the read fails while the size is still
answered from the length `stat` reports. -/
theorem getSize_answers_where_get_fails {i : Nat} (hp : st.config.buildPath k = .ok p)
    (hf : h.fs.find p = .ok i) (hsize : Record.headerLen ≤ h.fs.size i)
    (hno : h.fs.isDir i ∨ h.fs.allows i readBit = false) :
    (∃ e, (exec (get k) st h).1.1 = .error e) ∧
      (exec (getSize k) st h).1.1 = .ok (h.fs.size i - Record.headerLen) := by
  refine ⟨?_, by rw [exec_getSize_of_find hp hf, if_neg (by omega)]⟩
  by_cases hr : h.fs.allows i readBit
  · -- readable, so a directory: it opens, and its read fails
    have hd : h.fs.isDir i := hno.resolve_right (by simp [hr])
    have ho : h.fs.openRead p = .ok i := by rw [openRead_of_find hf, if_pos hr]
    exact ⟨_, by rw [exec_get_of_read_error hp ho (read_of_isDir hd)]⟩
  · have ho : h.fs.openRead p = .error .accessDenied := by rw [openRead_of_find hf, if_neg hr]
    exact ⟨_, by rw [exec_get_of_open_error hp ho]⟩

/-- A directory at the path of `D`: the read fails on it, while the size is that of its one block
less the header. -/
theorem directory_sized_but_unread :
    (exec (get dirKey) { config := varsConfig } { fs := dirTree }).1.1 =
        .error (.ofOs "read" dirPath .isDir) ∧
      (exec (getSize dirKey) { config := varsConfig } { fs := dirTree }).1.1 = .ok 4092 := by
  have hp : varsConfig.buildPath dirKey = .ok dirPath := by rfl
  have hf : dirTree.find dirPath = .ok 3 := by decide +kernel
  have ho : dirTree.openRead dirPath = .ok 3 := by rw [openRead_of_find hf]; rfl
  refine ⟨?_, ?_⟩
  · rw [exec_get_of_read_error hp ho (read_of_isDir rfl)]
  · rw [exec_getSize_of_find hp hf]
    rfl

end Store

end FirmwareVars
