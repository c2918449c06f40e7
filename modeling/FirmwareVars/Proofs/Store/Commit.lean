import FirmwareVars.Proofs.Store.Window

/-!
# What a successful write does

The store writes a variable's file as one name in its root directory. This module follows
`Store.set` through a quiet host whose root path leads to a directory the caller may search and
write into, for a key whose path and staging paths fit the system's limits:

* on an existing, readable and writable file the record replaces the file's bytes, or the payload
  is added at its end when the attributes carry the append bit (`exec_set_present`);
* on a free name a staging file is created, written, linked into place and unlinked again, so the
  directory gains exactly the new file (`exec_set_absent`).

Either way the flag words may change (the immutable window) but nothing else does, and the root
directory stays where it was (`Store.RootAt`). Reads through `Store.get` and `Store.getSize` see
the bytes of the file.
-/

namespace FirmwareVars

namespace Store

open StoreM Fs

/-! ## §1. Where the store writes -/

/-- The store has decided, or will decide, that its root is not the variable filesystem: the
host reports its own filesystem type for every path, and the configured magic is another. -/
def PlainRoot (st : Store) : Prop :=
  st.varfsRoot = some false ∨ (st.varfsRoot = none ∧ st.config.fsMagic ≠ .host)

/-- Where a store writes: its root path walks through directories to directory `r`, which the
caller may search and write into; the root path holds no NUL byte and the working directory
exists. -/
structure RootAt (root : Path) (fs : Fs) (r : Nat) : Prop where
  walk : ∃ stk, fs.walkDirs root.start root.names = .ok stk ∧ stk.headD cwd = r
  isDir : fs.isDir r
  search : fs.allows r searchBit
  write : fs.allows r writeBit
  nul_not_mem : (0 : UInt8) ∉ root.bytes
  cwd_lt : cwd < fs.inodes.size

/-- A change that keeps the directories keeps where the store writes. -/
theorem RootAt.keeps {root : Path} {fs fs' : Fs} {r : Nat} (h : RootAt root fs r)
    (hk : KeepsDirs fs fs') : RootAt root fs' r := by
  obtain ⟨stk, hw, hhead⟩ := h.walk
  have hr : r < fs.inodes.size := lt_size_of_isDir h.isDir
  -- the walk starts at the host root or the working directory, which both exist
  have hstart : ∀ j ∈ root.start, j < fs.inodes.size := by
    have hcwd := h.cwd_lt
    have hhost : hostRoot < fs.inodes.size := by
      have : hostRoot < cwd := by decide
      omega
    intro j hj
    unfold Path.start at hj
    split at hj
    · rw [List.mem_singleton] at hj
      rw [hj]
      exact hhost
    · rcases List.mem_cons.mp hj with rfl | hj
      · exact hcwd
      · rw [List.mem_singleton] at hj
        rw [hj]
        exact hhost
  have hne : root.start ≠ [] := by
    unfold Path.start
    split <;> simp
  refine ⟨⟨stk, hk.walkDirs _ _ _ hne hstart hw, hhead⟩, hk.isDir r h.isDir, ?_, ?_,
    h.nul_not_mem, Nat.lt_of_lt_of_le h.cwd_lt hk.size_le⟩
  · rw [hk.allows r hr searchBit ownerBit_search]
    exact h.search
  · rw [hk.allows r hr writeBit ownerBit_write]
    exact h.write

/-- A key the store can write: its name holds no `/` or NUL and is short enough, and its path
fits under the configured limit and the system's limits. -/
structure KeyFits (c : Config) (k : VarKey) : Prop where
  safe : k.PathSafe
  name_le : Utf8.size k.name ≤ VarKey.maxNameLen
  path_lt : (c.root.join (.ofString k.fileName)).bytes.length < c.pathMax
  limits : (c.root.join (.ofString k.fileName)).WithinLimits

section Key

variable {c : Config} {k : VarKey} {fs : Fs} {r : Nat}

theorem KeyFits.plain (hk : KeyFits c k) : Path.Plain (Utf8.encode k.fileName) :=
  hk.limits.plain (VarKey.fileName_name hk.safe)

/-- A key's path resolves to the entry of its file name in the root directory. -/
theorem locate_key (hroot : RootAt c.root fs r) (hk : KeyFits c k) :
    fs.locate (c.root.join (.ofString k.fileName)) =
      .ok ⟨.entry r (Utf8.encode k.fileName) (fs.lookupIn r (Utf8.encode k.fileName)), false⟩ := by
  obtain ⟨stk, hw, rfl⟩ := hroot.walk
  have hfits : (c.root.join ⟨Utf8.encode k.fileName⟩).Fits :=
    hk.limits.fits (VarKey.fileName_name hk.safe) hroot.nul_not_mem
      (VarKey.nul_not_mem_fileName hk.safe)
  exact locate_join hk.plain hfits hw hroot.search

/-- A staging path within the limits resolves to the entry of its staging name in the root
directory. -/
theorem locate_staging (hroot : RootAt c.root fs r) (hk : KeyFits c k) {process seq : Nat}
    (hs : (stagingPath (c.root.join (.ofString k.fileName)) process seq).WithinLimits) :
    fs.locate (stagingPath (c.root.join (.ofString k.fileName)) process seq) =
      .ok ⟨.entry r (k.stagingName process seq) (fs.lookupIn r (k.stagingName process seq)),
        false⟩ := by
  obtain ⟨stk, hw, rfl⟩ := hroot.walk
  have hname := VarKey.stagingName_name hk.safe process seq
  have hpath := VarKey.stagingPath_join hk.safe c.root process seq
  obtain ⟨base, hbase, -, -, hbytes⟩ :=
    Path.withFileName_join c.root (VarKey.fileName_name hk.safe) (k.stagingName process seq)
  rw [show Path.ofString k.fileName = ⟨Utf8.encode k.fileName⟩ from rfl, hpath, hbase] at hs ⊢
  -- the base of the staging path is made of the root's bytes and separators
  have hbase0 : (0 : UInt8) ∉ base.bytes := by
    intro h0
    rcases hbytes 0 h0 with h | h
    · exact absurd h (by decide)
    · exact hroot.nul_not_mem h
  have hfits : (base.join ⟨k.stagingName process seq⟩).Fits :=
    hs.fits hname hbase0 (VarKey.nul_not_mem_stagingName hk.safe process seq)
  rw [← hbase]
  rw [← hbase] at hfits
  exact locate_withFileName (VarKey.fileName_name hk.safe) (hs.plain hname) hfits hw hroot.search

end Key

/-! ## §2. The root's kind -/

/-- The host reports its own filesystem type, whatever the path. -/
theorem statfs_eq_host {fs : Fs} {p : Path} {m : FsMagic} (h : fs.statfs p = .ok m) :
    m = .host := by
  unfold Fs.statfs at h
  split at h
  · cases h
  · cases hf : fs.find p with
    | error e =>
      rw [hf] at h
      cases h
    | ok i =>
      rw [hf] at h
      cases h
      rfl

/-- On a plain root the store finds that its root is not the variable filesystem, and keeps that
answer. -/
theorem exec_isVarfsRoot {st : Store} (hp : PlainRoot st) (h : Host) :
    exec isVarfsRoot st h = ((.ok false, { st with varfsRoot := some false }), h) := by
  unfold isVarfsRoot
  rw [exec_bind_ok (exec_get st h)]
  rcases hp with hc | ⟨hc, hm⟩
  · -- the answer is cached
    obtain ⟨c, process, count, cached⟩ := st
    simp only at hc
    subst hc
    rfl
  · simp only [hc]
    rw [exec_bind, exec_lift, Host.run_statfs]
    -- whatever `statfs` answers, it is not the configured magic
    cases hs : h.fs.statfs st.config.root with
    | error e => rfl
    | ok m =>
      have hne : (m == st.config.fsMagic) = false := by
        rw [statfs_eq_host hs]
        simpa using fun h' => hm h'.symm
      simp only [hne]
      rfl

/-! ## §3. Replacing an existing file -/

theorem exec_writeOnce_write (i : Nat) (p : Path) (bytes : Bytes) (st : Store) (h : Host) :
    exec (writeOnce ⟨i, .write⟩ p bytes) st h =
      ((.ok (), st), { h with fs := h.fs.writeAt i 0 bytes }) := by
  simp only [writeOnce, exec_bind, exec_call, Host.run_write_write, ne_eq, not_true_eq_false,
    ↓reduceIte, exec_pure]

theorem exec_replace {st : Store} {h : Host} {p : Path} {i : Nat} (a : Attributes) (bytes : Bytes)
    (hq : h.Quiet) (hp : PlainRoot st) (hw : h.fs.openWrite p = .ok i) :
    ∃ h', exec (replace p ⟨i, .read⟩ a bytes) st h =
        ((.ok (), if a.isAppend then st else { st with varfsRoot := some false }), h') ∧
      Host.FlagsOnly { h with fs := if a.isAppend then h.fs.append i bytes
        else (h.fs.writeAt i 0 bytes).truncate i bytes.length } h' := by
  unfold replace
  rw [Guard.exec_windowed]
  have hf1 := Guard.openWindow_flagsOnly ⟨i, .read⟩ p "set" h
  set h1 := (Host.run (Guard.openWindow ⟨i, .read⟩ p "set") h).2 with hh1
  have hq1 : h1.Quiet := hf1.quiet hq
  have hw1 : h1.fs.openWrite p = .ok i := by
    rw [openWrite_congr hf1.sameTree.sameSkeleton]
    exact hw
  cases happ : a.isAppend
  · -- written over from offset 0, then cut to the record's length
    simp only [exec_bind, exec_lift, Host.run_reopen_write hq1 hw1, exec_pure, ne_eq,
      not_true_eq_false, ↓reduceIte, writeOnce, exec_call, Host.run_write_write, Bool.not_false,
      exec_isVarfsRoot hp, Bool.false_eq_true, Host.run_truncate (by decide : Access.write ≠ .read)]
    refine ⟨_, rfl, ?_⟩
    exact (hf1.map fun ht => (ht.writeAt i 0 bytes).truncate i bytes.length).trans
      (Guard.closeWindow_flagsOnly _ _)
  · -- written at the end through an appending descriptor
    simp only [exec_bind, exec_lift, Host.run_reopen_write hq1 hw1, exec_pure, ne_eq,
      not_true_eq_false, ↓reduceIte, writeOnce, exec_call, Host.run_write_append, Bool.not_true,
      Bool.false_eq_true]
    refine ⟨_, rfl, ?_⟩
    exact (hf1.map fun ht => ht.append i bytes).trans (Guard.closeWindow_flagsOnly _ _)

/-- A replace whose write-open is refused writes nothing: the open's error is the result, and
only the immutable window has touched the host. -/
theorem exec_replace_refused {st : Store} {h : Host} {p : Path} {i : Nat} {e : OsError}
    (a : Attributes) (bytes : Bytes) (hq : h.Quiet) (hw : h.fs.openWrite p = .error e)
    (he : e.isNotFound = false) :
    ∃ h', exec (replace p ⟨i, .read⟩ a bytes) st h =
        ((.error (.ofOs "open for writing" p e), st), h') ∧ Host.FlagsOnly h h' := by
  unfold replace
  rw [Guard.exec_windowed]
  have hf1 := Guard.openWindow_flagsOnly ⟨i, .read⟩ p "set" h
  set h1 := (Host.run (Guard.openWindow ⟨i, .read⟩ p "set") h).2 with hh1
  have hq1 : h1.Quiet := hf1.quiet hq
  have hw1 : h1.fs.openWrite p = .error e := by
    rw [openWrite_congr hf1.sameTree.sameSkeleton]
    exact hw
  simp only [exec_bind, exec_lift, Host.run_reopen_write_error hq1 hw1, he, Bool.false_eq_true,
    ↓reduceIte, exec_throw]
  exact ⟨_, rfl, hf1.trans (Guard.closeWindow_flagsOnly _ _)⟩

/-! ## §4. Creating a file through a staging file -/

theorem exec_freshStagingPath (p : Path) (st : Store) (h : Host) :
    exec (freshStagingPath p) st h =
      ((.ok (stagingPath p st.process st.stagingCount),
        { st with stagingCount := st.stagingCount + 1 }), h) := rfl

/-- The filesystem after a staged create of `q` in directory `r` through staging name `s`: a new
file numbered after every inode there was, written with `bytes`, given the final name and
stripped of the staging name. -/
def staged (fs : Fs) (r : Nat) (q s bytes : Bytes) (mode : Nat) : Fs :=
  ((((fs.alloc ⟨.file [], createMode mode, none⟩).1.addEntry r s fs.inodes.size).writeAt
    fs.inodes.size 0 bytes).addEntry r q fs.inodes.size).removeEntry r s

section Staged

variable {fs : Fs} {r : Nat} {q s bytes : Bytes} {mode : Nat}

theorem lookupIn_alloc (fs : Fs) (ino : Inode) {d : Nat} (hd : d < fs.inodes.size) (n : Bytes) :
    (fs.alloc ino).1.lookupIn d n = fs.lookupIn d n := by
  unfold lookupIn entries
  rw [inode?_alloc_of_lt fs ino hd]

theorem isDir_alloc (fs : Fs) (ino : Inode) {d : Nat} (hd : d < fs.inodes.size) :
    (fs.alloc ino).1.isDir d = fs.isDir d := by
  unfold Fs.isDir
  rw [inode?_alloc_of_lt fs ino hd]

/-- Making the staging file `s` in directory `r`, a name free before: `s` names a new inode,
numbered after every inode there was, and every other name is kept. -/
theorem lookupIn_stagingFile (hr : fs.isDir r) (hs : fs.lookupIn r s = none) (n : Bytes) :
    ((fs.alloc ⟨.file [], createMode mode, none⟩).1.addEntry r s fs.inodes.size).lookupIn r n =
      if n = s then some fs.inodes.size else fs.lookupIn r n := by
  have hrN := lt_size_of_isDir hr
  have hr0 : (fs.alloc ⟨.file [], createMode mode, none⟩).1.isDir r := by
    rw [isDir_alloc fs _ hrN]
    exact hr
  rw [lookupIn_addEntry_self hr0, lookupIn_alloc fs _ hrN]
  by_cases hns : n = s
  · subst hns
    rw [hs, if_pos rfl]
    rfl
  · rw [if_neg hns, if_neg hns, Option.or_none]

/-- The staging file is a new file with no bytes yet. -/
theorem read_stagingFile_new :
    ((fs.alloc ⟨.file [], createMode mode, none⟩).1.addEntry r s fs.inodes.size).read
      fs.inodes.size = .ok [] := by
  rw [read_addEntry]
  unfold Fs.read
  rw [inode?_alloc, if_pos rfl]

theorem isDir_stagingFile_new :
    ((fs.alloc ⟨.file [], createMode mode, none⟩).1.addEntry r s fs.inodes.size).isDir
      fs.inodes.size = false := by
  rw [isDir_addEntry]
  unfold Fs.isDir
  rw [inode?_alloc, if_pos rfl]

theorem keepsDirs_stagingFile :
    KeepsDirs fs ((fs.alloc ⟨.file [], createMode mode, none⟩).1.addEntry r s fs.inodes.size) :=
  (KeepsDirs.alloc _ _).trans (KeepsDirs.addEntry _ _ _ _)

/-- The steps of a staged create keep `r` a directory: after the staging file is written, and
after it is given its final name. -/
theorem isDir_staged_written (hr : fs.isDir r) :
    (((fs.alloc ⟨.file [], createMode mode, none⟩).1.addEntry r s fs.inodes.size).writeAt
      fs.inodes.size 0 bytes).isDir r := by
  rw [(sameSkeleton_writeAt _ _ _ _).isDir, isDir_addEntry, isDir_alloc fs _ (lt_size_of_isDir hr)]
  exact hr

theorem isDir_staged_root (hr : fs.isDir r) :
    ((((fs.alloc ⟨.file [], createMode mode, none⟩).1.addEntry r s fs.inodes.size).writeAt
      fs.inodes.size 0 bytes).addEntry r q fs.inodes.size).isDir r := by
  rw [isDir_addEntry]
  exact isDir_staged_written hr

/-- After a staged create the final name names the new inode, the staging name is gone, and
every other name of the directory is kept. -/
theorem lookupIn_staged (hr : fs.isDir r) (hqs : q ≠ s) (hq : fs.lookupIn r q = none)
    (n : Bytes) : (staged fs r q s bytes mode).lookupIn r n =
      if n = s then none else if n = q then some fs.inodes.size else fs.lookupIn r n := by
  have hr0 : (fs.alloc ⟨.file [], createMode mode, none⟩).1.isDir r := by
    rw [isDir_alloc fs _ (lt_size_of_isDir hr)]
    exact hr
  unfold staged
  rw [lookupIn_removeEntry_self (isDir_staged_root hr)]
  by_cases hns : n = s
  · rw [if_pos hns, if_pos hns]
  rw [if_neg hns, if_neg hns, lookupIn_addEntry_self (isDir_staged_written hr), (sameSkeleton_writeAt _ _ _ _).lookupIn,
    lookupIn_addEntry_self hr0, if_neg hns, Option.or_none,
    lookupIn_alloc fs _ (lt_size_of_isDir hr)]
  by_cases hnq : n = q
  · subst hnq
    rw [hq, if_pos rfl]
    rfl
  · rw [if_neg hnq, if_neg hnq, Option.or_none]

/-- The new inode holds `bytes`; every other inode reads as before. -/
theorem read_staged (j : Nat) : (staged fs r q s bytes mode).read j =
    if j = fs.inodes.size then .ok bytes else fs.read j := by
  unfold staged
  rw [read_removeEntry, read_addEntry]
  by_cases hj : j = fs.inodes.size
  · subst hj
    rw [read_writeAt_self read_stagingFile_new, if_pos rfl]
    simp
  · rw [read_writeAt_ne _ _ _ (Ne.symm hj), read_addEntry, if_neg hj]
    unfold Fs.read
    rw [inode?_alloc, if_neg hj]

/-- The new inode is a file; no other inode changes kind. -/
theorem isDir_staged (j : Nat) : (staged fs r q s bytes mode).isDir j =
    if j = fs.inodes.size then false else fs.isDir j := by
  unfold staged
  rw [isDir_removeEntry, isDir_addEntry, (sameSkeleton_writeAt _ _ _ _).isDir, isDir_addEntry]
  unfold Fs.isDir
  rw [inode?_alloc]
  split_ifs <;> rfl

/-- The owner may use the new inode as its creation mode says, and every other inode as
before. -/
theorem allows_staged {bit : Nat} (hb : ownerBit bit) (j : Nat) :
    (staged fs r q s bytes mode).allows j bit =
      if j = fs.inodes.size then createMode mode &&& bit != 0 else fs.allows j bit := by
  unfold staged
  rw [allows_removeEntry, allows_addEntry, (sameSkeleton_writeAt _ _ _ _).allows j hb,
    allows_addEntry]
  unfold Fs.allows
  rw [inode?_alloc]
  split_ifs <;> rfl

/-- A staged create keeps the directories of the tree. -/
theorem keepsDirs_staged (hr : fs.isDir r) (hs : fs.lookupIn r s = none) :
    KeepsDirs fs (staged fs r q s bytes mode) := by
  have hr0 : (fs.alloc ⟨.file [], createMode mode, none⟩).1.isDir r := by
    rw [isDir_alloc fs _ (lt_size_of_isDir hr)]
    exact hr
  have hk : KeepsDirs fs (((fs.alloc ⟨.file [], createMode mode, none⟩).1.addEntry r s
      fs.inodes.size).writeAt fs.inodes.size 0 bytes |>.addEntry r q fs.inodes.size) :=
    ((((KeepsDirs.alloc fs _).trans (KeepsDirs.addEntry _ r s _)).trans
      (KeepsDirs.of_sameSkeleton (sameSkeleton_writeAt _ _ _ _))).trans
      (KeepsDirs.addEntry _ r q _))
  refine hk.trans (KeepsDirs.removeEntry fun j hj => ?_)
  -- the staging name can only name the new file: it was free before
  have hnew : j = fs.inodes.size := by
    rw [lookupIn_addEntry_self (isDir_staged_written hr), (sameSkeleton_writeAt _ _ _ _).lookupIn,
      lookupIn_addEntry_self hr0, lookupIn_alloc fs _ (lt_size_of_isDir hr), hs] at hj
    simp only [Option.none_or, ↓reduceIte] at hj
    split_ifs at hj <;> simp_all
  subst hnew
  rw [isDir_addEntry, (sameSkeleton_writeAt _ _ _ _).isDir, isDir_addEntry]
  unfold Fs.isDir
  rw [inode?_alloc, if_pos rfl]

end Staged

/-- A staging file under the name `s` of directory `r`, with the final name `q` free: after any
change of bytes and flag words, linking it to `q` and then removing `s` both succeed. -/
theorem link_unlink_staging {c p sp : Path} {fs fs' : Fs} {r N : Nat} {q s : Bytes}
    (hlocK : ∀ {fs : Fs}, RootAt c fs r → fs.locate p = .ok ⟨.entry r q (fs.lookupIn r q), false⟩)
    (hlocS : ∀ {fs : Fs}, RootAt c fs r → fs.locate sp = .ok ⟨.entry r s (fs.lookupIn r s), false⟩)
    (hroot : RootAt c fs r) (hs : fs.lookupIn r s = some N) (hq : fs.lookupIn r q = none)
    (hN : fs.isDir N = false) (hsk : SameSkeleton fs fs') :
    fs'.link sp p = .ok (fs'.addEntry r q N) ∧
      (fs'.addEntry r q N).unlink sp = .ok ((fs'.addEntry r q N).removeEntry r s) := by
  have hroot' : RootAt c fs' r := hroot.keeps (KeepsDirs.of_sameSkeleton hsk)
  refine ⟨?_, ?_⟩
  · refine link_child (find_child_some (hlocS hroot') ?_) (hlocK hroot') ?_ hroot'.write ?_
    · rw [hsk.lookupIn, hs]
    · rw [hsk.lookupIn, hq]
    · rw [hsk.isDir, hN]
  · -- the staging name still names the staging file, next to the new final name
    have hroot'' : RootAt c (fs'.addEntry r q N) r := hroot'.keeps (KeepsDirs.addEntry _ _ _ _)
    refine unlink_child (hlocS hroot'') (?_ : _ = some N) hroot''.write ?_
    · rw [lookupIn_addEntry_self hroot'.isDir, hsk.lookupIn, hs]
      rfl
    · rw [isDir_addEntry, hsk.isDir, hN]

theorem exec_createStaged {st : Store} {h : Host} {r : Nat} {k : VarKey} (bytes : Bytes)
    (mode : Nat) (hq : h.Quiet) (hroot : RootAt st.config.root h.fs r) (hk : KeyFits st.config k)
    (habsent : h.fs.lookupIn r (Utf8.encode k.fileName) = none)
    (hfree : h.fs.lookupIn r (k.stagingName st.process st.stagingCount) = none)
    (hlim : (stagingPath (st.config.root.join (.ofString k.fileName)) st.process
      st.stagingCount).WithinLimits) :
    ∃ h', exec (createStaged (st.config.root.join (.ofString k.fileName)) bytes mode) st h =
        ((.ok (), { st with stagingCount := st.stagingCount + 1 }), h') ∧
      Host.FlagsOnly { h with fs := (staged h.fs r (Utf8.encode k.fileName)
        (k.stagingName st.process st.stagingCount) bytes mode) } h' := by
  have hlocS := fun {fs : Fs} (h : RootAt st.config.root fs r) => locate_staging h hk hlim
  have hlocK := fun {fs : Fs} (h : RootAt st.config.root fs r) => locate_key h hk
  have hqs : Utf8.encode k.fileName ≠ k.stagingName st.process st.stagingCount :=
    (VarKey.stagingName_ne_fileName k k _ _).symm
  unfold createStaged
  rw [exec_bind_ok (exec_freshStagingPath _ st h)]
  generalize stagingPath (st.config.root.join (.ofString k.fileName)) st.process
    st.stagingCount = sp at hlocS ⊢
  generalize st.config.root.join (.ofString k.fileName) = p at hlocK ⊢
  generalize Utf8.encode k.fileName = q at hlocK habsent hqs ⊢
  generalize k.stagingName st.process st.stagingCount = s at hlocS hfree hqs ⊢
  generalize hst : { st with stagingCount := st.stagingCount + 1 } = st1
  -- the staging file is made: a new inode `N` under the staging name
  set N := h.fs.inodes.size with hN
  set F0 := (h.fs.alloc ⟨.file [], createMode mode, none⟩).1.addEntry r s N with hF0
  have hcreate : h.fs.createNew sp mode = .ok (F0, N) :=
    createNew_child_none (hlocS hroot) hfree hroot.write mode
  have hF0s : F0.lookupIn r s = some N := by
    rw [hF0, lookupIn_stagingFile hroot.isDir hfree, if_pos rfl]
  have hF0q : F0.lookupIn r q = none := by
    rw [hF0, lookupIn_stagingFile hroot.isDir hfree, if_neg hqs, habsent]
  have hF0N : F0.isDir N = false := isDir_stagingFile_new
  have hroot0 : RootAt st.config.root F0 r := hroot.keeps keepsDirs_stagingFile
  rw [exec_bind_ok (show exec (call "create staging file" sp (Sys.reopen sp (.createNew mode)))
      st1 h = ((.ok ⟨N, .write⟩, st1), { h with fs := F0 }) by
    rw [exec_call, Host.run_reopen_createNew hq hcreate])]
  -- it is written inside its window
  obtain ⟨h2, hwin, hf2⟩ := @Guard.exec_windowed_of Unit ⟨N, .write⟩ sp "set"
    (writeOnce ⟨N, .write⟩ sp bytes) st1 st1 { h with fs := F0 } () (fun t => t.writeAt N 0 bytes)
    (fun ht => ht.writeAt N 0 bytes) fun h1 _ => exec_writeOnce_write N sp bytes st1 h1
  rw [exec_bind, exec_attempt, exec_bind, hwin]
  -- it is linked to the final name, which is still free, and the staging name is removed
  have hq2 : h2.Quiet := hf2.quiet ⟨hq.interference, hq.handover⟩
  have hsk2 : SameSkeleton F0 h2.fs :=
    (sameSkeleton_writeAt F0 N 0 bytes).trans hf2.sameTree.sameSkeleton
  obtain ⟨hlink, hunlink⟩ := link_unlink_staging hlocK hlocS hroot0 hF0s hF0q hF0N hsk2
  replace hunlink : ({ h2 with fs := h2.fs.addEntry r q N } : Host).fs.unlink sp =
      .ok ((h2.fs.addEntry r q N).removeEntry r s) := hunlink
  simp only [exec_bind, exec_lift, Host.run_publish hq2 hlink, exec_pure, rollback,
    Host.run_unlink hunlink, exec_ofExcept]
  refine ⟨_, rfl, ?_⟩
  exact hf2.map fun ht => (ht.addEntry r q N).removeEntry r s

/-! ## §5. A whole set -/

theorem validate_ok {k : VarKey} (h : Utf8.size k.name ≤ VarKey.maxNameLen) : k.validate = .ok () := by
  unfold VarKey.validate
  simp only
  rw [if_neg (by omega)]

theorem exec_persist_none {st : Store} (hnone : st.config.persist = none) (op : String) (h : Host) :
    exec (persist op) st h = ((.ok (), st), h) := by
  unfold persist
  rw [exec_bind_ok (exec_config st h), hnone]
  rfl

theorem exec_buildPath_key {st : Store} {k : VarKey} (hk : KeyFits st.config k) (h : Host) :
    exec (buildPath k) st h = ((.ok (st.config.root.join (.ofString k.fileName)), st), h) := by
  rw [exec_buildPath, (Config.buildPath_ok_iff _ _ _).mpr ⟨rfl, hk.path_lt⟩]

theorem openRead_child_none {fs : Fs} {c : Path} {r : Nat} {q : Bytes}
    (hloc : fs.locate c = .ok ⟨.entry r q (fs.lookupIn r q), false⟩)
    (hl : fs.lookupIn r q = none) : fs.openRead c = .error .noEntry := by
  unfold openRead
  rw [find_child_none hloc hl]
  rfl

/-- A set on an existing file the caller may read and write: the record replaces the file's
bytes, or, with the append bit, the payload is added at the end. -/
theorem exec_set_present {st : Store} {h : Host} {r i : Nat} {k : VarKey} (a : Attributes)
    (data : Bytes) (mode : Nat) (hq : h.Quiet) (hp : PlainRoot st)
    (hnone : st.config.persist = none) (hroot : RootAt st.config.root h.fs r)
    (hk : KeyFits st.config k) (hl : h.fs.lookupIn r (Utf8.encode k.fileName) = some i)
    (hread : h.fs.allows i readBit) (hwrite : h.fs.allows i writeBit)
    (hfile : h.fs.isDir i = false) :
    ∃ h', exec (set k a data mode) st h = ((.ok (), { st with varfsRoot := some false }), h') ∧
      Host.FlagsOnly { h with fs := (if a.isAppend then h.fs.append i data
        else (h.fs.writeAt i 0 (Record.encode a data)).truncate i
          (Record.encode a data).length) } h' := by
  have hloc := locate_key hroot hk
  have hopen : h.fs.openRead (st.config.root.join (.ofString k.fileName)) = .ok i := by
    rw [openRead_child hloc hl, if_pos hread]
  have hw : h.fs.openWrite (st.config.root.join (.ofString k.fileName)) = .ok i := by
    rw [openWrite_child hloc hl, hfile, if_neg Bool.false_ne_true, if_pos hwrite]
  have hp' : PlainRoot { st with varfsRoot := some false } := .inl rfl
  cases happ : a.isAppend
  · -- the record is written over the file, which is then cut to the record's length
    obtain ⟨h', hrep, hf⟩ := exec_replace a (Record.encode a data) hq hp hw
    rw [happ] at hrep hf
    simp only [Bool.false_eq_true, ↓reduceIte] at hrep hf
    refine ⟨h', ?_, hf⟩
    simp only [set, put, exec_bind, exec_ofExcept, validate_ok hk.name_le, exec_buildPath_key hk,
      exec_lift, Host.run_observe hq, Host.run_openPath_read hopen, exec_pure, happ,
      Bool.false_and, Bool.false_eq_true, ↓reduceIte, hrep]
    exact @exec_persist_none { st with varfsRoot := some false } hnone "set" h'
  · -- the root is asked about first; on a plain root only the payload is added at the end
    obtain ⟨h', hrep, hf⟩ := exec_replace a data hq hp' hw
    rw [happ] at hrep hf
    simp only [↓reduceIte] at hrep hf
    refine ⟨h', ?_, hf⟩
    simp only [set, put, exec_bind, exec_ofExcept, validate_ok hk.name_le, exec_buildPath_key hk,
      exec_lift, Host.run_observe hq, Host.run_openPath_read hopen, exec_pure, happ,
      Option.isSome_some, Bool.and_self, ↓reduceIte, exec_isVarfsRoot hp, Bool.false_eq_true,
      hrep]
    exact @exec_persist_none { st with varfsRoot := some false } hnone "set" h'

/-- A set whose first look at the variable's file fails for any reason but a missing name fails
with that error, before anything is written. -/
theorem exec_set_observe_error {st : Store} {h : Host} {k : VarKey} {p : Path} {e : OsError}
    (a : Attributes) (data : Bytes) (mode : Nat) (hq : h.Quiet)
    (hv : Utf8.size k.name ≤ VarKey.maxNameLen) (hp : st.config.buildPath k = .ok p)
    (hr : h.fs.openRead p = .error e) (he : e.isNotFound = false) :
    exec (set k a data mode) st h = ((.error (.ofOs "open" p e), st), h) := by
  simp only [set, put, exec_bind, exec_ofExcept, validate_ok hv, exec_buildPath, hp, exec_lift,
    Host.run_observe hq, Host.run_openPath_read_error hr, he, Bool.false_eq_true, ↓reduceIte,
    exec_throw]

/-- A set of a variable whose file the owner may read but not write is refused when the file is
opened for writing; the host keeps every byte, and only flag words may have changed. -/
theorem exec_set_present_refused {st : Store} {h : Host} {r i : Nat} {k : VarKey}
    (a : Attributes) (data : Bytes) (mode : Nat) (hq : h.Quiet) (hp : PlainRoot st)
    (hroot : RootAt st.config.root h.fs r) (hk : KeyFits st.config k)
    (hl : h.fs.lookupIn r (Utf8.encode k.fileName) = some i) (hread : h.fs.allows i readBit)
    (hfile : h.fs.isDir i = false) (hwrite : h.fs.allows i writeBit = false) :
    ∃ st' h', exec (set k a data mode) st h =
        ((.error (.permissionDenied "open for writing" (st.config.root.join (.ofString k.fileName))
          .accessDenied), st'), h') ∧ Host.FlagsOnly h h' := by
  have hloc := locate_key hroot hk
  have hopen : h.fs.openRead (st.config.root.join (.ofString k.fileName)) = .ok i := by
    rw [openRead_child hloc hl, if_pos hread]
  have hw : h.fs.openWrite (st.config.root.join (.ofString k.fileName)) = .error .accessDenied := by
    rw [openWrite_child hloc hl, hfile, if_neg Bool.false_ne_true, hwrite, if_neg Bool.false_ne_true]
  -- `ofOs` turns the refused open into the permission error
  have hden : ∀ st' : Store, StoreError.ofOs "open for writing"
      (st'.config.root.join (.ofString k.fileName)) .accessDenied =
      .permissionDenied "open for writing" (st'.config.root.join (.ofString k.fileName))
        .accessDenied := fun _ => rfl
  cases happ : a.isAppend
  · obtain ⟨h', hrep, hf⟩ := @exec_replace_refused st h _ i _ a (Record.encode a data) hq hw rfl
    refine ⟨st, h', ?_, hf⟩
    simp only [set, put, exec_bind, exec_ofExcept, validate_ok hk.name_le, exec_buildPath_key hk,
      exec_lift, Host.run_observe hq, Host.run_openPath_read hopen, exec_pure, happ,
      Bool.false_and, Bool.false_eq_true, ↓reduceIte, hrep, hden]
  · -- an append asks about the root first, which caches the answer
    have hp' : PlainRoot { st with varfsRoot := some false } := .inl rfl
    obtain ⟨h', hrep, hf⟩ :=
      @exec_replace_refused { st with varfsRoot := some false } h _ i _ a data hq hw rfl
    refine ⟨{ st with varfsRoot := some false }, h', ?_, hf⟩
    simp only [set, put, exec_bind, exec_ofExcept, validate_ok hk.name_le, exec_buildPath_key hk,
      exec_lift, Host.run_observe hq, Host.run_openPath_read hopen, exec_pure, happ,
      Option.isSome_some, Bool.and_self, ↓reduceIte, exec_isVarfsRoot hp, Bool.false_eq_true,
      hrep]
    exact congrArg (fun e => ((Except.error e, _), h')) (hden _)

/-- A set of an absent variable on a plain root goes through a staging file under a fresh
name, which is linked to the key's name and then removed. -/
theorem exec_set_absent {st : Store} {h : Host} {r : Nat} {k : VarKey} (a : Attributes)
    (data : Bytes) (mode : Nat) (hq : h.Quiet) (hp : PlainRoot st)
    (hnone : st.config.persist = none) (hroot : RootAt st.config.root h.fs r)
    (hk : KeyFits st.config k) (habsent : h.fs.lookupIn r (Utf8.encode k.fileName) = none)
    (hfree : h.fs.lookupIn r (k.stagingName st.process st.stagingCount) = none)
    (hlim : (stagingPath (st.config.root.join (.ofString k.fileName)) st.process
      st.stagingCount).WithinLimits) :
    ∃ h', exec (set k a data mode) st h =
        ((.ok (), { st with varfsRoot := some false, stagingCount := st.stagingCount + 1 }), h') ∧
      Host.FlagsOnly { h with fs := (staged h.fs r (Utf8.encode k.fileName)
        (k.stagingName st.process st.stagingCount) (Record.encode a data) mode) } h' := by
  have hopen := openRead_child_none (locate_key hroot hk) habsent
  obtain ⟨h', hcr, hf⟩ := @exec_createStaged { st with varfsRoot := some false } h r k
    (Record.encode a data) mode hq hroot hk habsent hfree hlim
  refine ⟨h', ?_, hf⟩
  simp only [set, put, exec_bind, exec_ofExcept, validate_ok hk.name_le, exec_buildPath_key hk,
    exec_lift, Host.run_observe hq, Host.run_openPath_read_error hopen, exec_pure,
    OsError.isNotFound, OsError.noEntry, beq_self_eq_true, ↓reduceIte, Option.isSome_none,
    Bool.and_false, Bool.false_eq_true, exec_isVarfsRoot hp, hcr]
  exact @exec_persist_none { st with varfsRoot := some false, stagingCount := st.stagingCount + 1 }
    hnone "set" h'

end Store

end FirmwareVars
