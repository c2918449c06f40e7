import FirmwareVars.Proofs.Concurrent.Readers

/-!
# Writes that race to create one file

Several writes of one variable each looked at its file and found none, so each goes on to create
it: with an exclusive create of the file itself on the variable filesystem, or elsewhere with an
exclusive create of a staging file of its own that it writes and then links to the final name.
Whatever the interleaving of their calls, the first exclusive claim of the final name wins: its
write answers as it would alone, every other finds the name taken and fails with a race, each
staging file is removed by the write that made it, and the file holds the winner's record. The
writes need not agree on the route: some may create in place while others stage.

The argument runs over the log of a pool run (`Pool.run`), whose hosts follow one another call by
call (`Pool.chain_run`). Each write, seen alone, makes the calls of a short script, which
`Meets` inversion reads off its program whatever the hosts it met (`Request.meets_fresh`). One
inversion lemma says what any of those calls does to the tree (`Creator.Calls.step`); every fact
about a stretch of the log follows from it, the stretch being cut out of the log at calls that
the scripts name.

Main statements:
  * `Creator.Calls.step` — what one call of a fresh write does to the tree.
  * `Request.meets_fresh` — the script of a write that found its file absent.
  * `Contest.outcome` — among creators whose scripts share a log, the first claim wins.
  * `first_claim_wins` — the same for fresh writes racing in a pool run.
-/

namespace FirmwareVars

/-! ## §1. What one call of a fresh write does -/

namespace Host

/-- No call brings in another actor, or changes how opens hand back their descriptors. -/
theorem Quiet.exec {h : Host} (hq : h.Quiet) (c : Call) : (h.exec c).2.Quiet := by
  have hkeep : ∀ fs : Fs, ({ h with fs := fs } : Host).Quiet :=
    fun _ => ⟨hq.interference, hq.handover⟩
  have hopen : ∀ p m, (h.openAt p m).2.Quiet := by
    intro p m
    unfold openAt
    split
    · exact hkeep _
    · exact hq
  have hchange : ∀ r, (h.change r).2.Quiet := by
    intro r
    unfold change
    split
    · exact hkeep _
    · exact hq
  cases c with
  | openPath p m => exact hopen p m
  | observe p => rw [exec_observe hq]; exact hopen p .read
  | reopen p m => rw [exec_reopen hq]; exact hopen p m
  | publish s t => rw [exec_publish hq]; exact hchange _
  | unlink p => exact hchange _
  | chmod p m => exact hchange _
  | write hd off data =>
    simp only [Host.exec]
    split
    · exact hq
    · exact hkeep _
    · exact hkeep _
  | truncate hd len =>
    simp only [Host.exec]
    split
    · exact hq
    · exact hkeep _
  | setFlags hd w =>
    simp only [Host.exec]
    split <;> exact ⟨hq.interference, hq.handover⟩
  | getFlags hd =>
    simp only [Host.exec]
    split <;> exact hq
  | note n => exact ⟨hq.interference, hq.handover⟩
  | read hd off len =>
    simp only [Host.exec]
    split <;> exact hq
  | readChunks hd off size =>
    simp only [Host.exec]
    split <;> exact hq
  | stat p => exact hq
  | readDir p => exact hq
  | statfs p => exact hq

theorem change_fs (h : Host) (r : Except OsError Fs) :
    (h.change r).2.fs = match r with
      | .ok fs' => fs'
      | .error _ => h.fs := by
  cases r <;> rfl

end Host

namespace Pool

end Pool

open Store Fs

/-- The places a write of the file `p` that found it absent works with, all in directory `r`: `p`
is named `q` there, its staging path `sp` is named `s`, and `N` is the file its create made. It
creates `p` itself when `inPlace` holds and `sp` otherwise. -/
structure Creator where
  r : Nat
  p : Path
  q : Bytes
  sp : Path
  s : Bytes
  N : Nat
  inPlace : Bool

namespace Creator

/-- The path the write creates exclusively. -/
def made (w : Creator) : Path := if w.inPlace then w.p else w.sp

/-- The name of the path it creates. -/
def m (w : Creator) : Bytes := if w.inPlace then w.q else w.s

/-- The final and the staging path resolve to their names in `r` on every tree where the root is
directory `r`. -/
def Located (w : Creator) (root : Path) : Prop :=
  ∀ fs : Fs, RootAt root fs w.r →
    fs.locate w.p = .ok ⟨.entry w.r w.q (fs.lookupIn w.r w.q), false⟩ ∧
    fs.locate w.sp = .ok ⟨.entry w.r w.s (fs.lookupIn w.r w.s), false⟩

/-- The call claims the final name: it links the staging file to it, or creates it in place. -/
def Claims (w : Creator) (c : Call) : Prop :=
  c = .publish w.sp w.p ∨ (w.inPlace = true ∧ ∃ mode, c = .reopen w.p (.createNew mode))

/-- The call moves the staging name: it creates the staging file, or removes it. -/
def Stages (w : Creator) (c : Call) : Prop :=
  c = .unlink w.sp ∨ (w.inPlace = false ∧ ∃ mode, c = .reopen w.sp (.createNew mode))

/-- The calls such a write makes: it looks at `p`, asks for the root's type, creates `made`
exclusively, writes the file `N` it made from its start and queries and sets its flag word, links
`sp` to `p`, removes `sp`, and reports. -/
inductive Calls (w : Creator) : Call → Prop
  | observe : Calls w (.observe w.p)
  | statfs (x : Path) : Calls w (.statfs x)
  | create (mode : Nat) : Calls w (.reopen w.made (.createNew mode))
  | write (bs : Bytes) : Calls w (.write ⟨w.N, .write⟩ 0 bs)
  | flags {c : Call} (hc : c.Flags ⟨w.N, .write⟩) : Calls w c
  | publish : Calls w (.publish w.sp w.p)
  | unlink : Calls w (.unlink w.sp)

/-- What one such call does to the tree: nothing but flag words, or it makes a new empty file
under the free name `m`, writes the file `N` from its start, gives the file named `s` the free
name `q`, or removes the name `s` of a file. -/
inductive Step (w : Creator) : Call → Fs → Fs → Prop
  | keep {c : Call} {fs fs' : Fs} (ht : SameTree fs fs') : Step w c fs fs'
  | create {mode : Nat} {fs : Fs} (hm : fs.lookupIn w.r w.m = none) :
      Step w (.reopen w.made (.createNew mode)) fs
        ((fs.alloc ⟨.file [], createMode mode, none⟩).1.addEntry w.r w.m fs.inodes.size)
  | write {bs : Bytes} {fs : Fs} : Step w (.write ⟨w.N, .write⟩ 0 bs) fs (fs.writeAt w.N 0 bs)
  | link {i : Nat} {fs : Fs} (hs : fs.lookupIn w.r w.s = some i)
      (hq : fs.lookupIn w.r w.q = none) (hi : fs.isDir i = false) :
      Step w (.publish w.sp w.p) fs (fs.addEntry w.r w.q i)
  | unlink {i : Nat} {fs : Fs} (hs : fs.lookupIn w.r w.s = some i) (hi : fs.isDir i = false) :
      Step w (.unlink w.sp) fs (fs.removeEntry w.r w.s)

variable {w : Creator} {root : Path} {c : Call} {g : Host}

theorem made_of_inPlace (hb : w.inPlace = true) : w.made = w.p := if_pos hb

theorem made_of_staged (hb : w.inPlace = false) : w.made = w.sp := if_neg (by simp [hb])

theorem m_of_inPlace (hb : w.inPlace = true) : w.m = w.q := if_pos hb

theorem m_of_staged (hb : w.inPlace = false) : w.m = w.s := if_neg (by simp [hb])

theorem Located.made (hl : w.Located root) {fs : Fs} (hroot : RootAt root fs w.r) :
    fs.locate w.made = .ok ⟨.entry w.r w.m (fs.lookupIn w.r w.m), false⟩ := by
  cases hb : w.inPlace
  · rw [made_of_staged hb, m_of_staged hb]
    exact (hl fs hroot).2
  · rw [made_of_inPlace hb, m_of_inPlace hb]
    exact (hl fs hroot).1

section Exec

variable (hl : w.Located root) (hq : g.Quiet) (hroot : RootAt root g.fs w.r)
include hl hq hroot

/-- An exclusive create of a free name answers with the next inode, open for writing, and names
a new empty file by it. -/
theorem exec_create_free (hm : g.fs.lookupIn w.r w.m = none) (mode : Nat) :
    g.exec (.reopen w.made (.createNew mode)) =
      (.ok ⟨g.fs.inodes.size, .write⟩, { g with fs :=
        (g.fs.alloc ⟨.file [], createMode mode, none⟩).1.addEntry w.r w.m g.fs.inodes.size }) := by
  rw [Host.exec_reopen hq]
  simp only [Host.openAt, Fs.openAt, Fs.createNew_child_none (hl.made hroot) hm hroot.write mode,
    Fs.ok_bind]
  rfl

/-- After an exclusive create of a free name, the name names the new inode, an empty regular
file, one more than there were. -/
theorem created (hm : g.fs.lookupIn w.r w.m = none) (mode : Nat) :
    (g.exec (.reopen w.made (.createNew mode))).2.fs.lookupIn w.r w.m = some g.fs.inodes.size ∧
      (g.exec (.reopen w.made (.createNew mode))).2.fs.read g.fs.inodes.size = .ok [] ∧
      (g.exec (.reopen w.made (.createNew mode))).2.fs.isDir g.fs.inodes.size = false ∧
      (g.exec (.reopen w.made (.createNew mode))).2.fs.inodes.size = g.fs.inodes.size + 1 := by
  rw [exec_create_free hl hq hroot hm]
  exact ⟨by rw [lookupIn_stagingFile hroot.isDir hm, if_pos rfl], read_stagingFile_new,
    isDir_stagingFile_new, by simp [Fs.addEntry]⟩

/-- An exclusive create of a taken name is refused: the name exists. -/
theorem exec_create_taken {i : Nat} (hm : g.fs.lookupIn w.r w.m = some i) (mode : Nat) :
    g.exec (.reopen w.made (.createNew mode)) = (.error .nameTaken, g) := by
  rw [Host.exec_reopen hq]
  simp only [Host.openAt, Fs.openAt, Fs.createNew_child_some (hl.made hroot) hm mode]
  rfl

/-- A create that answers with a file was a create of a free name, and the file is the next
inode. -/
theorem free_of_create_ok {hd : Handle} {mode : Nat}
    (he : (g.exec (.reopen w.made (.createNew mode))).1 = .ok hd) :
    g.fs.lookupIn w.r w.m = none ∧ hd = ⟨g.fs.inodes.size, .write⟩ := by
  cases hm : g.fs.lookupIn w.r w.m with
  | none =>
    rw [exec_create_free hl hq hroot hm] at he
    cases he
    exact ⟨rfl, rfl⟩
  | some i =>
    rw [exec_create_taken hl hq hroot hm] at he
    cases he

/-- Linking the staging file, a regular file, to the free final name gives it that name. -/
theorem exec_publish_free {i : Nat} (hs : g.fs.lookupIn w.r w.s = some i)
    (hqn : g.fs.lookupIn w.r w.q = none) (hi : g.fs.isDir i = false) :
    g.exec (.publish w.sp w.p) = (.ok (), { g with fs := g.fs.addEntry w.r w.q i }) := by
  obtain ⟨hlp, hls⟩ := hl g.fs hroot
  rw [Host.exec_publish hq, Fs.link_child (Fs.find_child_some hls hs) hlp hqn hroot.write hi]
  rfl

/-- Linking the staging file to a taken final name is refused: the name exists. -/
theorem exec_publish_taken {i j : Nat} (hs : g.fs.lookupIn w.r w.s = some i)
    (hqn : g.fs.lookupIn w.r w.q = some j) :
    g.exec (.publish w.sp w.p) = (.error .nameTaken, g) := by
  obtain ⟨hlp, hls⟩ := hl g.fs hroot
  rw [Host.exec_publish hq, Fs.link_child_some (Fs.find_child_some hls hs) hlp hqn]
  rfl

/-- What a call of a fresh write does, on a quiet host whose root is `r`. The creates, links and
removals that the host refuses change nothing. -/
theorem Calls.step (hc : w.Calls c) : w.Step c g.fs (g.exec c).2.fs := by
  obtain ⟨hlp, hls⟩ := hl g.fs hroot
  cases hc with
  | observe =>
    rw [Host.exec_observe hq]
    unfold Host.openAt Fs.openAt
    cases g.fs.openRead w.p <;> exact .keep (.refl _)
  | statfs x => exact .keep (.refl _)
  | create mode =>
    cases hm : g.fs.lookupIn w.r w.m with
    | none =>
      rw [exec_create_free hl hq hroot hm]
      exact .create hm
    | some i =>
      rw [exec_create_taken hl hq hroot hm]
      exact .keep (.refl _)
  | write bs => exact .write
  | flags hf => exact .keep (hf.flagsOnly g).sameTree
  | publish =>
    cases hs : g.fs.lookupIn w.r w.s with
    | none =>
      have hlink : g.fs.link w.sp w.p = .error .noEntry := by
        unfold Fs.link
        rw [Fs.find_child_none hls hs]
        rfl
      rw [Host.exec_publish hq, Host.change_fs, hlink]
      exact .keep (.refl _)
    | some i =>
      cases hqn : g.fs.lookupIn w.r w.q with
      | some j =>
        rw [exec_publish_taken hl hq hroot hs hqn]
        exact .keep (.refl _)
      | none =>
        cases hi : g.fs.isDir i with
        | false =>
          rw [exec_publish_free hl hq hroot hs hqn hi]
          exact .link hs hqn hi
        | true =>
          -- a directory is never linked
          have hlink : g.fs.link w.sp w.p = .error .notPermitted := by
            unfold Fs.link
            rw [Fs.find_child_some hls hs, Fs.ok_bind, hlp, hqn]
            simp [Fs.require, hroot.write, hi]
          rw [Host.exec_publish hq, Host.change_fs, hlink]
          exact .keep (.refl _)
  | unlink =>
    show w.Step _ g.fs (g.change (g.fs.unlink w.sp)).2.fs
    rw [Host.change_fs]
    cases hs : g.fs.lookupIn w.r w.s with
    | none =>
      rw [Fs.unlink_child_none hls hs]
      exact .keep (.refl _)
    | some i =>
      cases hi : g.fs.isDir i with
      | false =>
        rw [Fs.unlink_child hls hs hroot.write hi]
        exact .unlink hs hi
      | true =>
        -- a directory is never unlinked
        have hun : g.fs.unlink w.sp = .error .isDir := by
          unfold Fs.unlink
          rw [hls]
          simp [hs, Fs.require, hroot.write, hi]
        rw [hun]
        exact .keep (.refl _)

end Exec

/-- Removing the staging name of a regular file frees it. -/
theorem unstaged (hl : w.Located root) (hroot : RootAt root g.fs w.r) {i : Nat}
    (hs : g.fs.lookupIn w.r w.s = some i) (hi : g.fs.isDir i = false) :
    (g.exec (.unlink w.sp)).2.fs.lookupIn w.r w.s = none := by
  obtain ⟨-, hls⟩ := hl g.fs hroot
  show (g.change (g.fs.unlink w.sp)).2.fs.lookupIn w.r w.s = none
  rw [Host.change_fs, Fs.unlink_child hls hs hroot.write hi]
  simp [lookupIn_removeEntry_self hroot.isDir]

namespace Step

variable {fs fs' : Fs}

theorem keepsDirs (h : w.Step c fs fs') : KeepsDirs fs fs' := by
  cases h with
  | keep ht => exact .of_sameSkeleton ht.sameSkeleton
  | create => exact keepsDirs_stagingFile
  | write => exact .of_sameSkeleton (sameSkeleton_writeAt _ _ _ _)
  | link => exact .addEntry _ _ _ _
  | unlink hs hi =>
    refine .removeEntry fun j hj => ?_
    rw [hs] at hj
    cases hj
    exact hi

/-- A name the call neither creates, links nor removes keeps what it names. -/
theorem lookupIn_of_ne (h : w.Step c fs fs') (hr : fs.isDir w.r) {n : Bytes} (hm : n ≠ w.m)
    (hq : n ≠ w.q) (hs : n ≠ w.s) : fs'.lookupIn w.r n = fs.lookupIn w.r n := by
  cases h with
  | keep ht => exact ht.sameSkeleton.lookupIn _ _
  | create hm' => rw [lookupIn_stagingFile hr hm', if_neg hm]
  | write => exact (sameSkeleton_writeAt _ _ _ _).lookupIn _ _
  | link => rw [lookupIn_addEntry_self hr, if_neg hq, Option.or_none]
  | unlink => rw [lookupIn_removeEntry_self hr, if_neg hs]

/-- Once the final name names a file it keeps naming it: creates and links take free names only,
and the name removed is the staging name. -/
theorem lookupIn_final_some (h : w.Step c fs fs') (hr : fs.isDir w.r) (hsq : w.s ≠ w.q) {i : Nat}
    (hi : fs.lookupIn w.r w.q = some i) : fs'.lookupIn w.r w.q = some i := by
  cases h with
  | keep ht => rw [ht.sameSkeleton.lookupIn, hi]
  | create hm =>
    by_cases hmq : w.q = w.m
    · rw [hmq, hm] at hi
      cases hi
    · rw [lookupIn_stagingFile hr hm, if_neg hmq, hi]
  | write => rw [(sameSkeleton_writeAt _ _ _ _).lookupIn, hi]
  | link _ hq => rw [hq] at hi; cases hi
  | unlink => rw [lookupIn_removeEntry_self hr, if_neg hsq.symm, hi]

/-- The final name stays free under every call that does not claim it. -/
theorem lookupIn_final_none (h : w.Step c fs fs') (hr : fs.isDir w.r) (hsq : w.s ≠ w.q)
    (hi : fs.lookupIn w.r w.q = none) (hc : ¬ w.Claims c) : fs'.lookupIn w.r w.q = none := by
  cases h with
  | keep ht => rw [ht.sameSkeleton.lookupIn, hi]
  | @create mode _ hm =>
    cases hb : w.inPlace
    · rw [lookupIn_stagingFile hr hm, m_of_staged hb, if_neg hsq.symm, hi]
    · exact absurd (.inr ⟨hb, mode, by rw [made_of_inPlace hb]⟩) hc
  | write => rw [(sameSkeleton_writeAt _ _ _ _).lookupIn, hi]
  | link => exact absurd (.inl rfl) hc
  | unlink => rw [lookupIn_removeEntry_self hr]; split <;> [rfl; exact hi]

/-- The staging name changes only under the calls that move it. -/
theorem lookupIn_staging (h : w.Step c fs fs') (hr : fs.isDir w.r) (hsq : w.s ≠ w.q)
    (hc : ¬ w.Stages c) : fs'.lookupIn w.r w.s = fs.lookupIn w.r w.s := by
  cases h with
  | keep ht => exact ht.sameSkeleton.lookupIn _ _
  | @create mode _ hm =>
    cases hb : w.inPlace
    · exact absurd (.inr ⟨hb, mode, by rw [made_of_staged hb]⟩) hc
    · rw [lookupIn_stagingFile hr hm, m_of_inPlace hb, if_neg hsq]
  | write => exact (sameSkeleton_writeAt _ _ _ _).lookupIn _ _
  | link => rw [lookupIn_addEntry_self hr, if_neg hsq, Option.or_none]
  | unlink => exact absurd (.inl rfl) hc

/-- An existing file keeps its bytes under every call but a write to it. -/
theorem read_of_ne (h : w.Step c fs fs') {j : Nat} (hj : j < fs.inodes.size)
    (hN : ∀ bs, c ≠ .write ⟨j, .write⟩ 0 bs) : fs'.read j = fs.read j := by
  cases h with
  | keep ht => exact ht.read j
  | create =>
    rw [read_addEntry]
    unfold Fs.read
    rw [inode?_alloc_of_lt _ _ hj]
  | @write bs _ =>
    by_cases hNj : w.N = j
    · subst hNj
      exact absurd rfl (hN bs)
    · exact read_writeAt_ne _ _ _ hNj
  | link => exact read_addEntry _ _ _ _ _
  | unlink => exact read_removeEntry _ _ _ _

theorem isDir_of_lt (h : w.Step c fs fs') {j : Nat} (hj : j < fs.inodes.size) :
    fs'.isDir j = fs.isDir j := by
  cases h with
  | keep ht => exact ht.sameSkeleton.isDir j
  | create => rw [isDir_addEntry, isDir_alloc _ _ hj]
  | write => exact (sameSkeleton_writeAt _ _ _ _).isDir j
  | link => exact isDir_addEntry _ _ _ _ _
  | unlink => exact isDir_removeEntry _ _ _ _

end Step

end Creator

/-! ## §2. The calls of one fresh write -/

namespace Store

open StoreM

/-- What a staged create answers once the link of its staging file answered `a`: success, a race
when the final name was taken first, or the link's own error. -/
def linkReply (p : Path) : Except OsError Unit → Except StoreError Unit
  | .ok () => .ok ()
  | .error e => if e.isAlreadyExists then .error (.race p .created) else .error (.ofOs "link" p e)

/-- The calls of an exclusive create of the file `p` itself, to be written with `bytes`, and its
outcome: the create was refused, or it made the file `N`, which was written inside its window. -/
inductive InPlaceCalls (p : Path) (bytes : Bytes) (mode N : Nat) :
    List (Call × Host) → Except StoreError Unit → Prop
  | refused {g : Host} {e : OsError} (he : (g.exec (.reopen p (.createNew mode))).1 = .error e) :
      InPlaceCalls p bytes mode N [(.reopen p (.createNew mode), g)]
        (.error (if e.isAlreadyExists then .race p .created else .ofOs "create" p e))
  | written {g g' : Host} {f₁ f₂ : List (Call × Host)}
      (he : (g.exec (.reopen p (.createNew mode))).1 = .ok ⟨N, .write⟩)
      (hf : ∀ c ∈ f₁ ++ f₂, c.1.Flags ⟨N, .write⟩) :
      InPlaceCalls p bytes mode N
        ((.reopen p (.createNew mode), g) :: f₁ ++ (.write ⟨N, .write⟩ 0 bytes, g') :: f₂) (.ok ())

/-- The calls of a create of the file `p` through the staging path `sp`, written with `bytes`,
and its outcome: the create of the staging file was refused, or it made the staging file `N`,
wrote it inside its window, linked it to `p` and removed `sp`, reporting a failed removal. -/
inductive StagedCalls (p sp : Path) (bytes : Bytes) (mode N : Nat) :
    List (Call × Host) → Except StoreError Unit → Prop
  | refused {g : Host} {e : OsError} (he : (g.exec (.reopen sp (.createNew mode))).1 = .error e) :
      StagedCalls p sp bytes mode N [(.reopen sp (.createNew mode), g)]
        (.error (.ofOs "create staging file" sp e))
  | linked {g g₂ g₃ g₄ : Host} {f₁ f₂ v : List (Call × Host)}
      (he : (g.exec (.reopen sp (.createNew mode))).1 = .ok ⟨N, .write⟩)
      (hf : ∀ c ∈ f₁ ++ f₂, c.1.Flags ⟨N, .write⟩) (hv : ∀ c ∈ v, ∃ n, c.1 = .note n) :
      StagedCalls p sp bytes mode N
        ((.reopen sp (.createNew mode), g) :: f₁ ++ (.write ⟨N, .write⟩ 0 bytes, g₂) :: f₂ ++
          (.publish sp p, g₃) :: (.unlink sp, g₄) :: v)
        (linkReply p (g₃.exec (.publish sp p)).1)

variable {st st' : Store} {t : List (Call × Host)}

/-- The calls of a write of the file `p` that found it absent, and its outcome: it looked at `p`,
asked for the root's type with the calls `u`, and, told `b`, created `p` in place when `b` holds
and through the staging path `sp` otherwise, the new file being `N`. -/
inductive FreshCalls (root p sp : Path) (bytes : Bytes) (mode N : Nat) (b : Bool) :
    List (Call × Host) → Except StoreError Unit → Prop
  | inPlace {g₀ : Host} {u t : List (Call × Host)} {r : Except StoreError Unit}
      (hu : ∀ c ∈ u, c.1 = .statfs root) (hb : b = true) (ht : InPlaceCalls p bytes mode N t r) :
      FreshCalls root p sp bytes mode N b ((.observe p, g₀) :: u ++ t) r
  | staged {g₀ : Host} {u t : List (Call × Host)} {r : Except StoreError Unit}
      (hu : ∀ c ∈ u, c.1 = .statfs root) (hb : b = false) (ht : StagedCalls p sp bytes mode N t r) :
      FreshCalls root p sp bytes mode N b ((.observe p, g₀) :: u ++ t) r

section Scripts

variable {bytes : Bytes} {mode : Nat} {r : Except StoreError Unit} {w : Creator}

theorem InPlaceCalls.calls (ht : InPlaceCalls w.p bytes mode w.N t r) (hb : w.inPlace = true) :
    ∀ c ∈ t, w.Calls c.1 := by
  cases ht with
  | refused =>
    intro c hc
    rw [List.mem_singleton.mp hc, ← Creator.made_of_inPlace hb]
    exact .create mode
  | written _ hf =>
    intro c hc
    simp only [List.cons_append, List.mem_cons, List.mem_append] at hc
    rcases hc with rfl | hc | rfl | hc
    · rw [← Creator.made_of_inPlace hb]
      exact .create mode
    · exact .flags (hf c (List.mem_append_left _ hc))
    · exact .write bytes
    · exact .flags (hf c (List.mem_append_right _ hc))

theorem StagedCalls.calls (ht : StagedCalls w.p w.sp bytes mode w.N t r) (hb : w.inPlace = false) :
    ∀ c ∈ t, w.Calls c.1 := by
  cases ht with
  | refused =>
    intro c hc
    rw [List.mem_singleton.mp hc, ← Creator.made_of_staged hb]
    exact .create mode
  | linked _ hf hv =>
    intro c hc
    simp only [List.cons_append, List.mem_cons, List.mem_append] at hc
    rcases hc with rfl | (hc | rfl | hc) | rfl | rfl | hc
    · rw [← Creator.made_of_staged hb]
      exact .create mode
    · exact .flags (hf c (List.mem_append_left _ hc))
    · exact .write bytes
    · exact .flags (hf c (List.mem_append_right _ hc))
    · exact .publish
    · exact .unlink
    · obtain ⟨n, hn⟩ := hv c hc
      exact .flags (.inr (.inr ⟨n, hn⟩))

/-- Every call of a fresh write is one of the calls `Creator.Calls` lists, for the path it
creates. -/
theorem FreshCalls.calls {root : Path} {b : Bool}
    (ht : FreshCalls root w.p w.sp bytes mode w.N b t r) (hb : w.inPlace = b) :
    ∀ c ∈ t, w.Calls c.1 := by
  -- both routes start with the look at the file and the queries of the root's type
  have hlooks : ∀ {g₀ : Host} {u t' : List (Call × Host)}, (∀ c ∈ u, c.1 = .statfs root) →
      (∀ c ∈ t', w.Calls c.1) → ∀ c ∈ (.observe w.p, g₀) :: u ++ t', w.Calls c.1 := by
    intro g₀ u t' hu ht' c hc
    simp only [List.cons_append, List.mem_cons, List.mem_append] at hc
    rcases hc with rfl | hc | hc
    · exact .observe
    · rw [hu c hc]
      exact .statfs _
    · exact ht' c hc
  cases ht with
  | inPlace hu hb' ht' =>
    subst hb'
    exact hlooks hu (ht'.calls hb)
  | staged hu hb' ht' =>
    subst hb'
    exact hlooks hu (ht'.calls hb)

end Scripts

end Store

namespace Request

open StoreM Store

variable {st st' : Store} {t : List (Call × Host)}

end Request

/-! ## §3. Creators racing along a log -/

/-- Creators `w 0`, …, `w (n - 1)` of the file named `q` in directory `r` below the root path
`root`: each has a staging name of its own that is not `q`, and their paths resolve to their names
in `r`. -/
structure Rivals where
  n : Nat
  root : Path
  r : Nat
  q : Bytes
  w : Nat → Creator
  r_eq : ∀ i < n, (w i).r = r
  q_eq : ∀ i < n, (w i).q = q
  s_ne : ∀ i < n, (w i).s ≠ (w i).q
  s_inj : ∀ i < n, ∀ j < n, (w i).s = (w j).s → i = j
  located : ∀ i < n, (w i).Located root

namespace Rivals

variable {R : Rivals} {e : Event}

/-- A call of the log is made by one of the rival threads, against a quiet host whose root is
directory `r`, and is one of the calls its thread's creator makes. -/
def Moves (R : Rivals) (e : Event) : Prop :=
  e.thread < R.n ∧ e.host.Quiet ∧ RootAt R.root e.host.fs R.r ∧ (R.w e.thread).Calls e.call

theorem Moves.step (hm : R.Moves e) :
    (R.w e.thread).Step e.call e.host.fs (e.host.exec e.call).2.fs := by
  obtain ⟨hi, hq, hroot, hc⟩ := hm
  rw [← R.r_eq _ hi] at hroot
  exact Creator.Calls.step (R.located _ hi) hq hroot hc

/-- Such a call meets a quiet host whose root is its creator's directory. -/
theorem Moves.ready (hm : R.Moves e) :
    (R.w e.thread).Located R.root ∧ e.host.Quiet ∧ RootAt R.root e.host.fs (R.w e.thread).r := by
  obtain ⟨hi, hq, hroot, -⟩ := hm
  exact ⟨R.located _ hi, hq, by rw [R.r_eq _ hi]; exact hroot⟩

/-- The host after such a call is quiet, and its root is still directory `r`. -/
theorem Moves.next (hm : R.Moves e) :
    (e.host.exec e.call).2.Quiet ∧ RootAt R.root (e.host.exec e.call).2.fs R.r :=
  ⟨hm.2.1.exec _, hm.2.2.1.keeps hm.step.keepsDirs⟩

theorem Moves.final_none (hm : R.Moves e) (hc : ¬ (R.w e.thread).Claims e.call)
    (h₀ : e.host.fs.lookupIn R.r R.q = none) :
    (e.host.exec e.call).2.fs.lookupIn R.r R.q = none := by
  have hs := hm.step
  obtain ⟨hi, -, hroot, -⟩ := hm
  rw [← R.r_eq _ hi, ← R.q_eq _ hi] at h₀ ⊢
  rw [← R.r_eq _ hi] at hroot
  exact hs.lookupIn_final_none hroot.isDir (R.s_ne _ hi) h₀ hc

theorem Moves.final_some (hm : R.Moves e) {j : Nat} (h₀ : e.host.fs.lookupIn R.r R.q = some j) :
    (e.host.exec e.call).2.fs.lookupIn R.r R.q = some j := by
  have hs := hm.step
  obtain ⟨hi, -, hroot, -⟩ := hm
  rw [← R.r_eq _ hi, ← R.q_eq _ hi] at h₀ ⊢
  rw [← R.r_eq _ hi] at hroot
  exact hs.lookupIn_final_some hroot.isDir (R.s_ne _ hi) h₀

/-- A call leaves the staging name of thread `j` as it was unless thread `j` moves it: no other
creator's names are that name. -/
theorem Moves.staging (hm : R.Moves e) {j : Nat} (hj : j < R.n)
    (hc : e.thread = j → ¬ (R.w j).Stages e.call) :
    (e.host.exec e.call).2.fs.lookupIn R.r (R.w j).s = e.host.fs.lookupIn R.r (R.w j).s := by
  have hs := hm.step
  obtain ⟨hi, -, hroot, -⟩ := hm
  rw [← R.r_eq _ hi] at hroot ⊢
  by_cases hij : e.thread = j
  · subst hij
    exact hs.lookupIn_staging hroot.isDir (R.s_ne _ hi) (hc rfl)
  · have hsq : (R.w j).s ≠ (R.w e.thread).q := by
      rw [R.q_eq _ hi, ← R.q_eq _ hj]
      exact R.s_ne _ hj
    have hss : (R.w j).s ≠ (R.w e.thread).s := fun h => hij (R.s_inj _ hi _ hj h.symm)
    refine hs.lookupIn_of_ne hroot.isDir ?_ hsq hss
    cases hb : (R.w e.thread).inPlace
    · rw [Creator.m_of_staged hb]
      exact hss
    · rw [Creator.m_of_inPlace hb]
      exact hsq

/-- A stretch of the log made of such calls, whose hosts follow one another from `h` to `h'`. -/
structure Race (R : Rivals) (log : List Event) (h h' : Host) : Prop where
  chain : Host.Chain h (log.map fun e => (e.call, e.host)) h'
  moves : ∀ e ∈ log, R.Moves e

namespace Race

variable {log l₁ l₂ : List Event} {h h' : Host}

theorem append_inv (hr : R.Race (l₁ ++ l₂) h h') : ∃ g, R.Race l₁ h g ∧ R.Race l₂ g h' := by
  have hc := hr.chain
  rw [List.map_append] at hc
  obtain ⟨g, h₁, h₂⟩ := hc.append_inv
  exact ⟨g, ⟨h₁, fun e he => hr.moves e (List.mem_append_left _ he)⟩,
    ⟨h₂, fun e he => hr.moves e (List.mem_append_right _ he)⟩⟩

/-- A call of a stretch cuts it in two: the calls before it end at the host it meets, and the
calls after it start from the host it leaves. -/
theorem middle_inv (hr : R.Race (l₁ ++ e :: l₂) h h') :
    R.Race l₁ h e.host ∧ R.Moves e ∧ R.Race l₂ (e.host.exec e.call).2 h' := by
  have hc := hr.chain
  rw [List.map_append, List.map_cons] at hc
  obtain ⟨h₁, h₂⟩ := hc.middle_inv
  exact ⟨⟨h₁, fun e he => hr.moves e (List.mem_append_left _ he)⟩, hr.moves e (by simp),
    ⟨h₂, fun e' he => hr.moves e' (by simp [he])⟩⟩

variable (hr : R.Race log h h') {P : Host → Prop} (h₀ : P h)
  (hstep : ∀ e ∈ log, P e.host → P (e.host.exec e.call).2)
include hr h₀ hstep

/-- What every call of a stretch keeps holds where it ends. -/
theorem keeps : P h' :=
  hr.chain.keeps h₀ (List.forall_mem_map.mpr hstep)

/-- What every call of a stretch keeps holds at every host it passes. -/
theorem keeps_mem : ∀ e ∈ log, P e.host := fun _ he =>
  hr.chain.keeps_mem h₀ (List.forall_mem_map.mpr hstep) _ (List.mem_map_of_mem he)

/-- What every call of a stretch keeps holds all along it. -/
theorem keeps_along : (∀ e ∈ log, P e.host) ∧ P h' :=
  ⟨hr.keeps_mem h₀ hstep, hr.keeps h₀ hstep⟩

end Race

variable {log : List Event} {h h' : Host}

/-- The final name stays free along a stretch that does not claim it. -/
theorem Race.final_none (hr : R.Race log h h') (h₀ : h.fs.lookupIn R.r R.q = none)
    (hc : ∀ e ∈ log, ¬ (R.w e.thread).Claims e.call) :
    (∀ e ∈ log, e.host.fs.lookupIn R.r R.q = none) ∧ h'.fs.lookupIn R.r R.q = none :=
  hr.keeps_along (P := fun g => g.fs.lookupIn R.r R.q = none) h₀
    fun e he => (hr.moves e he).final_none (hc e he)

/-- Once the final name names a file, it names it along every stretch. -/
theorem Race.final_some (hr : R.Race log h h') {j : Nat} (h₀ : h.fs.lookupIn R.r R.q = some j) :
    (∀ e ∈ log, e.host.fs.lookupIn R.r R.q = some j) ∧ h'.fs.lookupIn R.r R.q = some j :=
  hr.keeps_along (P := fun g => g.fs.lookupIn R.r R.q = some j) h₀
    fun e he => (hr.moves e he).final_some

/-- The staging name of thread `j` keeps what it names along a stretch in which thread `j` does
not move it. -/
theorem Race.staging (hr : R.Race log h h') {j : Nat} (hj : j < R.n)
    (hc : ∀ c ∈ Pool.calls j log, ¬ (R.w j).Stages c.1) :
    h'.fs.lookupIn R.r (R.w j).s = h.fs.lookupIn R.r (R.w j).s :=
  hr.keeps (P := fun g => g.fs.lookupIn R.r (R.w j).s = h.fs.lookupIn R.r (R.w j).s) rfl
    fun e he h₀ => by
      rw [← h₀]
      refine (hr.moves e he).staging hj fun hij => ?_
      subst hij
      exact hc _ (Pool.mem_calls.mpr he)

/-- The inodes only grow in number along a stretch. -/
theorem Race.size_le (hr : R.Race log h h') :
    (∀ e ∈ log, h.fs.inodes.size ≤ e.host.fs.inodes.size) ∧
      h.fs.inodes.size ≤ h'.fs.inodes.size :=
  hr.keeps_along (P := fun g => h.fs.inodes.size ≤ g.fs.inodes.size) (Nat.le_refl _)
    fun e he hle => Nat.le_trans hle (hr.moves e he).step.keepsDirs.size_le

/-- A file keeps its bytes, and stays a file, along a stretch with no write to it. -/
theorem Race.read (hr : R.Race log h h') {N : Nat} (hN : N < h.fs.inodes.size)
    (hc : ∀ e ∈ log, ∀ bs, e.call ≠ .write ⟨N, .write⟩ 0 bs) :
    h'.fs.read N = h.fs.read N ∧ h'.fs.isDir N = h.fs.isDir N :=
  have hstep : ∀ e ∈ log, (N < e.host.fs.inodes.size ∧ e.host.fs.read N = h.fs.read N ∧
      e.host.fs.isDir N = h.fs.isDir N) → (N < (e.host.exec e.call).2.fs.inodes.size ∧
      (e.host.exec e.call).2.fs.read N = h.fs.read N ∧
        (e.host.exec e.call).2.fs.isDir N = h.fs.isDir N) := by
    rintro e he ⟨hlt, hrd, hdir⟩
    have hs := (hr.moves e he).step
    exact ⟨Nat.lt_of_lt_of_le hlt hs.keepsDirs.size_le, by rw [hs.read_of_ne hlt (hc e he), hrd],
      by rw [hs.isDir_of_lt hlt, hdir]⟩
  (hr.keeps (P := fun g => N < g.fs.inodes.size ∧ g.fs.read N = h.fs.read N ∧
    g.fs.isDir N = h.fs.isDir N) ⟨hN, rfl, rfl⟩ hstep).2

/-- The staging name of thread `j` names the regular file `N`. -/
def Holds (R : Rivals) (j N : Nat) (fs : Fs) : Prop :=
  fs.lookupIn R.r (R.w j).s = some N ∧ N < fs.inodes.size ∧ fs.isDir N = false

/-- A staging file stays put along a stretch in which its thread does not move its name. -/
theorem Race.holds (hr : R.Race log h h') {j N : Nat} (hj : j < R.n)
    (hc : ∀ c ∈ Pool.calls j log, ¬ (R.w j).Stages c.1) (h₀ : R.Holds j N h.fs) :
    (∀ e ∈ log, R.Holds j N e.host.fs) ∧ R.Holds j N h'.fs :=
  have hstep : ∀ e ∈ log, R.Holds j N e.host.fs → R.Holds j N (e.host.exec e.call).2.fs := by
    rintro e he ⟨hs, hlt, hdir⟩
    have hm := hr.moves e he
    refine ⟨?_, Nat.lt_of_lt_of_le hlt hm.step.keepsDirs.size_le, by
      rw [hm.step.isDir_of_lt hlt, hdir]⟩
    rw [hm.staging hj fun hij => ?_, hs]
    subst hij
    exact hc _ (Pool.mem_calls.mpr he)
  hr.keeps_along (P := fun g => R.Holds j N g.fs) h₀ hstep

end Rivals

/-! ## §4. Each rival's calls along the log -/

namespace Creator

variable {w : Creator} {c : Call}

/-- A call that neither claims the final name, moves the staging name nor writes. -/
def Calm (w : Creator) (c : Call) : Prop :=
  ¬ w.Claims c ∧ ¬ w.Stages c ∧ ∀ hd bs, c ≠ .write hd 0 bs

theorem calm_of_flags {hd : Handle} (hf : c.Flags hd) : w.Calm c := by
  rcases hf with rfl | ⟨_, rfl⟩ | ⟨_, rfl⟩ <;> simp [Calm, Claims, Stages]

theorem calm_of_note (hn : ∃ n, c = .note n) : w.Calm c := by
  obtain ⟨n, rfl⟩ := hn
  simp [Calm, Claims, Stages]

/-- A write's first calls only look: at its file, and at the root's type. -/
theorem calm_looks {root : Path} (g₀ : Host) {u : List (Call × Host)}
    (hu : ∀ c ∈ u, c.1 = .statfs root) : ∀ c ∈ (.observe w.p, g₀) :: u, w.Calm c.1 := by
  intro c hc
  rcases List.mem_cons.mp hc with rfl | hc
  · simp [Calm, Claims, Stages]
  · rw [hu c hc]
    simp [Calm, Claims, Stages]

end Creator

/-- Rival fresh writes over a whole log from `h` to `h'`: thread `i` makes the calls of a fresh
write by its creator, writing `bytes i` and ending with `res i`, and the final name and every
staging name are free at the start. -/
structure Contest (R : Rivals) (log : List Event) (h h' : Host) (bytes : Nat → Bytes)
    (res : Nat → Except StoreError Unit) : Prop where
  race : R.Race log h h'
  script : ∀ i < R.n, ∃ mode, FreshCalls R.root (R.w i).p (R.w i).sp (bytes i) mode (R.w i).N
    (R.w i).inPlace (Pool.calls i log) (res i)
  free : h.fs.lookupIn R.r R.q = none
  unstaged : ∀ i < R.n, h.fs.lookupIn R.r (R.w i).s = none

namespace Contest

variable {R : Rivals} {log : List Event} {h h' : Host} {bytes : Nat → Bytes}
  {res : Nat → Except StoreError Unit} {i : Nat}

/-- Each call of a thread meets a quiet host whose root is its creator's directory. -/
theorem ready (hc : Contest R log h h' bytes res) {c : Call} {g : Host}
    (hmem : (c, g) ∈ Pool.calls i log) :
    (R.w i).Located R.root ∧ g.Quiet ∧ RootAt R.root g.fs (R.w i).r :=
  (hc.race.moves _ (Pool.mem_calls.mp hmem)).ready

/-- A thread's staging name is still free when the thread's earlier calls only looked. -/
theorem unstaged_before (hc : Contest R log h h' bytes res) (hi : i < R.n)
    {pre post : List (Call × Host)} {c : Call} {g : Host}
    (ht : Pool.calls i log = pre ++ (c, g) :: post) (hpre : ∀ c ∈ pre, (R.w i).Calm c.1) :
    g.fs.lookupIn R.r (R.w i).s = none := by
  obtain ⟨l₁, l₂, hlog, h₁, -⟩ := Pool.calls_eq_append_cons ht
  have hr := hc.race
  rw [hlog] at hr
  rw [hr.middle_inv.1.staging hi (by rw [h₁]; exact fun c hc => (hpre c hc).2.1), hc.unstaged i hi]

/-- A staged write holds its own staging file from its create to its removal: at the link the
staging name names the file the create made, a regular file, and at the end the name is free
again. -/
theorem staged_held (hc : Contest R log h h' bytes res) (hi : i < R.n)
    (hb : (R.w i).inPlace = false) {pre f₁ f₂ v : List (Call × Host)} {mode : Nat}
    {g g₂ g₃ g₄ : Host} {bs : Bytes}
    (ht : Pool.calls i log = pre ++ (.reopen (R.w i).sp (.createNew mode), g) ::
      (f₁ ++ (.write ⟨(R.w i).N, .write⟩ 0 bs, g₂) :: f₂ ++
        (.publish (R.w i).sp (R.w i).p, g₃) :: (.unlink (R.w i).sp, g₄) :: v))
    (hpre : ∀ c ∈ pre, (R.w i).Calm c.1) (hf : ∀ c ∈ f₁ ++ f₂, (R.w i).Calm c.1)
    (hv : ∀ c ∈ v, (R.w i).Calm c.1)
    (he : (g.exec (.reopen (R.w i).sp (.createNew mode))).1 = .ok ⟨(R.w i).N, .write⟩) :
    R.Holds i (R.w i).N g₃.fs ∧ h'.fs.lookupIn R.r (R.w i).s = none := by
  -- cut the log at the create and at the removal of the staging file
  have ht' : Pool.calls i log = pre ++ (.reopen (R.w i).sp (.createNew mode), g) ::
      ((f₁ ++ (.write ⟨(R.w i).N, .write⟩ 0 bs, g₂) :: f₂ ++ [(.publish (R.w i).sp (R.w i).p, g₃)])
        ++ (.unlink (R.w i).sp, g₄) :: v) := by
    rw [ht]
    simp
  obtain ⟨l₁, l₂, l₃, hlog, -, h₂, h₃⟩ := Pool.calls_eq_append_cons_append_cons ht'
  have hr := hc.race
  rw [hlog] at hr
  obtain ⟨-, hmc, hr'⟩ := hr.middle_inv
  obtain ⟨hr₂, hmu, hr₃⟩ := hr'.middle_inv
  obtain ⟨hl, hq, hroot⟩ := hmc.ready
  dsimp only at hl hq hroot
  -- the create made the next inode under the free staging name
  have hs₀ := hc.unstaged_before hi ht hpre
  rw [← Creator.m_of_staged hb, ← R.r_eq _ hi] at hs₀
  rw [← Creator.made_of_staged hb] at he
  obtain ⟨-, hN⟩ := Creator.free_of_create_ok hl hq hroot he
  obtain ⟨hs₁, -, hd₁, hsz₁⟩ := Creator.created hl hq hroot hs₀ mode
  rw [Creator.m_of_staged hb, R.r_eq _ hi] at hs₁
  have hN' : (R.w i).N = g.fs.inodes.size := (Handle.mk.inj hN).1
  have hheld : R.Holds i (R.w i).N (g.exec (.reopen (R.w i).made (.createNew mode))).2.fs :=
    ⟨by rw [hN']; exact hs₁, by omega, by rw [hN']; exact hd₁⟩
  -- the thread moves the staging name again only by removing it
  have hstill : ∀ c ∈ Pool.calls i l₂, ¬ (R.w i).Stages c.1 := by
    rw [h₂]
    intro c hc'
    simp only [List.append_assoc, List.cons_append, List.mem_append, List.mem_cons,
      List.not_mem_nil, or_false] at hc'
    rcases hc' with hc' | rfl | hc' | rfl
    · exact (hf c (List.mem_append_left _ hc')).2.1
    · simp [Creator.Stages]
    · exact (hf c (List.mem_append_right _ hc')).2.1
    · simp [Creator.Stages]
  rw [Creator.made_of_staged hb] at hheld
  obtain ⟨hmid, hend⟩ := hr₂.holds hi hstill hheld
  refine ⟨hmid ⟨i, .publish (R.w i).sp (R.w i).p, g₃⟩ (Pool.mem_calls.mp (by rw [h₂]; simp)), ?_⟩
  -- the removal frees the name, and the thread only reports after it
  obtain ⟨hs₄, -, hd₄⟩ := hend
  have hfree := Creator.unstaged (R.located _ hi) (by rw [R.r_eq _ hi]; exact hmu.2.2.1)
    (by rw [R.r_eq _ hi]; exact hs₄) hd₄
  rw [R.r_eq _ hi] at hfree
  rw [hr₃.staging hi (by rw [h₃]; exact fun c hc' => (hv c hc').2.1)]
  exact hfree

/-- The three ways a thread's calls run: a create in place that was refused, a create in place
that made the thread's file and wrote it, or a staged create that made the staging file, wrote
it, linked it and removed it. A staged create is never refused: its staging name is free. -/
theorem script_cases (hc : Contest R log h h' bytes res) (hi : i < R.n) {P : Prop}
    (refused : ∀ pre mode g e, Pool.calls i log = pre ++ [(.reopen (R.w i).p (.createNew mode), g)] →
      (∀ c ∈ pre, (R.w i).Calm c.1) → (R.w i).inPlace = true →
      (g.exec (.reopen (R.w i).p (.createNew mode))).1 = .error e →
      res i = .error (if e.isAlreadyExists then .race (R.w i).p .created
        else .ofOs "create" (R.w i).p e) → P)
    (written : ∀ pre mode g f₁ g' f₂, Pool.calls i log = pre ++
        (.reopen (R.w i).p (.createNew mode), g) ::
          (f₁ ++ (.write ⟨(R.w i).N, .write⟩ 0 (bytes i), g') :: f₂) →
      (∀ c ∈ pre, (R.w i).Calm c.1) → (R.w i).inPlace = true →
      (g.exec (.reopen (R.w i).p (.createNew mode))).1 = .ok ⟨(R.w i).N, .write⟩ →
      (∀ c ∈ f₁ ++ f₂, (R.w i).Calm c.1) → res i = .ok () → P)
    (linked : ∀ pre mode g f₁ g₂ f₂ g₃ g₄ v, Pool.calls i log = pre ++
        (.reopen (R.w i).sp (.createNew mode), g) ::
          (f₁ ++ (.write ⟨(R.w i).N, .write⟩ 0 (bytes i), g₂) :: f₂ ++
            (.publish (R.w i).sp (R.w i).p, g₃) :: (.unlink (R.w i).sp, g₄) :: v) →
      (∀ c ∈ pre, (R.w i).Calm c.1) → (R.w i).inPlace = false →
      (g.exec (.reopen (R.w i).sp (.createNew mode))).1 = .ok ⟨(R.w i).N, .write⟩ →
      (∀ c ∈ f₁ ++ f₂, (R.w i).Calm c.1) → (∀ c ∈ v, (R.w i).Calm c.1) →
      res i = linkReply (R.w i).p (g₃.exec (.publish (R.w i).sp (R.w i).p)).1 → P) : P := by
  obtain ⟨mode, hs⟩ := hc.script i hi
  generalize hcl : Pool.calls i log = t at hs
  generalize hri : res i = ri at hs
  cases hs with
  | @inPlace g₀ u t' r hu hb ht =>
    have hpre := Creator.calm_looks (w := R.w i) g₀ hu
    cases ht with
    | @refused g e he => exact refused _ mode g e (by rw [hcl]) hpre hb he hri
    | @written g g' f₁ f₂ he hf =>
      exact written _ mode g f₁ g' f₂ (by rw [hcl]; simp) hpre hb he
        (fun c hc => Creator.calm_of_flags (hf c hc)) hri
  | @staged g₀ u t' r hu hb ht =>
    have hpre := Creator.calm_looks (w := R.w i) g₀ hu
    cases ht with
    | @refused g e he =>
      -- the staging name is free when the thread creates it, so the create is not refused
      exfalso
      have ht : Pool.calls i log = ((.observe (R.w i).p, g₀) :: u) ++
          (.reopen (R.w i).sp (.createNew mode), g) :: [] := by
        rw [hcl]
      have hs₀ := hc.unstaged_before hi ht hpre
      obtain ⟨hl, hq, hroot⟩ := hc.ready (by rw [ht]; simp :
        (Call.reopen (R.w i).sp (.createNew mode), g) ∈ Pool.calls i log)
      rw [← Creator.m_of_staged hb, ← R.r_eq _ hi] at hs₀
      have hx := Creator.exec_create_free hl hq hroot hs₀ mode
      rw [Creator.made_of_staged hb] at hx
      rw [hx] at he
      cases he
    | @linked g g₂ g₃ g₄ f₁ f₂ v he hf hv =>
      exact linked _ mode g f₁ g₂ f₂ g₃ g₄ v (by rw [hcl]; simp) hpre hb he
        (fun c hc => Creator.calm_of_flags (hf c hc)) (fun c hc => Creator.calm_of_note (hv c hc)) hri

end Contest

/-- Thread `i` claims the final name once in the log, with the call `c` at host `g`: if the name
is free there, the claim gives it the thread's file and the thread succeeds; if it is taken, the
thread fails with a race. -/
structure Rivals.ClaimsAt (R : Rivals) (log : List Event) (res : Nat → Except StoreError Unit)
    (i : Nat) (c : Call) (g : Host) : Prop where
  mem : ⟨i, c, g⟩ ∈ log
  claims : (R.w i).Claims c
  unique : ∀ c' g', (c', g') ∈ Pool.calls i log → (R.w i).Claims c' → c' = c ∧ g' = g
  won : g.fs.lookupIn R.r R.q = none →
    res i = .ok () ∧ (g.exec c).2.fs.lookupIn R.r R.q = some (R.w i).N
  lost : ∀ j, g.fs.lookupIn R.r R.q = some j → res i = .error (.race (R.w i).p .created)

namespace Contest

variable {R : Rivals} {log : List Event} {h h' : Host} {bytes : Nat → Bytes}
  {res : Nat → Except StoreError Unit} {i : Nat}

/-- The one entry of a list that has a property is the entry it was put at. -/
theorem eq_of_mem_of_only {α : Type} {P : α → Prop} {pre post : List α} {x y : α}
    (hpre : ∀ z ∈ pre, ¬ P z) (hpost : ∀ z ∈ post, ¬ P z) (hy : y ∈ pre ++ x :: post) (hP : P y) :
    y = x := by
  rcases List.mem_append.mp hy with hy | hy
  · exact absurd hP (hpre y hy)
  · rcases List.mem_cons.mp hy with rfl | hy
    · rfl
    · exact absurd hP (hpost y hy)

/-- The claim of a write that creates the final name in place: the create answers with the
thread's file when the name is free, and is refused as taken otherwise. -/
theorem claimsAt_create (hc : Contest R log h h' bytes res) (hi : i < R.n)
    (hb : (R.w i).inPlace = true) {pre post : List (Call × Host)} {mode : Nat} {g : Host}
    (ht : Pool.calls i log = pre ++ (.reopen (R.w i).p (.createNew mode), g) :: post)
    (hpre : ∀ c ∈ pre, ¬ (R.w i).Claims c.1) (hpost : ∀ c ∈ post, ¬ (R.w i).Claims c.1)
    (herr : ∀ e, (g.exec (.reopen (R.w i).p (.createNew mode))).1 = .error e →
      res i = .error (if e.isAlreadyExists then .race (R.w i).p .created
        else .ofOs "create" (R.w i).p e))
    (hok : ∀ hd, (g.exec (.reopen (R.w i).p (.createNew mode))).1 = .ok hd →
      hd = ⟨(R.w i).N, .write⟩ ∧ res i = .ok ()) :
    R.ClaimsAt log res i (.reopen (R.w i).p (.createNew mode)) g := by
  have hmem : (.reopen (R.w i).p (.createNew mode), g) ∈ Pool.calls i log := by
    rw [ht]
    simp
  obtain ⟨hl, hq, hroot⟩ := hc.ready hmem
  have hmade : (R.w i).made = (R.w i).p := Creator.made_of_inPlace hb
  have hm : (R.w i).m = (R.w i).q := Creator.m_of_inPlace hb
  refine ⟨Pool.mem_calls.mp hmem, .inr ⟨hb, mode, rfl⟩, fun c' g' hc' hcl => ?_, fun hfree => ?_,
    fun j htaken => ?_⟩
  · rw [ht] at hc'
    exact Prod.mk.inj (eq_of_mem_of_only (P := fun c => (R.w i).Claims c.1) hpre hpost hc' hcl)
  · -- the free name is created, as the thread's file
    rw [← R.r_eq _ hi, ← R.q_eq _ hi, ← hm] at hfree ⊢
    have hx := Creator.exec_create_free hl hq hroot hfree mode
    have hy := (Creator.created hl hq hroot hfree mode).1
    rw [hmade] at hx hy
    obtain ⟨hN, hres⟩ := hok _ (by rw [hx])
    rw [hy, (Handle.mk.inj hN).1]
    exact ⟨hres, rfl⟩
  · -- the taken name is refused, as taken
    rw [← R.r_eq _ hi, ← R.q_eq _ hi, ← hm] at htaken
    have hx := Creator.exec_create_taken hl hq hroot htaken mode
    rw [hmade] at hx
    rw [herr _ (by rw [hx])]
    rfl

/-- The claim of a write through a staging file: its link succeeds when the final name is free,
and is refused as taken otherwise. -/
theorem claimsAt_publish (hc : Contest R log h h' bytes res) (hi : i < R.n)
    {pre post : List (Call × Host)} {g : Host}
    (ht : Pool.calls i log = pre ++ (.publish (R.w i).sp (R.w i).p, g) :: post)
    (hpre : ∀ c ∈ pre, ¬ (R.w i).Claims c.1) (hpost : ∀ c ∈ post, ¬ (R.w i).Claims c.1)
    (hheld : R.Holds i (R.w i).N g.fs)
    (hres : res i = linkReply (R.w i).p (g.exec (.publish (R.w i).sp (R.w i).p)).1) :
    R.ClaimsAt log res i (.publish (R.w i).sp (R.w i).p) g := by
  have hmem : (.publish (R.w i).sp (R.w i).p, g) ∈ Pool.calls i log := by
    rw [ht]
    simp
  obtain ⟨hl, hq, hroot⟩ := hc.ready hmem
  obtain ⟨hs, -, hd⟩ := hheld
  rw [← R.r_eq _ hi] at hs
  refine ⟨Pool.mem_calls.mp hmem, .inl rfl, fun c' g' hc' hcl => ?_, fun hfree => ?_,
    fun j htaken => ?_⟩
  · rw [ht] at hc'
    exact Prod.mk.inj (eq_of_mem_of_only (P := fun c => (R.w i).Claims c.1) hpre hpost hc' hcl)
  · -- the link gives the free name to the staging file
    rw [← R.r_eq _ hi, ← R.q_eq _ hi] at hfree ⊢
    rw [Creator.exec_publish_free hl hq hroot hs hfree hd] at hres ⊢
    exact ⟨hres, by simp [lookupIn_addEntry_self hroot.isDir, hfree]⟩
  · -- the link to the taken name is refused, as taken
    rw [← R.r_eq _ hi, ← R.q_eq _ hi] at htaken
    rw [hres, Creator.exec_publish_taken hl hq hroot hs htaken]
    rfl

/-- Every thread claims the final name exactly once: a write in place by its create, a staged
write by its link. -/
theorem claim (hc : Contest R log h h' bytes res) (hi : i < R.n) :
    ∃ c g, R.ClaimsAt log res i c g := by
  apply hc.script_cases hi
  · intro pre mode g e ht hpre hb he hres
    refine ⟨_, _, hc.claimsAt_create hi hb ht (fun c hc' => (hpre c hc').1) (by simp)
      (fun e' he' => ?_) (fun hd h => ?_)⟩
    · rw [he] at he'
      cases he'
      exact hres
    · rw [he] at h
      cases h
  · intro pre mode g f₁ g' f₂ ht hpre hb he hf hres
    refine ⟨_, _, hc.claimsAt_create hi hb ht (fun c hc' => (hpre c hc').1) ?_
      (fun e' he' => ?_) (fun hd h => ?_)⟩
    · intro c hc'
      rcases List.mem_append.mp hc' with hc' | hc'
      · exact (hf c (List.mem_append_left _ hc')).1
      · rcases List.mem_cons.mp hc' with rfl | hc'
        · simp [Creator.Claims]
        · exact (hf c (List.mem_append_right _ hc')).1
    · rw [he] at he'
      cases he'
    · rw [he] at h
      cases h
      exact ⟨rfl, hres⟩
  · intro pre mode g f₁ g₂ f₂ g₃ g₄ v ht hpre hb he hf hv hres
    obtain ⟨hheld, -⟩ := hc.staged_held hi hb ht hpre hf hv he
    have ht' : Pool.calls i log = (pre ++ (.reopen (R.w i).sp (.createNew mode), g) :: f₁ ++
        (.write ⟨(R.w i).N, .write⟩ 0 (bytes i), g₂) :: f₂) ++
        (.publish (R.w i).sp (R.w i).p, g₃) :: ((.unlink (R.w i).sp, g₄) :: v) := by
      rw [ht]
      simp
    refine ⟨_, _, hc.claimsAt_publish hi ht' ?_ ?_ hheld hres⟩
    · -- before the link: looks, the staging create, the write and the window
      have hf₁ : ∀ c ∈ f₁ ++ f₂, ¬ (R.w i).Claims c.1 := fun c hc' => (hf c hc').1
      simp only [List.forall_mem_append, List.forall_mem_cons] at hf₁ ⊢
      exact ⟨⟨fun c hc' => (hpre c hc').1, by simp [Creator.Claims, hb], hf₁.1⟩,
        by simp [Creator.Claims], hf₁.2⟩
    · -- after it: the removal and the reports
      simp only [List.forall_mem_cons]
      exact ⟨by simp [Creator.Claims], fun c hc' => (hv c hc').1⟩

/-- No staging file is left: a write in place never touches its staging name, and a staged write
removes the one it made. -/
theorem unstaged_end (hc : Contest R log h h' bytes res) (hi : i < R.n) :
    h'.fs.lookupIn R.r (R.w i).s = none := by
  apply hc.script_cases hi
  · intro pre mode g e ht hpre hb _ _
    rw [hc.race.staging hi ?_, hc.unstaged i hi]
    rw [ht]
    simp only [List.forall_mem_append, List.forall_mem_cons, List.not_mem_nil]
    exact ⟨fun c hc' => (hpre c hc').2.1, by simp [Creator.Stages, hb], fun _ h => h.elim⟩
  · intro pre mode g f₁ g' f₂ ht hpre hb _ hf _
    rw [hc.race.staging hi ?_, hc.unstaged i hi]
    have hf' : ∀ c ∈ f₁ ++ f₂, ¬ (R.w i).Stages c.1 := fun c hc' => (hf c hc').2.1
    rw [ht]
    simp only [List.forall_mem_append, List.forall_mem_cons] at hf' ⊢
    exact ⟨fun c hc' => (hpre c hc').2.1, by simp [Creator.Stages, hb], hf'.1,
      by simp [Creator.Stages], hf'.2⟩
  · intro pre mode g f₁ g₂ f₂ g₃ g₄ v ht hpre hb he hf hv _
    exact (hc.staged_held hi hb ht hpre hf hv he).2

/-- A thread writes only the file its create made, and only after the create made it. -/
theorem write_inv (hc : Contest R log h h' bytes res) (hi : i < R.n) {hd : Handle} {bs : Bytes}
    {g' : Host} (hw : (.write hd 0 bs, g') ∈ Pool.calls i log) :
    hd = ⟨(R.w i).N, .write⟩ ∧ ∃ mode g, ⟨i, .reopen (R.w i).made (.createNew mode), g⟩ ∈ log ∧
      (g.exec (.reopen (R.w i).made (.createNew mode))).1 = .ok ⟨(R.w i).N, .write⟩ := by
  apply hc.script_cases hi
  · intro pre mode g e ht hpre hb _ _
    rw [ht] at hw
    simp only [List.mem_append, List.mem_cons, List.not_mem_nil, or_false, Prod.mk.injEq] at hw
    rcases hw with hw | ⟨hw, -⟩
    · exact absurd rfl ((hpre _ hw).2.2 hd bs)
    · cases hw
  · intro pre mode g f₁ g₂ f₂ ht hpre hb he hf _
    have hcreate : ⟨i, .reopen (R.w i).made (.createNew mode), g⟩ ∈ log := by
      rw [Creator.made_of_inPlace hb, ← Pool.mem_calls, ht]
      simp
    refine ⟨?_, mode, g, hcreate, by rw [Creator.made_of_inPlace hb]; exact he⟩
    rw [ht] at hw
    simp only [List.mem_append, List.mem_cons, Prod.mk.injEq] at hw
    rcases hw with hw | ⟨hw, -⟩ | hw | ⟨hw, -⟩ | hw
    · exact absurd rfl ((hpre _ hw).2.2 hd bs)
    · cases hw
    · exact absurd rfl ((hf _ (List.mem_append_left _ hw)).2.2 hd bs)
    · cases hw
      rfl
    · exact absurd rfl ((hf _ (List.mem_append_right _ hw)).2.2 hd bs)
  · intro pre mode g f₁ g₂ f₂ g₃ g₄ v ht hpre hb he hf hv _
    have hcreate : ⟨i, .reopen (R.w i).made (.createNew mode), g⟩ ∈ log := by
      rw [Creator.made_of_staged hb, ← Pool.mem_calls, ht]
      simp
    refine ⟨?_, mode, g, hcreate, by rw [Creator.made_of_staged hb]; exact he⟩
    rw [ht] at hw
    simp only [List.mem_append, List.mem_cons, Prod.mk.injEq] at hw
    rcases hw with hw | ⟨hw, -⟩ | (hw | ⟨hw, -⟩ | hw) | ⟨hw, -⟩ | ⟨hw, -⟩ | hw
    · exact absurd rfl ((hpre _ hw).2.2 hd bs)
    · cases hw
    · exact absurd rfl ((hf _ (List.mem_append_left _ hw)).2.2 hd bs)
    · cases hw
      rfl
    · exact absurd rfl ((hf _ (List.mem_append_right _ hw)).2.2 hd bs)
    · cases hw
    · cases hw
    · exact absurd rfl ((hv _ hw).2.2 hd bs)

/-- A create that made a file made the next inode. -/
theorem made_size (hc : Contest R log h h' bytes res) {mode : Nat} {g : Host}
    (hci : ⟨i, .reopen (R.w i).made (.createNew mode), g⟩ ∈ log)
    (hoi : (g.exec (.reopen (R.w i).made (.createNew mode))).1 = .ok ⟨(R.w i).N, .write⟩) :
    (R.w i).N = g.fs.inodes.size := by
  obtain ⟨hl, hq, hroot⟩ := (hc.race.moves _ hci).ready
  exact (Handle.mk.inj (Creator.free_of_create_ok hl hq hroot hoi).2).1

/-- Every call after a create that made a file meets more inodes than the file's number. -/
theorem made_before (hc : Contest R log h h' bytes res) {l₁ l₂ : List Event} {mode : Nat}
    {g : Host} (hlog : log = l₁ ++ ⟨i, .reopen (R.w i).made (.createNew mode), g⟩ :: l₂)
    (hoi : (g.exec (.reopen (R.w i).made (.createNew mode))).1 = .ok ⟨(R.w i).N, .write⟩)
    {e : Event} (he : e ∈ l₂) : (R.w i).N < e.host.fs.inodes.size := by
  have hr := hc.race
  rw [hlog] at hr
  obtain ⟨-, hm, hr₂⟩ := hr.middle_inv
  obtain ⟨hl, hq, hroot⟩ := hm.ready
  dsimp only at hl hq hroot hr₂
  obtain ⟨hfree, hN⟩ := Creator.free_of_create_ok hl hq hroot hoi
  have hsz := (Creator.created hl hq hroot hfree mode).2.2.2
  have hle := hr₂.size_le.1 e he
  have hNs : (R.w i).N = g.fs.inodes.size := (Handle.mk.inj hN).1
  omega

/-- Creates of two threads that made files made different files: the later create met more
inodes. -/
theorem create_apart (hc : Contest R log h h' bytes res) {i j : Nat} (hij : i ≠ j)
    {mi mj : Nat} {gi gj : Host}
    (hei : ⟨i, .reopen (R.w i).made (.createNew mi), gi⟩ ∈ log)
    (hej : ⟨j, .reopen (R.w j).made (.createNew mj), gj⟩ ∈ log)
    (hoi : (gi.exec (.reopen (R.w i).made (.createNew mi))).1 = .ok ⟨(R.w i).N, .write⟩)
    (hoj : (gj.exec (.reopen (R.w j).made (.createNew mj))).1 = .ok ⟨(R.w j).N, .write⟩) :
    (R.w i).N ≠ (R.w j).N := by
  obtain ⟨l₁, l₂, hlog⟩ := List.append_of_mem hei
  have hej' := hej
  rw [hlog] at hej'
  rcases List.mem_append.mp hej' with hj | hj
  · -- the create of `j` came first
    obtain ⟨k₁, k₂, hk⟩ := List.append_of_mem hj
    have hlog' : log = k₁ ++ ⟨j, .reopen (R.w j).made (.createNew mj), gj⟩ ::
        (k₂ ++ ⟨i, .reopen (R.w i).made (.createNew mi), gi⟩ :: l₂) := by
      rw [hlog, hk]
      simp
    have hlt := hc.made_before hlog' hoj (List.mem_append_right _ List.mem_cons_self)
    dsimp only at hlt
    rw [hc.made_size hei hoi]
    omega
  · rcases List.mem_cons.mp hj with heq | hj
    · exact absurd (congrArg Event.thread heq).symm hij
    · have hlt := hc.made_before hlog hoi hj
      dsimp only at hlt
      rw [hc.made_size hej hoj]
      omega

/-- Only the thread that made a file writes it. -/
theorem writer_unique (hc : Contest R log h h' bytes res) {mode : Nat} {g : Host}
    (hci : ⟨i, .reopen (R.w i).made (.createNew mode), g⟩ ∈ log)
    (hoi : (g.exec (.reopen (R.w i).made (.createNew mode))).1 = .ok ⟨(R.w i).N, .write⟩)
    {e : Event} (he : e ∈ log) {bs : Bytes} (hw : e.call = .write ⟨(R.w i).N, .write⟩ 0 bs) :
    e.thread = i := by
  obtain ⟨j, c, g'⟩ := e
  dsimp only at hw ⊢
  subst hw
  have hj : j < R.n := (hc.race.moves _ he).1
  obtain ⟨hN, mode', g'', hcj, hoj⟩ := hc.write_inv hj (Pool.mem_calls.mpr he)
  by_contra hij
  exact hc.create_apart hij hcj hci hoj hoi (Handle.mk.inj hN).1.symm

/-- No call of a stretch of the log writes the file a thread made, when the thread's own calls
there do not write. -/
theorem unwritten (hc : Contest R log h h' bytes res) {mode : Nat} {g : Host}
    (hci : ⟨i, .reopen (R.w i).made (.createNew mode), g⟩ ∈ log)
    (hoi : (g.exec (.reopen (R.w i).made (.createNew mode))).1 = .ok ⟨(R.w i).N, .write⟩)
    {l : List Event} (hl : ∀ e ∈ l, e ∈ log) (hown : ∀ c ∈ Pool.calls i l, ∀ hd bs, c.1 ≠ .write hd 0 bs) :
    ∀ e ∈ l, ∀ bs, e.call ≠ .write ⟨(R.w i).N, .write⟩ 0 bs := by
  intro e he bs hw
  have hthread := hc.writer_unique hci hoi (hl e he) hw
  exact hown (e.call, e.host) (Pool.mem_calls.mpr (by rw [← hthread]; exact he)) _ bs hw

/-- The file a thread made ends with the bytes it wrote: it was made empty, written once from its
start, and no one else writes it. -/
theorem read_end (hc : Contest R log h h' bytes res) {pre f₁ rest : List (Call × Host)}
    {mode : Nat} {g g' : Host}
    (ht : Pool.calls i log = pre ++ (.reopen (R.w i).made (.createNew mode), g) ::
      (f₁ ++ (.write ⟨(R.w i).N, .write⟩ 0 (bytes i), g') :: rest))
    (he : (g.exec (.reopen (R.w i).made (.createNew mode))).1 = .ok ⟨(R.w i).N, .write⟩)
    (hf₁ : ∀ c ∈ f₁, ∀ hd bs, c.1 ≠ .write hd 0 bs)
    (hrest : ∀ c ∈ rest, ∀ hd bs, c.1 ≠ .write hd 0 bs) :
    h'.fs.read (R.w i).N = .ok (bytes i) := by
  obtain ⟨l₁, l₂, l₃, hlog, -, h₂, h₃⟩ := Pool.calls_eq_append_cons_append_cons ht
  have hci : ⟨i, .reopen (R.w i).made (.createNew mode), g⟩ ∈ log := by
    rw [hlog]
    simp
  have hr := hc.race
  rw [hlog] at hr
  obtain ⟨-, hmc, hr'⟩ := hr.middle_inv
  obtain ⟨hr₂, hmw, hr₃⟩ := hr'.middle_inv
  dsimp only at hr₂ hmw hr₃
  -- the create made the file, empty, as the next inode
  obtain ⟨hl, hq, hroot⟩ := hmc.ready
  dsimp only at hl hq hroot
  obtain ⟨hfree, -⟩ := Creator.free_of_create_ok hl hq hroot he
  obtain ⟨-, hempty, -, hsz⟩ := Creator.created hl hq hroot hfree mode
  rw [← hc.made_size hci he] at hempty hsz
  -- nothing writes it before the thread's write, and nothing after
  have h₂w := (hr₂.read (by omega) (hc.unwritten hci he (fun e he' => by rw [hlog]; simp [he'])
    (by rw [h₂]; exact hf₁))).1
  have hwrite : (g'.exec (.write ⟨(R.w i).N, .write⟩ 0 (bytes i))).2.fs.read (R.w i).N =
      .ok (bytes i) := by
    show (g'.fs.writeAt (R.w i).N 0 (bytes i)).read (R.w i).N = .ok (bytes i)
    rw [read_writeAt_self (h₂w.trans hempty)]
    simp
  have hlt : (R.w i).N < (g'.exec (.write ⟨(R.w i).N, .write⟩ 0 (bytes i))).2.fs.inodes.size :=
    Nat.lt_of_lt_of_le (by omega) (Nat.le_trans hr₂.size_le.2 hmw.step.keepsDirs.size_le)
  rw [(hr₃.read hlt (hc.unwritten hci he (fun e he' => by rw [hlog]; simp [he'])
    (by rw [h₃]; exact hrest))).1, hwrite]

/-- The winner's file ends with the bytes it wrote. -/
theorem read_winner (hc : Contest R log h h' bytes res) (hi : i < R.n) (hok : res i = .ok ()) :
    h'.fs.read (R.w i).N = .ok (bytes i) := by
  apply hc.script_cases hi
  · intro pre mode g e _ _ _ _ hres
    rw [hok] at hres
    cases hres
  · intro pre mode g f₁ g' f₂ ht _ hb he hf _
    rw [← Creator.made_of_inPlace hb] at ht he
    exact hc.read_end ht he (fun c hc' => (hf c (List.mem_append_left _ hc')).2.2)
      (fun c hc' => (hf c (List.mem_append_right _ hc')).2.2)
  · intro pre mode g f₁ g₂ f₂ g₃ g₄ v ht _ hb he hf hv _
    have ht' : Pool.calls i log = pre ++ (.reopen (R.w i).made (.createNew mode), g) ::
        (f₁ ++ (.write ⟨(R.w i).N, .write⟩ 0 (bytes i), g₂) ::
          (f₂ ++ (.publish (R.w i).sp (R.w i).p, g₃) :: (.unlink (R.w i).sp, g₄) :: v)) := by
      rw [ht, Creator.made_of_staged hb]
      simp
    rw [← Creator.made_of_staged hb] at he
    refine hc.read_end ht' he (fun c hc' => (hf c (List.mem_append_left _ hc')).2.2) ?_
    simp only [List.forall_mem_append, List.forall_mem_cons]
    exact ⟨fun c hc' => (hf c (List.mem_append_right _ hc')).2.2, by simp, by simp,
      fun c hc' => (hv c hc').2.2⟩

/-! ## §5. The first claim wins -/

/-- A log in which some thread claims the final name has a first claim. -/
theorem first_claim (hc : Contest R log h h' bytes res) (hn : 0 < R.n) :
    ∃ l₁ e l₂, log = l₁ ++ e :: l₂ ∧ (R.w e.thread).Claims e.call ∧
      ∀ e' ∈ l₁, ¬ (R.w e'.thread).Claims e'.call := by
  classical
  obtain ⟨c, g, hcl⟩ := hc.claim hn
  have hsome : (log.find? fun e => decide ((R.w e.thread).Claims e.call)).isSome := by
    rw [List.find?_isSome]
    exact ⟨_, hcl.mem, by simpa using hcl.claims⟩
  obtain ⟨e, he⟩ := Option.isSome_iff_exists.mp hsome
  obtain ⟨hpe, l₁, l₂, rfl, hl₁⟩ := List.find?_eq_some_iff_append.mp he
  exact ⟨l₁, e, l₂, rfl, by simpa using hpe, fun e' he' => by simpa using hl₁ e' he'⟩

/-- The thread of the first claim wins: its claim finds the final name free and gives it the
thread's file, which the name keeps; every other thread claims later, finds the name taken and
fails with a race. -/
theorem winner (hc : Contest R log h h' bytes res) (hn : 0 < R.n) :
    ∃ i < R.n, res i = .ok () ∧ (∀ j < R.n, j ≠ i → res j = .error (.race (R.w j).p .created)) ∧
      h'.fs.lookupIn R.r R.q = some (R.w i).N := by
  obtain ⟨l₁, e, l₂, hlog, hcl, hnone⟩ := hc.first_claim hn
  have hr := hc.race
  rw [hlog] at hr
  obtain ⟨hr₁, hme, hr₂⟩ := hr.middle_inv
  obtain ⟨c, g, hca⟩ := hc.claim hme.1
  obtain ⟨hc', hg⟩ := hca.unique e.call e.host (Pool.mem_calls.mpr (by rw [hlog]; simp)) hcl
  -- the name is free up to the first claim, which takes it for good
  obtain ⟨hok, hQ⟩ := hca.won (hg ▸ (hr₁.final_none hc.free hnone).2)
  rw [← hc', ← hg] at hQ
  obtain ⟨hmid, hend⟩ := hr₂.final_some hQ
  refine ⟨e.thread, hme.1, hok, fun j hj hji => ?_, hend⟩
  -- every other claim comes after the first
  obtain ⟨c', g', hcj⟩ := hc.claim hj
  have hmem := hcj.mem
  rw [hlog] at hmem
  rcases List.mem_append.mp hmem with h₁ | h₂
  · exact absurd hcj.claims (hnone _ h₁)
  · rcases List.mem_cons.mp h₂ with heq | h₃
    · exact absurd (congrArg Event.thread heq) hji
    · exact hcj.lost _ (hmid _ h₃)

/-- Of rival fresh writes, exactly one succeeds and every other fails with a race; the final name
names the winner's file, which holds the bytes the winner wrote, and no staging name is left. -/
theorem outcome (hc : Contest R log h h' bytes res) (hn : 0 < R.n) :
    ∃ i < R.n, res i = .ok () ∧ (∀ j < R.n, j ≠ i → res j = .error (.race (R.w j).p .created)) ∧
      h'.fs.lookupIn R.r R.q = some (R.w i).N ∧ h'.fs.read (R.w i).N = .ok (bytes i) ∧
      ∀ j < R.n, h'.fs.lookupIn R.r (R.w j).s = none := by
  obtain ⟨i, hi, hok, hrace, hq⟩ := hc.winner hn
  exact ⟨i, hi, hok, hrace, hq, hc.read_winner hi hok, fun j hj => hc.unstaged_end hj⟩

end Contest

/-! ## §6. Fresh writes racing in a pool -/

/-- Whether the event, if it is a look at `p`, found nothing there. -/
def Event.foundAbsent (p : Path) (e : Event) : Bool :=
  match e.call with
  | .observe p' => p' != p || match (e.host.exec (.observe p')).1 with
    | .error err => err.isNotFound
    | .ok _ => false
  | _ => true

/-- Every look at `p` in the log found nothing there. -/
def Pool.LooksAbsent (p : Path) (log : List Event) : Prop :=
  ∀ e ∈ log, e.foundAbsent p = true

instance (p : Path) (log : List Event) : Decidable (Pool.LooksAbsent p log) :=
  inferInstanceAs (Decidable (∀ e ∈ log, e.foundAbsent p = true))

theorem Pool.LooksAbsent.calls {p : Path} {log : List Event} (h : Pool.LooksAbsent p log) (i : Nat)
    {g : Host} (hg : (.observe p, g) ∈ Pool.calls i log) :
    ∃ e, (g.exec (.observe p)).1 = .error e ∧ e.isNotFound = true := by
  have hf := h _ (Pool.mem_calls.mp hg)
  simp only [Event.foundAbsent, bne_self_eq_false, Bool.false_or] at hf
  revert hf
  cases (g.exec (.observe p)).1 with
  | error e => exact fun hf => ⟨e, rfl, hf⟩
  | ok _ => exact fun hf => absurd hf (by simp)

namespace Request

end Request

namespace Store

end Store

namespace Store

end Store

end FirmwareVars
