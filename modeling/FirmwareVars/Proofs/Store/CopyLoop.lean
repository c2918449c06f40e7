import FirmwareVars.Proofs.Export.Transfer
import FirmwareVars.Proofs.Concurrent.Ownership

/-!
# The copy loop

The persistence copy moves the payload through a buffer of `chunkSize` bytes (`Persist.pump`):
each read fills the front of the buffer, the part it filled is written where the last write
ended, an interrupted read is made again, and a read of nothing ends the loop. How many bytes a
read gives is up to the system. A file on a local disk fills the buffer while bytes are left;
other files may give fewer, or come back interrupted by a signal.

`Chunked size rest reads` says which answers are possible on a file whose bytes past the reading
position are `rest`. Whatever they are, the loop writes `rest` after what the target holds, in
order, and answers with its length. The filesystem it leaves is the one a single write of all
that was copied leaves, because a file written in pieces, each where the last ended, is the file
written at once (`Fs.writeAt_writeAt_end`).

Main statements:
  * `Fs.dropPrivileges_dropPrivileges` — a second write takes no more privileges away.
  * `Fs.writeAt_writeAt_end` — a write where the last one ended extends it.
  * `chunked_fullReads` — a file on a local disk answers as `Chunked` allows.
  * `exec_pump_chunked` — the loop under any answers that `Chunked` allows.
  * `pump_copies_payload` — from an emptied target, the loop copies exactly the bytes of the
    payload variable's file past its header, and answers with their number.
-/

namespace FirmwareVars

/-! ## §1. Writing a file in pieces -/

namespace Fs

/-- A one-bit mask reads one binary digit. -/
theorem and_two_pow_eq_zero_iff (n k : Nat) : n &&& 2 ^ k = 0 ↔ n / 2 ^ k % 2 = 0 := by
  rw [Nat.and_two_pow, Nat.testBit_eq_decide_div_mod_eq]
  have := Nat.two_pow_pos k
  by_cases h : n / 2 ^ k % 2 = 1
  · simp [h]
  · simp [h]
    omega

/-- The set-group-ID and group-execute bits, read as two binary digits. -/
theorem and_groupBits_iff (n : Nat) :
    n &&& 0o2010 = 0o2010 ↔ n / 1024 % 2 = 1 ∧ n / 8 % 2 = 1 := by
  have hsplit : n &&& 0o2010 = (n &&& 2 ^ 10) ||| (n &&& 2 ^ 3) := by
    rw [show (0o2010 : Nat) = 2 ^ 10 ||| 2 ^ 3 by decide, Nat.and_or_distrib_left]
  rw [hsplit, Nat.and_two_pow, Nat.and_two_pow, Nat.testBit_eq_decide_div_mod_eq,
    Nat.testBit_eq_decide_div_mod_eq]
  by_cases h10 : n / 2 ^ 10 % 2 = 1 <;> by_cases h3 : n / 2 ^ 3 % 2 = 1 <;> simp_all

/-- Privileges dropped once stay dropped: a second write or cut keeps the bits as they are. -/
theorem dropPrivileges_dropPrivileges (m : Nat) :
    dropPrivileges (dropPrivileges m) = dropPrivileges m := by
  have h11 : ∀ n, n &&& 2048 = 0 ↔ n / 2048 % 2 = 0 := fun n => and_two_pow_eq_zero_iff n 11
  unfold dropPrivileges
  -- each test reads binary digits of the mode, and each subtraction clears one of them
  simp only [h11, and_groupBits_iff]
  split_ifs <;> omega

/-- A write where the last one ended extends it: two writes from the start of a file, one after
the other, are one write of both, whatever the file held before. -/
theorem writeAt_writeAt_end (fs : Fs) (j : Nat) {w : Bytes} (hw : w ≠ []) (c : Bytes) :
    (fs.writeAt j 0 w).writeAt j w.length c = fs.writeAt j 0 (w ++ c) := by
  apply ext_inode?
  intro k
  unfold writeAt
  simp only [inode?_modify]
  split
  · rename_i hjk
    subst hjk
    rcases fs.inode? j with _ | ⟨_ | _, m, fl⟩
    · rfl
    · simp [hw, dropPrivileges_dropPrivileges]
    · rfl
  · rfl

/-- What has been written from the start of file `j` (nothing at all, when it is empty), extended
by a write where it ended. -/
theorem writeAt_end_of_written (fs : Fs) (j : Nat) (w c : Bytes) :
    (if w.isEmpty then fs else fs.writeAt j 0 w).writeAt j w.length c =
      fs.writeAt j 0 (w ++ c) := by
  by_cases hw : w = []
  · subst hw
    rfl
  · rw [if_neg (by simpa using hw), writeAt_writeAt_end fs j hw c]

end Fs

/-! ## §2. What reads may answer -/

/-- The answers successive reads into a buffer of `size` bytes may give on a file whose bytes past
the reading position are `rest`: each read answers with the next one to `size` bytes while any
are left, any read may be interrupted, and the last answers with nothing. -/
inductive Chunked (size : Nat) : Bytes → List (Except OsError Bytes) → Prop
  /-- At the end of the file a read answers with nothing. -/
  | last : Chunked size [] [.ok []]
  /-- A read is interrupted; the reads after it answer as before. -/
  | interrupted {rest : Bytes} {reads : List (Except OsError Bytes)} :
      Chunked size rest reads → Chunked size rest (.error .interrupted :: reads)
  /-- A read answers with the next one to `size` bytes. -/
  | chunk {c rest : Bytes} {reads : List (Except OsError Bytes)} : c ≠ [] → c.length ≤ size →
      Chunked size rest reads → Chunked size (c ++ rest) (.ok c :: reads)

/-- A file on a local disk answers reads into a buffer that holds anything as `Chunked` allows. -/
theorem chunked_fullReads {size : Nat} (hsize : 0 < size) (bs : Bytes) :
    Chunked size bs (fullReads size bs) := by
  unfold fullReads
  -- each read takes at least one byte, so as many reads as there are bytes are enough
  suffices h : ∀ n bs, bs.length ≤ n → Chunked size bs (fullReads.go size n bs) from
    h _ bs (Nat.le_refl _)
  intro n
  induction n with
  | zero =>
    intro bs hbs
    rw [List.eq_nil_of_length_eq_zero (Nat.le_zero.mp hbs)]
    exact .last
  | succ n ih =>
    intro bs hbs
    cases bs with
    | nil => exact .last
    | cons b bs =>
      have hne : (b :: bs).take size ≠ [] := by
        obtain ⟨k, rfl⟩ := Nat.exists_eq_add_one_of_ne_zero (Nat.pos_iff_ne_zero.mp hsize)
        simp
      have hstep := Chunked.chunk hne (List.length_take_le _ _)
        (ih ((b :: bs).drop size) (by rw [List.length_drop]; omega))
      rw [List.take_append_drop] at hstep
      simpa [fullReads.go, Nat.pos_iff_ne_zero.mp hsize] using hstep

/-! ## §3. The loop, one read at a time -/

namespace Persist

open StoreM

variable {target : Path} {buf : Bytes} {total : Nat} {st : Store} {h : Host}
  {reads : List (Except OsError Bytes)}

theorem exec_pump_done (ht : Handle) :
    exec (pump ht target buf total (.ok [] :: reads)) st h = ((.ok total, st), h) := rfl

theorem exec_pump_interrupted (ht : Handle) :
    exec (pump ht target buf total (.error .interrupted :: reads)) st h =
      exec (pump ht target buf total reads) st h := rfl

/-- A read that gave something: the part of the buffer it filled is written where the last write
ended, and the loop goes on. -/
theorem exec_pump_chunk {j : Nat} {c : Bytes} (hc : c ≠ []) :
    exec (pump ⟨j, .write⟩ target buf total (.ok c :: reads)) st h =
      exec (pump ⟨j, .write⟩ target (c ++ buf.drop c.length) (total + c.length) reads) st
        { h with fs := h.fs.writeAt j total c } := by
  simp only [pump, List.isEmpty_eq_false_iff.mpr hc, Bool.false_eq_true, ↓reduceIte, exec_bind,
    exec_lift, Host.run_writeAt_write, List.take_left']

/-! ## §4. The whole loop -/

/-- The loop under any answers `Chunked` allows. When the target `j` holds what was written from
its start so far (`w`, nothing at all when it is empty), the loop writes the rest of the file after
it and answers with the count of all bytes copied; the filesystem it leaves is the one a single
write of everything copied leaves. -/
theorem exec_pump_chunked {size : Nat} {rest : Bytes} (hr : Chunked size rest reads) (fs : Fs)
    (j : Nat) (target : Path) (st : Store) :
    ∀ (w buf : Bytes) (h : Host), h.fs = (if w.isEmpty then fs else fs.writeAt j 0 w) →
      exec (pump ⟨j, .write⟩ target buf w.length reads) st h =
        ((.ok (w.length + rest.length), st),
          { h with fs := if (w ++ rest).isEmpty then fs else fs.writeAt j 0 (w ++ rest) }) := by
  -- induction on the answers; the invariant is what the target holds
  induction hr with
  | last =>
    intro w buf h hfs
    rw [exec_pump_done, List.append_nil, ← hfs]
    rfl
  | interrupted _ ih =>
    intro w buf h hfs
    rw [exec_pump_interrupted]
    exact ih w buf h hfs
  | @chunk c rest reads hc _ _ ih =>
    intro w buf h hfs
    have hfs' : ({ h with fs := h.fs.writeAt j w.length c } : Host).fs =
        if (w ++ c).isEmpty then fs else fs.writeAt j 0 (w ++ c) := by
      rw [if_neg (by simp [hc]), ← Fs.writeAt_end_of_written fs j w c, ← hfs]
    rw [exec_pump_chunk hc, ← List.length_append, ih (w ++ c) _ _ hfs']
    simp only [List.length_append, List.append_assoc, Nat.add_assoc]

/-- The copy loop copies exactly the payload. Whatever the reads answer, so long as each gives one
to `chunkSize` bytes while any are left, any may be interrupted, and only a read at the end of the
file gives nothing: the loop ends, having written the bytes of the payload variable's file `d`
past its header over the target, in order, from the target's start; it answers with their number,
and the filesystem it leaves is the one a single write of them leaves. From a freshly emptied
target, the target then holds exactly those bytes. -/
theorem pump_copies_payload (d : Bytes)
    (hr : Chunked chunkSize (d.drop Record.headerLen) reads) {j : Nat} (hj : h.fs.read j = .ok [])
    (target : Path) (buf : Bytes) (st : Store) :
    exec (pump ⟨j, .write⟩ target buf 0 reads) st h =
        ((.ok (d.length - Record.headerLen), st),
          { h with fs := if (d.drop Record.headerLen).isEmpty then h.fs
            else h.fs.writeAt j 0 (d.drop Record.headerLen) }) ∧
      (if (d.drop Record.headerLen).isEmpty then h.fs
        else h.fs.writeAt j 0 (d.drop Record.headerLen)).read j = .ok (d.drop Record.headerLen) := by
  have hrun := exec_pump_chunked hr h.fs j target st [] buf h rfl
  rw [List.nil_append, List.length_nil, Nat.zero_add, List.length_drop] at hrun
  refine ⟨hrun, ?_⟩
  split
  · rename_i hempty
    rw [hj, List.isEmpty_iff.mp hempty]
  · rw [Fs.read_writeAt_self hj]
    simp

/-- On the mirror fixture, reads that come back one byte at a time, the first of them interrupted,
still copy the two payload bytes `aa bb` over the emptied target `esp/target`. -/
theorem pump_copies_payload_one_byte_reads :
    Chunked chunkSize (([7, 0, 0, 0, 0xaa, 0xbb] : Bytes).drop Record.headerLen)
        [.error .interrupted, .ok [0xaa], .ok [0xbb], .ok []] ∧
      (Store.mirrorTree.truncate 6 0).read 6 = .ok [] ∧
      (exec (pump ⟨6, .write⟩ (.ofString "esp/target") (List.replicate chunkSize 0) 0
          [.error .interrupted, .ok [0xaa], .ok [0xbb], .ok []])
        { config := Store.mirrorConfig } { fs := Store.mirrorTree.truncate 6 0 }).1.1 = .ok 2 ∧
      (exec (pump ⟨6, .write⟩ (.ofString "esp/target") (List.replicate chunkSize 0) 0
          [.error .interrupted, .ok [0xaa], .ok [0xbb], .ok []])
        { config := Store.mirrorConfig } { fs := Store.mirrorTree.truncate 6 0 }).2.fs.read 6 =
        .ok [0xaa, 0xbb] := by
  have hr : Chunked chunkSize ([0xaa] ++ ([0xbb] ++ []))
      [.error .interrupted, .ok [0xaa], .ok [0xbb], .ok []] :=
    .interrupted (.chunk (by simp) (by decide) (.chunk (by simp) (by decide) .last))
  have hj : (Store.mirrorTree.truncate 6 0).read 6 = .ok [] := rfl
  obtain ⟨hx, hread⟩ := pump_copies_payload (h := { fs := Store.mirrorTree.truncate 6 0 })
    [7, 0, 0, 0, 0xaa, 0xbb] hr hj (.ofString "esp/target") (List.replicate chunkSize 0)
    { config := Store.mirrorConfig }
  exact ⟨hr, hj, by rw [hx]; rfl, by rw [hx]; exact hread⟩

end Persist

end FirmwareVars
