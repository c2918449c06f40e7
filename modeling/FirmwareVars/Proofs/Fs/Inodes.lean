import FirmwareVars.Fs.Tree
import Mathlib

/-!
# The inode table under change

How each change to a filesystem reads back through `inode?`, and what resolving a path can see
of it. Resolution reads three things of an inode: whether it is a directory, the entries of a
directory, and the owner's permission bits (`Inode.skeleton`). Writing, truncating and setting a
flag word change none of them, so two filesystems that differ only by such changes resolve
every path alike (`SameSkeleton`; `walk_congr` in `Proofs.Fs.Resolve`).

Main statements:
  * `inode?_modify`, `inode?_alloc` — the table after one change.
  * `sameSkeleton_setFlags`, `sameSkeleton_writeAt`, `sameSkeleton_truncate` — content changes
    leave resolution alone.
  * `read_writeAt_self`, `read_truncate_self`, `read_append_self` — what a file holds after a
    write, a cut or an append.
  * `lookupIn_addEntry`, `lookupIn_removeEntry` — a directory after one entry is added or taken
    away.
-/

namespace FirmwareVars

/-- What resolving a path reads of an inode: a directory's entries (none for a file) and the
owner's permission bits. -/
def Inode.skeleton (ino : Inode) : Option (List (Bytes × Nat)) × Nat :=
  (match ino.node with
    | .dir es _ => some es
    | .file _ => none, ino.mode &&& 0o700)

/-- An inode apart from its flag word: what it holds and its permission bits. -/
def Inode.body (ino : Inode) : Node × Nat := (ino.node, ino.mode)

namespace Fs

/-! ## §1. The table -/

@[simp] theorem inode?_modify (fs : Fs) (i j : Nat) (f : Inode → Inode) :
    (fs.modify i f).inode? j = if i = j then (fs.inode? j).map f else fs.inode? j :=
  Array.getElem?_modify

@[simp] theorem size_modify (fs : Fs) (i : Nat) (f : Inode → Inode) :
    (fs.modify i f).inodes.size = fs.inodes.size :=
  Array.size_modify

@[simp] theorem inode?_alloc (fs : Fs) (ino : Inode) (j : Nat) :
    (fs.alloc ino).1.inode? j = if j = fs.inodes.size then some ino else fs.inode? j :=
  Array.getElem?_push

@[simp] theorem alloc_snd (fs : Fs) (ino : Inode) : (fs.alloc ino).2 = fs.inodes.size := rfl

@[simp] theorem size_alloc (fs : Fs) (ino : Inode) :
    (fs.alloc ino).1.inodes.size = fs.inodes.size + 1 :=
  Array.size_push _

theorem inode?_eq_none (fs : Fs) {j : Nat} (h : fs.inodes.size ≤ j) : fs.inode? j = none :=
  Array.getElem?_eq_none h

theorem lt_size_of_inode?_eq_some {fs : Fs} {j : Nat} {ino : Inode} (h : fs.inode? j = some ino) :
    j < fs.inodes.size := by
  by_contra hj
  rw [fs.inode?_eq_none (by omega)] at h
  cases h

/-! ## §2. Queries through the skeleton -/

theorem isDir_eq_skeleton (fs : Fs) (i : Nat) :
    fs.isDir i = ((fs.inode? i).map Inode.skeleton).elim false fun s => s.1.isSome := by
  unfold isDir
  rcases fs.inode? i with _ | ⟨_ | _, _, _⟩ <;> rfl

theorem entries_eq_skeleton (fs : Fs) (i : Nat) :
    fs.entries i = (((fs.inode? i).map Inode.skeleton).bind (·.1)).getD [] := by
  unfold entries
  rcases fs.inode? i with _ | ⟨_ | _, _, _⟩ <;> rfl

/-- The three permission bits resolution and opening test are owner bits. -/
def ownerBit (bit : Nat) : Prop := 0o700 &&& bit = bit

theorem ownerBit_read : ownerBit readBit := by unfold ownerBit readBit; decide
theorem ownerBit_write : ownerBit writeBit := by unfold ownerBit writeBit; decide
theorem ownerBit_search : ownerBit searchBit := by unfold ownerBit searchBit; decide

theorem allows_eq_skeleton (fs : Fs) (i : Nat) {bit : Nat} (hb : ownerBit bit) :
    fs.allows i bit = ((fs.inode? i).map Inode.skeleton).elim true fun s => s.2 &&& bit != 0 := by
  unfold allows
  rcases fs.inode? i with _ | ⟨_, m, _⟩
  · rfl
  · show (m &&& bit != 0) = (m &&& 0o700 &&& bit != 0)
    rw [Nat.land_assoc, hb]

/-- Two filesystems that resolve every path alike. -/
def SameSkeleton (fs fs' : Fs) : Prop :=
  ∀ i, (fs.inode? i).map Inode.skeleton = (fs'.inode? i).map Inode.skeleton

namespace SameSkeleton

variable {fs fs' fs'' : Fs}

theorem refl (fs : Fs) : SameSkeleton fs fs := fun _ => rfl

theorem trans (h : SameSkeleton fs fs') (h' : SameSkeleton fs' fs'') : SameSkeleton fs fs'' :=
  fun i => (h i).trans (h' i)

theorem isDir (h : SameSkeleton fs fs') (i : Nat) : fs'.isDir i = fs.isDir i := by
  rw [isDir_eq_skeleton, isDir_eq_skeleton, h i]

theorem entries (h : SameSkeleton fs fs') (i : Nat) : fs'.entries i = fs.entries i := by
  rw [entries_eq_skeleton, entries_eq_skeleton, h i]

theorem lookupIn (h : SameSkeleton fs fs') (d : Nat) (name : Bytes) :
    fs'.lookupIn d name = fs.lookupIn d name := by
  unfold Fs.lookupIn
  rw [h.entries]

theorem allows (h : SameSkeleton fs fs') (i : Nat) {bit : Nat} (hb : ownerBit bit) :
    fs'.allows i bit = fs.allows i bit := by
  rw [allows_eq_skeleton _ _ hb, allows_eq_skeleton _ _ hb, h i]

/-- Filesystems of the same skeleton have inode tables of the same size. -/
theorem size_inodes (h : SameSkeleton fs fs') :
    fs'.inodes.size = fs.inodes.size := by
  have hlt : ∀ i, i < fs.inodes.size ↔ i < fs'.inodes.size := by
    intro i
    have hnone : fs.inode? i = none ↔ fs'.inode? i = none := by
      constructor <;> intro hn
      · have hi := h i
        rw [hn, Option.map_none] at hi
        exact Option.map_eq_none_iff.mp hi.symm
      · have hi := h i
        rw [hn, Option.map_none] at hi
        exact Option.map_eq_none_iff.mp hi
    simp only [inode?, Array.getElem?_eq_none_iff] at hnone
    omega
  rcases Nat.lt_trichotomy fs.inodes.size fs'.inodes.size with hs | hs | hs
  · exact absurd ((hlt _).mpr hs) (Nat.lt_irrefl _)
  · exact hs.symm
  · exact absurd ((hlt _).mp hs) (Nat.lt_irrefl _)

end SameSkeleton

/-- A change of single inodes that keeps what resolution reads of them. -/
theorem sameSkeleton_modify (fs : Fs) (i : Nat) (f : Inode → Inode)
    (hf : ∀ ino, (f ino).skeleton = ino.skeleton) : SameSkeleton fs (fs.modify i f) := by
  intro j
  rw [inode?_modify]
  split
  · rcases fs.inode? j with _ | ino
    · rfl
    · simp [hf]
  · rfl

/-! ## §3. Changing what a file holds -/

/-- The owner's bits of a mode are fixed by the mode's value below 512. -/
theorem owner_mod (n : Nat) : n &&& 0o700 = (n % 512) &&& 0o700 := by
  have hlt : n &&& 0o700 < 2 ^ 9 := Nat.and_lt_two_pow n (by norm_num)
  rw [← Nat.mod_eq_of_lt hlt, show (512 : Nat) = 2 ^ 9 by norm_num, Nat.and_mod_two_pow]

/-- A mode that has a power-of-two bit is at least that power. -/
theorem le_of_and_two_pow {n k : Nat} (h : n &&& 2 ^ k ≠ 0) : 2 ^ k ≤ n := by
  have hmod : (n &&& 2 ^ k) % 2 ^ k = 0 := by
    rw [Nat.and_mod_two_pow, Nat.mod_self, Nat.and_zero]
  have hle : n &&& 2 ^ k ≤ 2 ^ k := Nat.and_le_right
  have heq : n &&& 2 ^ k = 2 ^ k := by
    rcases Nat.lt_or_ge (n &&& 2 ^ k) (2 ^ k) with hl | hg
    · exact absurd (Nat.eq_zero_of_dvd_of_lt (Nat.dvd_of_mod_eq_zero hmod) hl) h
    · omega
  exact heq ▸ Nat.and_le_left

/-- Dropping the set-user-ID and set-group-ID bits keeps the owner's bits. -/
theorem dropPrivileges_owner (m : Nat) : dropPrivileges m &&& 0o700 = m &&& 0o700 := by
  rw [owner_mod (dropPrivileges m), owner_mod m]
  congr 1
  unfold dropPrivileges
  simp only
  have h2048 : m &&& 2048 ≠ 0 → 2048 ≤ m := le_of_and_two_pow (k := 11)
  split
  · split
    · rename_i h
      have : 1032 ≤ m := h ▸ Nat.and_le_left
      omega
    · rfl
  · rename_i h0
    have := h2048 h0
    split
    · rename_i h
      have : 1032 ≤ m - 2048 := h ▸ Nat.and_le_left
      omega
    · omega

theorem sameSkeleton_setFlags (fs : Fs) (i : Nat) (w : UInt32) :
    SameSkeleton fs (fs.setFlags i w) :=
  sameSkeleton_modify fs i _ fun _ => rfl

theorem sameSkeleton_writeAt (fs : Fs) (i o : Nat) (bs : Bytes) :
    SameSkeleton fs (fs.writeAt i o bs) := by
  apply sameSkeleton_modify
  rintro ⟨node, m, fl⟩
  cases node with
  | file d =>
    show (none, (if bs.isEmpty then m else dropPrivileges m) &&& 0o700) = (none, m &&& 0o700)
    split
    · rfl
    · rw [dropPrivileges_owner]
  | dir es b => rfl

theorem sameSkeleton_truncate (fs : Fs) (i len : Nat) : SameSkeleton fs (fs.truncate i len) := by
  apply sameSkeleton_modify
  rintro ⟨node, m, fl⟩
  cases node with
  | file d =>
    show (none, dropPrivileges m &&& 0o700) = (none, m &&& 0o700)
    rw [dropPrivileges_owner]
  | dir es b => rfl

theorem sameSkeleton_append (fs : Fs) (i : Nat) (bs : Bytes) :
    SameSkeleton fs (fs.append i bs) :=
  sameSkeleton_writeAt fs i _ bs

theorem read_eq_ok_iff {fs : Fs} {i : Nat} {d : Bytes} :
    fs.read i = .ok d ↔ ∃ m fl, fs.inode? i = some ⟨.file d, m, fl⟩ := by
  unfold read
  rcases fs.inode? i with _ | ⟨_ | _, m, fl⟩ <;> simp

theorem read_modify_ne (fs : Fs) {i j : Nat} (f : Inode → Inode) (hij : i ≠ j) :
    (fs.modify i f).read j = fs.read j := by
  unfold read
  rw [inode?_modify, if_neg hij]

theorem read_setFlags (fs : Fs) (i j : Nat) (w : UInt32) : (fs.setFlags i w).read j = fs.read j := by
  unfold read setFlags
  rw [inode?_modify]
  by_cases hij : i = j
  · rw [if_pos hij]
    rcases fs.inode? j with _ | ⟨_ | _, _, _⟩ <;> rfl
  · rw [if_neg hij]

theorem read_writeAt_self {fs : Fs} {i : Nat} {d : Bytes} (h : fs.read i = .ok d) (o : Nat)
    (bs : Bytes) : (fs.writeAt i o bs).read i =
      .ok (d.take o ++ List.replicate (o - d.length) 0 ++ bs ++ d.drop (o + bs.length)) := by
  obtain ⟨m, fl, hi⟩ := read_eq_ok_iff.mp h
  unfold writeAt read
  rw [inode?_modify, if_pos rfl, hi]
  rfl

theorem read_writeAt_ne (fs : Fs) {i j : Nat} (o : Nat) (bs : Bytes) (hij : i ≠ j) :
    (fs.writeAt i o bs).read j = fs.read j :=
  read_modify_ne fs _ hij

theorem size_of_read {fs : Fs} {i : Nat} {d : Bytes} (h : fs.read i = .ok d) :
    fs.size i = d.length := by
  obtain ⟨m, fl, hi⟩ := read_eq_ok_iff.mp h
  unfold size
  rw [hi]

theorem read_append_self {fs : Fs} {i : Nat} {d : Bytes} (h : fs.read i = .ok d) (bs : Bytes) :
    (fs.append i bs).read i = .ok (d ++ bs) := by
  unfold append
  rw [size_of_read h, read_writeAt_self h]
  simp

theorem read_append_ne (fs : Fs) {i j : Nat} (bs : Bytes) (hij : i ≠ j) :
    (fs.append i bs).read j = fs.read j :=
  read_modify_ne fs _ hij

theorem read_truncate_self {fs : Fs} {i : Nat} {d : Bytes} (h : fs.read i = .ok d) (len : Nat) :
    (fs.truncate i len).read i = .ok (d.take len ++ List.replicate (len - d.length) 0) := by
  obtain ⟨m, fl, hi⟩ := read_eq_ok_iff.mp h
  unfold truncate read
  rw [inode?_modify, if_pos rfl, hi]
  rfl

theorem read_truncate_ne (fs : Fs) {i j : Nat} (len : Nat) (hij : i ≠ j) :
    (fs.truncate i len).read j = fs.read j :=
  read_modify_ne fs _ hij

/-! ## §4. Adding and removing entries -/

theorem lookup_filter_ne (es : List (Bytes × Nat)) (n n' : Bytes) :
    (es.filter fun e => e.1 != n).lookup n' = if n' = n then none else es.lookup n' := by
  induction es with
  | nil => simp
  | cons e es ih =>
    obtain ⟨m, j⟩ := e
    rw [List.filter_cons]
    by_cases hm : m = n
    · subst hm
      rw [if_neg (by simp), ih, List.lookup_cons]
      by_cases hn : n' = m
      · simp [hn]
      · have hne : (n' == m) = false := by simpa using hn
        rw [if_neg hn, if_neg hn, hne]
    · have hkeep : (m != n) = true := by simpa using hm
      rw [if_pos hkeep, List.lookup_cons, List.lookup_cons, ih]
      by_cases hn : n' = m
      · subst hn
        simp [hm]
      · have hne : (n' == m) = false := by simpa using hn
        rw [hne]

theorem isDir_iff {fs : Fs} {d : Nat} :
    fs.isDir d ↔ ∃ es b m fl, fs.inode? d = some ⟨.dir es b, m, fl⟩ := by
  unfold isDir
  rcases fs.inode? d with _ | ⟨_ | _, m, fl⟩ <;> simp

theorem entries_addEntry_self {fs : Fs} {d : Nat} (hd : fs.isDir d) (n : Bytes) (i : Nat) :
    (fs.addEntry d n i).entries d = fs.entries d ++ [(n, i)] := by
  obtain ⟨es, b, m, fl, hi⟩ := isDir_iff.mp hd
  unfold addEntry entries
  rw [inode?_modify, if_pos rfl, hi]
  rfl

theorem entries_addEntry_ne (fs : Fs) {d d' : Nat} (n : Bytes) (i : Nat) (h : d ≠ d') :
    (fs.addEntry d n i).entries d' = fs.entries d' := by
  unfold addEntry entries
  rw [inode?_modify, if_neg h]

theorem lookupIn_addEntry_self {fs : Fs} {d : Nat} (hd : fs.isDir d) (n : Bytes) (i : Nat)
    (n' : Bytes) :
    (fs.addEntry d n i).lookupIn d n' = (fs.lookupIn d n').or (if n' = n then some i else none) := by
  unfold lookupIn
  rw [entries_addEntry_self hd, List.lookup_append]
  congr 1
  by_cases hn : n' = n
  · subst hn
    simp
  · have hne : (n' == n) = false := by simpa using hn
    simp [List.lookup_cons, hn, hne]

theorem lookupIn_addEntry_ne (fs : Fs) {d d' : Nat} (n : Bytes) (i : Nat) (n' : Bytes)
    (h : d ≠ d') : (fs.addEntry d n i).lookupIn d' n' = fs.lookupIn d' n' := by
  unfold lookupIn
  rw [entries_addEntry_ne fs n i h]

theorem entries_removeEntry_self {fs : Fs} {d : Nat} (hd : fs.isDir d) (n : Bytes) :
    (fs.removeEntry d n).entries d = (fs.entries d).filter fun e => e.1 != n := by
  obtain ⟨es, b, m, fl, hi⟩ := isDir_iff.mp hd
  unfold removeEntry entries
  rw [inode?_modify, if_pos rfl, hi]
  rfl

theorem entries_removeEntry_ne (fs : Fs) {d d' : Nat} (n : Bytes) (h : d ≠ d') :
    (fs.removeEntry d n).entries d' = fs.entries d' := by
  unfold removeEntry entries
  rw [inode?_modify, if_neg h]

theorem lookupIn_removeEntry_self {fs : Fs} {d : Nat} (hd : fs.isDir d) (n n' : Bytes) :
    (fs.removeEntry d n).lookupIn d n' = if n' = n then none else fs.lookupIn d n' := by
  unfold lookupIn
  rw [entries_removeEntry_self hd, lookup_filter_ne]

theorem lookupIn_removeEntry_ne (fs : Fs) {d d' : Nat} (n n' : Bytes) (h : d ≠ d') :
    (fs.removeEntry d n).lookupIn d' n' = fs.lookupIn d' n' := by
  unfold lookupIn
  rw [entries_removeEntry_ne fs n h]

/-- Adding an entry keeps every inode's kind, permission bits and bytes. -/
theorem isDir_addEntry (fs : Fs) (d : Nat) (n : Bytes) (i j : Nat) :
    (fs.addEntry d n i).isDir j = fs.isDir j := by
  unfold isDir addEntry
  rw [inode?_modify]
  by_cases hdj : d = j
  · rw [if_pos hdj]
    rcases fs.inode? j with _ | ⟨_ | _, _, _⟩ <;> rfl
  · rw [if_neg hdj]

theorem allows_addEntry (fs : Fs) (d : Nat) (n : Bytes) (i j bit : Nat) :
    (fs.addEntry d n i).allows j bit = fs.allows j bit := by
  unfold allows addEntry
  rw [inode?_modify]
  by_cases hdj : d = j
  · rw [if_pos hdj]
    rcases fs.inode? j with _ | ⟨_ | _, _, _⟩ <;> rfl
  · rw [if_neg hdj]

theorem read_addEntry (fs : Fs) (d : Nat) (n : Bytes) (i j : Nat) :
    (fs.addEntry d n i).read j = fs.read j := by
  unfold read addEntry
  rw [inode?_modify]
  by_cases hdj : d = j
  · rw [if_pos hdj]
    rcases fs.inode? j with _ | ⟨_ | _, _, _⟩ <;> rfl
  · rw [if_neg hdj]

/-- Removing an entry keeps every inode's kind, permission bits and bytes. -/
theorem isDir_removeEntry (fs : Fs) (d : Nat) (n : Bytes) (j : Nat) :
    (fs.removeEntry d n).isDir j = fs.isDir j := by
  unfold isDir removeEntry
  rw [inode?_modify]
  by_cases hdj : d = j
  · rw [if_pos hdj]
    rcases fs.inode? j with _ | ⟨_ | _, _, _⟩ <;> rfl
  · rw [if_neg hdj]

theorem allows_removeEntry (fs : Fs) (d : Nat) (n : Bytes) (j bit : Nat) :
    (fs.removeEntry d n).allows j bit = fs.allows j bit := by
  unfold allows removeEntry
  rw [inode?_modify]
  by_cases hdj : d = j
  · rw [if_pos hdj]
    rcases fs.inode? j with _ | ⟨_ | _, _, _⟩ <;> rfl
  · rw [if_neg hdj]

theorem read_removeEntry (fs : Fs) (d : Nat) (n : Bytes) (j : Nat) :
    (fs.removeEntry d n).read j = fs.read j := by
  unfold read removeEntry
  rw [inode?_modify]
  by_cases hdj : d = j
  · rw [if_pos hdj]
    rcases fs.inode? j with _ | ⟨_ | _, _, _⟩ <;> rfl
  · rw [if_neg hdj]

/-! ## §5. The tree apart from flag words -/

/-- Two filesystems with the same tree: every inode holds the same and has the same permission
bits; only flag words may differ. -/
def SameTree (fs fs' : Fs) : Prop :=
  ∀ i, (fs.inode? i).map Inode.body = (fs'.inode? i).map Inode.body

namespace SameTree

variable {fs fs' fs'' : Fs}

theorem refl (fs : Fs) : SameTree fs fs := fun _ => rfl

theorem symm (h : SameTree fs fs') : SameTree fs' fs := fun i => (h i).symm

theorem trans (h : SameTree fs fs') (h' : SameTree fs' fs'') : SameTree fs fs'' :=
  fun i => (h i).trans (h' i)

/-- Two inodes of the same body: their flag words apart, they are the same inode. -/
theorem inode?_eq (h : SameTree fs fs') (i : Nat) :
    ∃ o : Option (Node × Nat),
      fs.inode? i = o.map (fun b => ⟨b.1, b.2, ((fs.inode? i).bind Inode.flags)⟩) ∧
      fs'.inode? i = o.map (fun b => ⟨b.1, b.2, ((fs'.inode? i).bind Inode.flags)⟩) := by
  have hi := h i
  rcases ha : fs.inode? i with _ | ⟨n, m, fl⟩ <;> rcases hb : fs'.inode? i with _ | ⟨n', m', fl'⟩ <;>
    rw [ha, hb] at hi <;> simp [Inode.body] at hi
  · exact ⟨none, rfl, rfl⟩
  · obtain ⟨rfl, rfl⟩ := hi
    exact ⟨some (n, m), rfl, rfl⟩

theorem sameSkeleton (h : SameTree fs fs') : SameSkeleton fs fs' := by
  intro i
  obtain ⟨o, ha, hb⟩ := h.inode?_eq i
  rw [ha, hb]
  rcases o with _ | ⟨n, m⟩ <;> rfl

theorem read (h : SameTree fs fs') (i : Nat) : fs'.read i = fs.read i := by
  obtain ⟨o, ha, hb⟩ := h.inode?_eq i
  unfold Fs.read
  rw [ha, hb]
  rcases o with _ | ⟨_ | _, m⟩ <;> rfl

theorem size (h : SameTree fs fs') (i : Nat) : fs'.size i = fs.size i := by
  obtain ⟨o, ha, hb⟩ := h.inode?_eq i
  unfold Fs.size
  rw [ha, hb]
  rcases o with _ | ⟨_ | _, m⟩ <;> rfl

theorem mode (h : SameTree fs fs') (i : Nat) :
    (fs'.inode? i).map Inode.mode = (fs.inode? i).map Inode.mode := by
  obtain ⟨o, ha, hb⟩ := h.inode?_eq i
  rw [ha, hb]
  rcases o with _ | ⟨n, m⟩ <;> rfl

/-- A change of single inodes whose outcome's body depends on the body alone keeps two
filesystems of the same tree alike. -/
theorem modify (h : SameTree fs fs') (i : Nat) {f : Inode → Inode}
    (hf : ∀ a b : Inode, a.body = b.body → (f a).body = (f b).body) :
    SameTree (fs.modify i f) (fs'.modify i f) := by
  intro j
  rw [inode?_modify, inode?_modify]
  split
  · have hj := h j
    rcases ha : fs.inode? j with _ | a <;> rcases hb : fs'.inode? j with _ | b <;>
      rw [ha, hb] at hj <;> simp at hj ⊢
    exact hf a b hj
  · exact h j

theorem alloc (h : SameTree fs fs') (ino : Inode) :
    SameTree (fs.alloc ino).1 (fs'.alloc ino).1 := by
  intro j
  rw [inode?_alloc, inode?_alloc, h.sameSkeleton.size_inodes]
  split
  · rfl
  · exact h j

theorem setFlags (h : SameTree fs fs') (i : Nat) (w : UInt32) :
    SameTree (fs.setFlags i w) (fs'.setFlags i w) :=
  h.modify i fun _ _ hab => hab

theorem writeAt (h : SameTree fs fs') (i o : Nat) (bs : Bytes) :
    SameTree (fs.writeAt i o bs) (fs'.writeAt i o bs) := by
  refine h.modify i ?_
  rintro ⟨n, m, fl⟩ ⟨n', m', fl'⟩ hab
  simp only [Inode.body, Prod.mk.injEq] at hab
  obtain ⟨rfl, rfl⟩ := hab
  cases n <;> rfl

theorem truncate (h : SameTree fs fs') (i len : Nat) :
    SameTree (fs.truncate i len) (fs'.truncate i len) := by
  refine h.modify i ?_
  rintro ⟨n, m, fl⟩ ⟨n', m', fl'⟩ hab
  simp only [Inode.body, Prod.mk.injEq] at hab
  obtain ⟨rfl, rfl⟩ := hab
  cases n <;> rfl

theorem append (h : SameTree fs fs') (i : Nat) (bs : Bytes) :
    SameTree (fs.append i bs) (fs'.append i bs) := by
  unfold Fs.append
  rw [h.size]
  exact h.writeAt i _ bs

theorem addEntry (h : SameTree fs fs') (d : Nat) (n : Bytes) (i : Nat) :
    SameTree (fs.addEntry d n i) (fs'.addEntry d n i) := by
  refine h.modify d ?_
  rintro ⟨nd, m, fl⟩ ⟨nd', m', fl'⟩ hab
  simp only [Inode.body, Prod.mk.injEq] at hab
  obtain ⟨rfl, rfl⟩ := hab
  cases nd <;> rfl

theorem removeEntry (h : SameTree fs fs') (d : Nat) (n : Bytes) :
    SameTree (fs.removeEntry d n) (fs'.removeEntry d n) := by
  refine h.modify d ?_
  rintro ⟨nd, m, fl⟩ ⟨nd', m', fl'⟩ hab
  simp only [Inode.body, Prod.mk.injEq] at hab
  obtain ⟨rfl, rfl⟩ := hab
  cases nd <;> rfl

end SameTree

/-- Setting a flag word keeps the tree. -/
theorem sameTree_setFlags (fs : Fs) (i : Nat) (w : UInt32) : SameTree fs (fs.setFlags i w) := by
  intro j
  rw [setFlags, inode?_modify]
  split
  · rcases fs.inode? j with _ | ino <;> rfl
  · rfl

end Fs

end FirmwareVars
