import FirmwareVars.Proofs.Fs.Inodes

/-!
# Resolving names in a directory

A variable's file is one name in the root directory. This module follows `Fs.locate` through
such a path: the names of `root.join ⟨q⟩` are the root's names and then `q` (`names_join`);
walking them goes through the root's directories (`walkDirs`) and ends with a lookup of `q` in
the root (`walk_append_single`). When the root is a directory the caller may search, every call
on `root.join ⟨q⟩` is a call on the entry `q` of that directory (`locate_join`).

The walk reads only what `Inode.skeleton` keeps, so it is the same on filesystems of the same
skeleton (`walk_congr`); and it keeps succeeding when directories only gain entries or lose
entries that are not directories (`walkDirs_of_keepsDirs`).

Main statements:
  * `walk_congr`, `find_congr` — resolution sees skeletons only.
  * `locate_join` — a name in a searchable directory resolves to that directory's entry.
  * `walkDirs_of_find` — a root that is a directory is reached by walking its names.
  * `walkDirs_of_keepsDirs` — a walk through directories survives any change that keeps them.
-/

namespace FirmwareVars

namespace Path

/-- The names a path is walked by: its pieces between separators, empty ones left out. -/
def names (p : Path) : List Bytes := p.pieces.filter fun n => !n.isEmpty

/-- Where a walk starts: the root for an absolute path, else the working directory. -/
def start (p : Path) : List Nat := if p.isAbsolute then [Fs.hostRoot] else [Fs.cwd, Fs.hostRoot]

/-- A single name that joining and splitting take as it is: not empty, not `.` or `..`, and
without a separator. -/
structure Name (q : Bytes) : Prop where
  ne_nil : q ≠ []
  ne_dot : q ≠ [dot]
  ne_dotdot : q ≠ [dot, dot]
  sep_not_mem : sep ∉ q

/-- A name that resolution takes as it is: also no longer than a directory entry may be. -/
structure Plain (q : Bytes) : Prop extends Name q where
  length_le : q.length ≤ Fs.nameMax

/-- A path the system takes as written: no NUL byte, and shorter than the path limit. -/
structure Fits (p : Path) : Prop where
  nul_not_mem : (0 : UInt8) ∉ p.bytes
  length_lt : p.bytes.length < Fs.pathMax

theorem pieces_eq_singleton {q : Bytes} (hq : sep ∉ q) : (⟨q⟩ : Path).pieces = [q] :=
  List.splitOn_eq_singleton hq

theorem isAbsolute_name {q : Bytes} (hq : Name q) : (⟨q⟩ : Path).isAbsolute = false := by
  cases q with
  | nil => exact absurd rfl hq.ne_nil
  | cons b rest =>
    have hb : b ≠ sep := fun h => hq.sep_not_mem (h ▸ List.mem_cons_self)
    simp [isAbsolute, hb]

/-- Every byte of a piece of a byte string cut at separators is a byte of the string, and not a
separator. -/
theorem mem_of_mem_splitOn {l n : Bytes} (hn : n ∈ l.splitOn sep) {x : UInt8} (hx : x ∈ n) :
    x ≠ sep ∧ x ∈ l := by
  induction l generalizing n with
  | nil =>
    rw [List.splitOn_nil, List.mem_singleton] at hn
    subst hn
    cases hx
  | cons b rest ih =>
    rw [List.splitOn_cons_eq_if_modifyHead] at hn
    obtain ⟨m, ms, hms⟩ := List.exists_cons_of_ne_nil (List.splitOn_ne_nil sep rest)
    split at hn
    · rcases List.mem_cons.mp hn with rfl | hn
      · cases hx
      · exact (ih hn hx).imp_right (List.mem_cons_of_mem b)
    · rename_i hb
      rw [hms, List.modifyHead_cons] at hn
      rcases List.mem_cons.mp hn with rfl | hn
      · -- the first piece gained the byte `b`, which is not a separator
        rcases List.mem_cons.mp hx with rfl | hx
        · exact ⟨fun h => hb (by simp [h]), List.mem_cons_self⟩
        · exact (ih (by rw [hms]; exact List.mem_cons_self) hx).imp_right (List.mem_cons_of_mem b)
      · exact (ih (by rw [hms]; exact List.mem_cons_of_mem _ hn) hx).imp_right
          (List.mem_cons_of_mem b)

theorem sep_not_mem_of_mem_splitOn {l n : Bytes} (hn : n ∈ l.splitOn sep) : sep ∉ n :=
  fun h => (mem_of_mem_splitOn hn h).1 rfl

/-- A byte of pieces joined by separators is a separator or a byte of one of the pieces. -/
theorem mem_intercalate {ns : List Bytes} {x : UInt8} (hx : x ∈ [sep].intercalate ns) :
    x = sep ∨ ∃ n ∈ ns, x ∈ n := by
  induction ns with
  | nil => cases hx
  | cons n rest ih =>
    rcases rest with _ | ⟨m, rest⟩
    · exact .inr ⟨n, List.mem_cons_self, by simpa using hx⟩
    · rw [List.intercalate_cons_cons, List.mem_append, List.mem_append] at hx
      rcases hx with (hx | hx) | hx
      · exact .inr ⟨n, List.mem_cons_self, hx⟩
      · exact .inl (List.mem_singleton.mp hx)
      · rcases ih hx with h | ⟨n', hn', hx'⟩
        · exact .inl h
        · exact .inr ⟨n', List.mem_cons_of_mem _ hn', hx'⟩

/-- The first piece of a byte string is empty exactly when the string is empty or starts with a
separator. -/
theorem head?_splitOn_eq_nil (l : Bytes) :
    (l.splitOn sep).head? = some [] ↔ l = [] ∨ l.head? = some sep := by
  cases l with
  | nil => simp
  | cons b rest =>
    rw [List.splitOn_cons_eq_if_modifyHead]
    obtain ⟨m, ms, hms⟩ := List.exists_cons_of_ne_nil (List.splitOn_ne_nil sep rest)
    by_cases hb : b = sep
    · simp [hb]
    · simp [hb, hms]

/-- The pieces of a path with one more name: pieces that walk as the base does and start as
it does, then the name. -/
theorem pieces_join (p : Path) {q : Bytes} (hq : Name q) :
    ∃ pre, (p.join ⟨q⟩).pieces = pre ++ [q] ∧ pre.filter (fun n => !n.isEmpty) = p.names ∧
      (pre.head? = some [] ↔ p.isAbsolute = true) ∧ ∀ n ∈ pre, ∀ x ∈ n, x ≠ sep ∧ x ∈ p.bytes := by
  unfold join
  rw [isAbsolute_name hq]
  simp only [Bool.false_eq_true, ↓reduceIte]
  split
  · rename_i hcase
    rcases Bool.or_eq_true_iff.mp hcase with hemp | hlast
    · -- an empty base: the name alone
      have hp : p.bytes = [] := List.isEmpty_iff.mp hemp
      refine ⟨[], ?_, ?_, ?_, by simp⟩
      · simp [pieces, hp, List.splitOn_eq_singleton hq.sep_not_mem]
      · simp [names, pieces, hp]
      · simp [isAbsolute, hp]
    · -- a base that already ends with a separator: its last, empty piece gives way to the name
      obtain ⟨init, hinit⟩ : ∃ init, p.bytes = init ++ [sep] := by
        have hl : p.bytes.getLast? = some sep := by simpa using hlast
        exact ⟨p.bytes.dropLast, (List.dropLast_append_getLast? _ hl).symm⟩
      refine ⟨init.splitOn sep, ?_, ?_, ?_, fun n hn x hx => ?_⟩
      · rw [pieces, hinit, List.append_assoc, List.singleton_append,
          List.splitOn_append_cons_self, List.splitOn_eq_singleton hq.sep_not_mem]
      · rw [names, pieces, hinit, List.splitOn_append_cons_self]
        simp
      · rw [head?_splitOn_eq_nil, isAbsolute, hinit]
        cases init <;> simp
      · rw [hinit]
        exact (mem_of_mem_splitOn hn hx).imp_right (List.mem_append_left _)
  · rename_i hcase
    have hne : p.bytes ≠ [] := by
      intro hemp
      simp [hemp] at hcase
    refine ⟨p.pieces, ?_, rfl, ?_, fun n hn x hx => mem_of_mem_splitOn hn hx⟩
    · rw [pieces, List.append_assoc, List.singleton_append, List.splitOn_append_cons_self,
        List.splitOn_eq_singleton hq.sep_not_mem]
      rfl
    · rw [pieces, head?_splitOn_eq_nil, isAbsolute]
      simp [hne]

/-- Joining a single name adds it to the names walked. -/
theorem names_join (p : Path) {q : Bytes} (hq : Name q) :
    (p.join ⟨q⟩).names = p.names ++ [q] := by
  obtain ⟨pre, hpieces, hnames, -, -⟩ := pieces_join p hq
  have hne : (!q.isEmpty) = true := by simpa using hq.ne_nil
  rw [names, hpieces, List.filter_append, hnames]
  simp [hne]

/-- The bytes of a path with one more name: the base, a separator unless the base is empty or
already ends with one, and the name. -/
theorem join_bytes (p : Path) {q : Bytes} (hq : Name q) :
    ∃ pre, (p.join ⟨q⟩).bytes = pre ++ q ∧ (p.bytes = [] → pre = []) ∧
      (p.bytes ≠ [] → pre.head? = p.bytes.head?) ∧ ∀ x ∈ pre, x = sep ∨ x ∈ p.bytes := by
  unfold join
  rw [isAbsolute_name hq]
  simp only [Bool.false_eq_true, ↓reduceIte]
  split
  · exact ⟨p.bytes, rfl, id, fun _ => rfl, fun _ hx => .inr hx⟩
  · rename_i hcase
    have hne : p.bytes ≠ [] := by
      intro hemp
      simp [hemp] at hcase
    refine ⟨p.bytes ++ [sep], by simp, fun h => absurd h hne, fun _ => ?_, fun x hx => ?_⟩
    · exact List.head?_append_of_ne_nil _ hne
    · rcases List.mem_append.mp hx with hx | hx
      · exact .inr hx
      · exact .inl (List.mem_singleton.mp hx)

/-- A path within the system's limits: shorter than `PATH_MAX` with its terminating NUL, and no
name in it longer than `NAME_MAX`. -/
structure WithinLimits (p : Path) : Prop where
  length_lt : p.bytes.length < Fs.pathMax
  name_le : ∀ n ∈ p.pieces, n.length ≤ Fs.nameMax

/-- The last name of a path within the limits fits a directory entry. -/
theorem WithinLimits.plain {p : Path} {q : Bytes} (h : (p.join ⟨q⟩).WithinLimits) (hq : Name q) :
    Plain q := by
  obtain ⟨pre, hpieces, -⟩ := pieces_join p hq
  exact ⟨hq, h.name_le q (by rw [hpieces]; simp)⟩

/-- A path within the limits whose base and last name hold no NUL is taken as written. -/
theorem WithinLimits.fits {p : Path} {q : Bytes} (h : (p.join ⟨q⟩).WithinLimits) (hq : Name q)
    (hp : (0 : UInt8) ∉ p.bytes) (hq0 : (0 : UInt8) ∉ q) : (p.join ⟨q⟩).Fits := by
  obtain ⟨pre, hbytes, -, -, hpre⟩ := join_bytes p hq
  refine ⟨?_, h.length_lt⟩
  rw [hbytes]
  intro hmem
  rcases List.mem_append.mp hmem with h0 | h0
  · rcases hpre 0 h0 with h0 | h0
    · exact absurd h0 (by decide)
    · exact hp h0
  · exact hq0 h0

/-- Joining a single name keeps where the walk starts. -/
theorem start_join (p : Path) {q : Bytes} (hq : Name q) : (p.join ⟨q⟩).start = p.start := by
  obtain ⟨pre, hbytes, hempty, hhead, -⟩ := join_bytes p hq
  have habs : (p.join ⟨q⟩).isAbsolute = p.isAbsolute := by
    unfold isAbsolute
    rw [hbytes]
    by_cases hp : p.bytes = []
    · rw [hempty hp, hp, List.nil_append]
      exact isAbsolute_name hq
    · have hpre : pre ≠ [] := by
        intro h
        have := hhead hp
        rw [h] at this
        cases hb : p.bytes with
        | nil => exact hp hb
        | cons b _ => simp [hb] at this
      rw [List.head?_append_of_ne_nil _ hpre, hhead hp]
  unfold start
  rw [habs]

/-- A path ending in a single name does not end with a separator. -/
theorem getLast?_join (p : Path) {q : Bytes} (hq : Name q) :
    ((p.join ⟨q⟩).bytes.getLast? == some sep) = false := by
  obtain ⟨pre, hbytes, -, -, -⟩ := join_bytes p hq
  rw [hbytes, List.getLast?_append_of_ne_nil _ hq.ne_nil]
  have hlast : q.getLast? ≠ some sep := by
    intro h
    exact hq.sep_not_mem (List.mem_of_getLast? h)
  simpa using hlast

/-! ### The last name replaced -/

theorem dropIdle_cons_name {q : Bytes} (hq : Name q) (rest : List Bytes) :
    dropIdle (q :: rest) = q :: rest := by
  cases rest with
  | nil => simp [dropIdle]
  | cons n rest =>
    have hidle : (q.isEmpty || q == [dot]) = false := by simp [hq.ne_nil, hq.ne_dot]
    simp only [dropIdle, hidle, Bool.false_eq_true, ↓reduceIte]

/-- `dropIdle` drops a run of empty names and dots from the front, and never the last name. -/
theorem dropIdle_spec : ∀ ns : List Bytes,
    ∃ idle, ns = idle ++ dropIdle ns ∧ (ns ≠ [] → dropIdle ns ≠ []) ∧
      ∀ n ∈ idle, n = [] ∨ n = [dot]
  | [] => ⟨[], by simp [dropIdle], fun h => absurd rfl h, by simp⟩
  | [_] => ⟨[], by simp [dropIdle], fun _ => by simp [dropIdle], by simp⟩
  | n :: m :: rest => by
    by_cases hidle : (n.isEmpty || n == [dot]) = true
    · obtain ⟨idle, hsplit, hne, hmem⟩ := dropIdle_spec (m :: rest)
      have hstep : dropIdle (n :: m :: rest) = dropIdle (m :: rest) := by
        simp only [dropIdle, hidle, ↓reduceIte]
      refine ⟨n :: idle, by rw [hstep, List.cons_append, ← hsplit], ?_, ?_⟩
      · rw [hstep]
        exact fun _ => hne (List.cons_ne_nil m rest)
      · intro x hx
        rcases List.mem_cons.mp hx with rfl | hx
        · simpa using hidle
        · exact hmem x hx
    · have hstep : dropIdle (n :: m :: rest) = n :: m :: rest := by
        simp only [dropIdle, hidle, Bool.false_eq_true, ↓reduceIte]
      exact ⟨[], by rw [hstep, List.nil_append], fun _ => by simp [hstep], by simp⟩

theorem getLast?_dropIdle (ns : List Bytes) : (dropIdle ns).getLast? = ns.getLast? := by
  obtain ⟨idle, hsplit, hne, -⟩ := dropIdle_spec ns
  by_cases hns : ns = []
  · simp [hns, dropIdle]
  · conv => rhs; rw [hsplit]
    rw [List.getLast?_append_of_ne_nil _ (hne hns)]

/-- The names of a path built from pieces without separators are its non-empty pieces. -/
theorem names_ofPieces {ns : List Bytes} (hns : ∀ n ∈ ns, sep ∉ n) :
    (ofPieces ns).names = ns.filter fun n => !n.isEmpty := by
  unfold ofPieces
  split
  · rename_i hroot
    rw [beq_iff_eq.mp hroot]
    decide
  · rcases ns with _ | ⟨n, rest⟩
    · decide
    · rw [names, pieces, List.splitOn_intercalate sep hns (List.cons_ne_nil n rest)]

/-- A path built from pieces is absolute exactly when its first piece is empty. -/
theorem isAbsolute_ofPieces {ns : List Bytes} (hns : ∀ n ∈ ns, sep ∉ n) :
    (ofPieces ns).isAbsolute = true ↔ ns.head? = some [] := by
  unfold ofPieces
  split
  · rename_i hroot
    rw [beq_iff_eq.mp hroot]
    decide
  · rename_i hroot
    rcases ns with _ | ⟨n, rest⟩
    · decide
    · rcases n with _ | ⟨b, bs⟩
      · -- an empty first piece followed by more: the path starts with a separator
        rcases rest with _ | ⟨m, rest⟩
        · exact absurd rfl hroot
        · simp [isAbsolute, List.intercalate_cons_cons]
      · have hb : b ≠ sep := fun h => hns _ List.mem_cons_self (h ▸ List.mem_cons_self)
        rcases rest with _ | ⟨m, rest⟩
        · simp [isAbsolute, hb]
        · simp [isAbsolute, List.intercalate_cons_cons, hb]

/-- The last name of `p.join ⟨q⟩` is `q`, and the path before it is a base that starts where
`p` does, whose names are those of `p` less some trailing dots, and whose bytes are separators
or bytes of `p`. -/
theorem splitLast?_join (p : Path) {q : Bytes} (hq : Name q) :
    ∃ base : Path, (p.join ⟨q⟩).splitLast? = some (base, q) ∧ base.start = p.start ∧
      (∃ k, p.names = base.names ++ List.replicate k [dot]) ∧
      ∀ x ∈ base.bytes, x = sep ∨ x ∈ p.bytes := by
  obtain ⟨pre, hpieces, hnames, habs, hbytes⟩ := pieces_join p hq
  obtain ⟨idle, hsplit, -, hidle⟩ := dropIdle_spec pre.reverse
  -- the base keeps the pieces before the name up to its trailing empty names and dots
  set kept := (dropIdle pre.reverse).reverse with hkept
  have hpre : pre = kept ++ idle.reverse := by
    rw [hkept, ← List.reverse_append, ← hsplit, List.reverse_reverse]
  have hkeptBytes : ∀ n ∈ kept, ∀ x ∈ n, x ≠ sep ∧ x ∈ p.bytes :=
    fun n hn => hbytes n (hpre ▸ List.mem_append_left _ hn)
  have hkeptSep : ∀ n ∈ kept, sep ∉ n := fun n hn h => (hkeptBytes n hn sep h).1 rfl
  have hhead : kept.head? = pre.head? := by
    rw [hkept, List.head?_reverse, getLast?_dropIdle, List.getLast?_reverse]
  refine ⟨ofPieces kept, ?_, ?_, ?_, ?_⟩
  · unfold splitLast?
    rw [hpieces, List.reverse_append, List.reverse_singleton, List.singleton_append,
      dropIdle_cons_name hq]
    simp [hq.ne_nil, hq.ne_dot, hq.ne_dotdot, hkept]
  · have : (ofPieces kept).isAbsolute = p.isAbsolute := by
      rw [Bool.eq_iff_iff, isAbsolute_ofPieces hkeptSep, hhead, habs]
    simp only [start, this]
  · refine ⟨(idle.reverse.filter fun n => !n.isEmpty).length, ?_⟩
    rw [← hnames, hpre, List.filter_append, names_ofPieces hkeptSep]
    congr 1
    -- what is dropped holds dots and empty names only, and the empty names are filtered out
    refine List.eq_replicate_iff.mpr ⟨rfl, fun n hn => ?_⟩
    rw [List.mem_filter, List.mem_reverse] at hn
    rcases hidle n hn.1 with rfl | rfl
    · simp at hn
    · rfl
  · intro x hx
    unfold ofPieces at hx
    split at hx
    · exact .inl (List.mem_singleton.mp hx)
    · rcases mem_intercalate hx with h | ⟨n, hn, hxn⟩
      · exact .inl h
      · exact .inr (hkeptBytes n hn x hxn).2

theorem fileName?_join (p : Path) {q : Bytes} (hq : Name q) : (p.join ⟨q⟩).fileName? = some q := by
  obtain ⟨base, hsplit, -⟩ := splitLast?_join p hq
  simp only [fileName?, hsplit, Option.map_some]

/-- A path with its last name replaced: a base that starts where `p` does and whose names are
those of `p` less some trailing dots, joined with the new name. -/
theorem withFileName_join (p : Path) {q : Bytes} (hq : Name q) (s : Bytes) :
    ∃ base : Path, (p.join ⟨q⟩).withFileName s = base.join ⟨s⟩ ∧ base.start = p.start ∧
      (∃ k, p.names = base.names ++ List.replicate k [dot]) ∧
      ∀ x ∈ base.bytes, x = sep ∨ x ∈ p.bytes := by
  obtain ⟨base, hsplit, hrest⟩ := splitLast?_join p hq
  exact ⟨base, by simp only [withFileName, hsplit], hrest⟩

end Path

namespace Fs

/-! ## §1. Resolution reads skeletons -/

theorem walk_congr {fs fs' : Fs} (h : SameSkeleton fs fs') :
    ∀ (stack : List Nat) (ns : List Bytes), fs'.walk stack ns = fs.walk stack ns
  | _, [] => rfl
  | stack, [_] => by
    simp only [walk, h.allows _ ownerBit_search, h.lookupIn]
  | stack, _ :: n2 :: rest => by
    simp only [walk, h.allows _ ownerBit_search, h.lookupIn, h.isDir, walk_congr h _ (n2 :: rest)]

theorem locate_congr {fs fs' : Fs} (h : SameSkeleton fs fs') (p : Path) :
    fs'.locate p = fs.locate p := by
  unfold locate
  simp only [walk_congr h]

theorem find_congr {fs fs' : Fs} (h : SameSkeleton fs fs') (p : Path) :
    fs'.find p = fs.find p := by
  unfold find existing
  simp only [locate_congr h, h.isDir]

theorem openRead_congr {fs fs' : Fs} (h : SameSkeleton fs fs') (p : Path) :
    fs'.openRead p = fs.openRead p := by
  unfold openRead require
  simp only [find_congr h, h.allows _ ownerBit_read]

theorem openWrite_congr {fs fs' : Fs} (h : SameSkeleton fs fs') (p : Path) :
    fs'.openWrite p = fs.openWrite p := by
  unfold openWrite require
  simp only [find_congr h, h.allows _ ownerBit_write, h.isDir]

/-! ## §2. Walking through directories -/

/-- Walks names that must all lead to directories, from the directory at the head of `stack`:
the stack it ends with. The first names of every walk are walked this way. -/
def walkDirs (fs : Fs) : List Nat → List Bytes → Except OsError (List Nat)
  | stack, [] => .ok stack
  | stack, name :: rest =>
    if !fs.allows (stack.headD cwd) searchBit then .error .accessDenied
    else if name == [Path.dot] then fs.walkDirs stack rest
    else if name == [Path.dot, Path.dot] then fs.walkDirs (up stack) rest
    else if name.length > nameMax then .error .nameTooLong
    else match fs.lookupIn (stack.headD cwd) name with
      | none => .error .noEntry
      | some i => if fs.isDir i then fs.walkDirs (i :: stack) rest else .error .notDir

theorem walk_cons_of_ne_nil (fs : Fs) (stack : List Nat) (name : Bytes) {rest : List Bytes}
    (hrest : rest ≠ []) :
    fs.walk stack (name :: rest) =
      if !fs.allows (stack.headD cwd) searchBit then .error .accessDenied
      else if name == [Path.dot] then fs.walk stack rest
      else if name == [Path.dot, Path.dot] then fs.walk (up stack) rest
      else if name.length > nameMax then .error .nameTooLong
      else match fs.lookupIn (stack.headD cwd) name with
        | none => .error .noEntry
        | some i => if fs.isDir i then fs.walk (i :: stack) rest else .error .notDir := by
  obtain ⟨n2, rest', rfl⟩ := List.exists_cons_of_ne_nil hrest
  rfl

/-- A walk to a last name goes through the directories of the names before it. -/
theorem walk_append_single (fs : Fs) (ns : List Bytes) (q : Bytes) :
    ∀ stack, fs.walk stack (ns ++ [q]) = (fs.walkDirs stack ns).bind fun s => fs.walk s [q] := by
  induction ns with
  | nil => intro stack; rfl
  | cons m ns ih =>
    intro stack
    rw [List.cons_append, walk_cons_of_ne_nil fs stack m (by simp), walkDirs]
    -- the two walks test the same things in the same order
    split
    · rfl
    · split
      · exact ih stack
      · split
        · exact ih (up stack)
        · split
          · rfl
          · split
            · rfl
            · split
              · exact ih _
              · rfl

/-- The last step of a walk, at a plain name in a directory the caller may search. -/
theorem walk_single {fs : Fs} {stack : List Nat} {q : Bytes} (hq : Path.Plain q)
    (hs : fs.allows (stack.headD cwd) searchBit) :
    fs.walk stack [q] = .ok (.entry (stack.headD cwd) q (fs.lookupIn (stack.headD cwd) q)) := by
  have hdot : (q == [Path.dot]) = false := by simpa using hq.ne_dot
  have hdotdot : (q == [Path.dot, Path.dot]) = false := by simpa using hq.ne_dotdot
  have hlen : ¬ q.length > nameMax := by have := hq.length_le; omega
  simp only [walk, hs, Bool.not_true, Bool.false_eq_true, ↓reduceIte, hdot, hdotdot, hlen]

theorem locate_eq (fs : Fs) (p : Path) :
    fs.locate p =
      if p.bytes.contains 0 then .error .nulInPath
      else if p.bytes.length ≥ pathMax then .error .nameTooLong
      else if p.bytes.isEmpty then .error .noEntry
      else (fs.walk p.start p.names).map fun t => ⟨t, p.bytes.getLast? == some Path.sep⟩ := rfl

/-- A plain name in a directory the caller may search resolves to that directory's entry. -/
theorem locate_join {fs : Fs} {root : Path} {q : Bytes} {stk : List Nat} (hq : Path.Plain q)
    (hfit : (root.join ⟨q⟩).Fits) (hw : fs.walkDirs root.start root.names = .ok stk)
    (hs : fs.allows (stk.headD cwd) searchBit) :
    fs.locate (root.join ⟨q⟩) =
      .ok ⟨.entry (stk.headD cwd) q (fs.lookupIn (stk.headD cwd) q), false⟩ := by
  have hnul : (root.join ⟨q⟩).bytes.contains 0 = false := by
    simpa using hfit.nul_not_mem
  have hlong : ¬ (root.join ⟨q⟩).bytes.length ≥ pathMax := by
    have := hfit.length_lt
    omega
  have hne : (root.join ⟨q⟩).bytes.isEmpty = false := by
    obtain ⟨pre, hbytes, -, -, -⟩ := Path.join_bytes root hq.toName
    rw [hbytes]
    simp [hq.ne_nil]
  rw [locate_eq, hnul, if_neg Bool.false_ne_true, if_neg hlong, hne, if_neg Bool.false_ne_true,
    Path.names_join root hq.toName, Path.start_join root hq.toName, walk_append_single, hw]
  show (fs.walk stk [q]).map _ = _
  rw [walk_single hq hs, Path.getLast?_join root hq.toName]
  rfl

/-! ### Walking through directories -/

theorem walkDirs_append (fs : Fs) (ns ms : List Bytes) :
    ∀ stack, fs.walkDirs stack (ns ++ ms) = (fs.walkDirs stack ns).bind fun s => fs.walkDirs s ms := by
  induction ns with
  | nil => intro stack; rfl
  | cons m ns ih =>
    intro stack
    simp only [List.cons_append, walkDirs]
    -- the first name is tested the same way on both sides
    split
    · rfl
    · split
      · exact ih stack
      · split
        · exact ih (up stack)
        · split
          · rfl
          · split
            · rfl
            · split
              · exact ih _
              · rfl

/-- Dots leave a walk where it is. -/
theorem walkDirs_replicate_dot (fs : Fs) {stack stk : List Nat} :
    ∀ k, fs.walkDirs stack (List.replicate k [Path.dot]) = .ok stk → stk = stack
  | 0, h => by
    simp only [List.replicate_zero, walkDirs, Except.ok.injEq] at h
    exact h.symm
  | k + 1, h => by
    rw [List.replicate_succ, walkDirs] at h
    split at h
    · cases h
    · exact walkDirs_replicate_dot fs k h

theorem walkDirs_of_append_dots {fs : Fs} {stack stk : List Nat} {ns : List Bytes} {k : Nat}
    (h : fs.walkDirs stack (ns ++ List.replicate k [Path.dot]) = .ok stk) :
    fs.walkDirs stack ns = .ok stk := by
  rw [walkDirs_append] at h
  cases hw : fs.walkDirs stack ns with
  | error e =>
    rw [hw] at h
    cases h
  | ok s =>
    rw [hw] at h
    rw [walkDirs_replicate_dot fs k h]

/-- The inode a resolved target names, if any. -/
def Target.ino? : Target → Option Nat
  | .dirItself i => some i
  | .entry _ _ o => o

theorem ino?_of_existing {fs : Fs} {l : Located} {i : Nat} (h : fs.existing l = .ok i) :
    l.target.ino? = some i := by
  unfold existing at h
  split at h
  · rename_i j hj
    cases h
    rw [hj]
    rfl
  · cases h
  · rename_i j hj
    split at h
    · cases h
    · cases h
      rw [hj]
      rfl

/-- A last name that leads to a directory: walking it as a directory reaches that directory. -/
theorem walkDirs_of_walk_single {fs : Fs} {stack : List Nat} {m : Bytes} {t : Target} {i : Nat}
    (hw : fs.walk stack [m] = .ok t) (hi : t.ino? = some i) (hd : fs.isDir i) :
    ∃ stk, fs.walkDirs stack [m] = .ok stk ∧ stk.headD cwd = i := by
  simp only [walk] at hw
  simp only [walkDirs]
  split at hw
  · cases hw
  · rename_i hs
    rw [if_neg hs]
    split at hw
    · rename_i hdot
      cases hw
      exact ⟨stack, by rw [if_pos hdot], by simpa [Target.ino?] using hi⟩
    · rename_i hdot
      rw [if_neg hdot]
      split at hw
      · rename_i hdotdot
        cases hw
        exact ⟨up stack, by rw [if_pos hdotdot], by simpa [Target.ino?] using hi⟩
      · rename_i hdotdot
        rw [if_neg hdotdot]
        split at hw
        · cases hw
        · rename_i hlong
          cases hw
          rw [if_neg hlong]
          simp only [Target.ino?] at hi
          rw [hi]
          simp only [hd, ↓reduceIte]
          exact ⟨i :: stack, rfl, rfl⟩

/-- A walk that ends at a directory goes through directories all the way. -/
theorem walkDirs_of_walk {fs : Fs} {stack : List Nat} {ns : List Bytes} {t : Target} {i : Nat}
    (hw : fs.walk stack ns = .ok t) (hi : t.ino? = some i) (hd : fs.isDir i) :
    ∃ stk, fs.walkDirs stack ns = .ok stk ∧ stk.headD cwd = i := by
  rcases List.eq_nil_or_concat ns with rfl | ⟨ns', m, rfl⟩
  · -- no names: the walk stays at its start
    simp only [walk, Except.ok.injEq] at hw
    subst hw
    exact ⟨stack, rfl, by simpa [Target.ino?] using hi⟩
  · rw [List.concat_eq_append, walk_append_single] at hw
    rw [List.concat_eq_append]
    cases hs : fs.walkDirs stack ns' with
    | error e =>
      rw [hs] at hw
      cases hw
    | ok s =>
      rw [hs] at hw
      obtain ⟨stk, hstk, hhead⟩ := walkDirs_of_walk_single hw hi hd
      refine ⟨stk, ?_, hhead⟩
      rw [walkDirs_append, hs]
      exact hstk

@[simp] theorem ok_bind {α β : Type} (a : α) (f : α → Except OsError β) :
    (Except.ok a >>= f) = f a := rfl

/-- A path that names a directory is walked through directories to it. -/
theorem walkDirs_of_find {fs : Fs} {p : Path} {r : Nat} (hf : fs.find p = .ok r)
    (hd : fs.isDir r) : ∃ stk, fs.walkDirs p.start p.names = .ok stk ∧ stk.headD cwd = r := by
  unfold find at hf
  cases hl : fs.locate p with
  | error e =>
    rw [hl] at hf
    cases hf
  | ok l =>
    rw [hl, ok_bind] at hf
    rw [locate_eq] at hl
    split_ifs at hl
    cases hw : fs.walk p.start p.names with
    | error e =>
      rw [hw] at hl
      cases hl
    | ok t =>
      rw [hw] at hl
      cases hl
      exact walkDirs_of_walk hw (ino?_of_existing hf) hd

/-! ### Changes that keep the directories -/

theorem isDir_of_lookupIn {fs : Fs} {d i : Nat} {n : Bytes} (h : fs.lookupIn d n = some i) :
    fs.isDir d := by
  unfold lookupIn entries at h
  unfold isDir
  split at h
  · rfl
  · cases h

theorem lt_size_of_isDir {fs : Fs} {i : Nat} (h : fs.isDir i) : i < fs.inodes.size := by
  obtain ⟨es, b, m, fl, hi⟩ := isDir_iff.mp h
  exact lt_size_of_inode?_eq_some hi

theorem inode?_alloc_of_lt (fs : Fs) (ino : Inode) {j : Nat} (hj : j < fs.inodes.size) :
    (fs.alloc ino).1.inode? j = fs.inode? j := by
  rw [inode?_alloc, if_neg (Nat.ne_of_lt hj)]

/-- `fs'` keeps the directories of `fs`: no inode is lost or changes its owner's permissions,
every directory stays one, and every name that led to a directory still leads to it. -/
structure KeepsDirs (fs fs' : Fs) : Prop where
  size_le : fs.inodes.size ≤ fs'.inodes.size
  isDir : ∀ i, fs.isDir i → fs'.isDir i
  allows : ∀ i < fs.inodes.size, ∀ bit, ownerBit bit → fs'.allows i bit = fs.allows i bit
  lookup : ∀ d n i, fs.lookupIn d n = some i → fs.isDir i → fs'.lookupIn d n = some i

namespace KeepsDirs

variable {fs fs' fs'' : Fs}

theorem refl (fs : Fs) : KeepsDirs fs fs :=
  ⟨le_refl _, fun _ h => h, fun _ _ _ _ => rfl, fun _ _ _ h _ => h⟩

theorem trans (h : KeepsDirs fs fs') (h' : KeepsDirs fs' fs'') : KeepsDirs fs fs'' where
  size_le := h.size_le.trans h'.size_le
  isDir i hi := h'.isDir i (h.isDir i hi)
  allows i hi bit hb :=
    (h'.allows i (Nat.lt_of_lt_of_le hi h.size_le) bit hb).trans (h.allows i hi bit hb)
  lookup d n i hl hd := h'.lookup d n i (h.lookup d n i hl hd) (h.isDir i hd)

theorem of_sameSkeleton (h : SameSkeleton fs fs') : KeepsDirs fs fs' where
  size_le := h.size_inodes.ge
  isDir i hi := by rw [h.isDir]; exact hi
  allows i _ _ hb := h.allows i hb
  lookup d n i hl _ := by rw [h.lookupIn]; exact hl

theorem alloc (fs : Fs) (ino : Inode) : KeepsDirs fs (fs.alloc ino).1 where
  size_le := by simp
  isDir i hi := by
    unfold Fs.isDir at hi ⊢
    rw [inode?_alloc_of_lt fs ino (lt_size_of_isDir hi)]
    exact hi
  allows i hi bit _ := by
    unfold Fs.allows
    rw [inode?_alloc_of_lt fs ino hi]
  lookup d n i hl _ := by
    unfold lookupIn entries at hl ⊢
    rw [inode?_alloc_of_lt fs ino (lt_size_of_isDir (isDir_of_lookupIn hl))]
    exact hl

theorem addEntry (fs : Fs) (d : Nat) (n : Bytes) (i : Nat) : KeepsDirs fs (fs.addEntry d n i) where
  size_le := by simp [Fs.addEntry]
  isDir j hj := by rw [isDir_addEntry]; exact hj
  allows j _ bit _ := allows_addEntry fs d n i j bit
  lookup d' n' j hl _ := by
    by_cases hd : d = d'
    · subst hd
      rw [lookupIn_addEntry_self (isDir_of_lookupIn hl), hl]
      rfl
    · rw [lookupIn_addEntry_ne fs n i n' hd]
      exact hl

/-- Removing a name that is not a directory's keeps the directories. -/
theorem removeEntry {fs : Fs} {d : Nat} {n : Bytes}
    (hn : ∀ j, fs.lookupIn d n = some j → fs.isDir j = false) :
    KeepsDirs fs (fs.removeEntry d n) where
  size_le := by simp [Fs.removeEntry]
  isDir j hj := by rw [isDir_removeEntry]; exact hj
  allows j _ bit _ := allows_removeEntry fs d n j bit
  lookup d' n' j hl hj := by
    by_cases hd : d = d'
    · subst hd
      rw [lookupIn_removeEntry_self (isDir_of_lookupIn hl)]
      by_cases hname : n' = n
      · subst hname
        rw [hn j hl] at hj
        cases hj
      · rw [if_neg hname]
        exact hl
    · rw [lookupIn_removeEntry_ne fs n n' hd]
      exact hl

end KeepsDirs

theorem headD_mem {stack : List Nat} (h : stack ≠ []) : stack.headD cwd ∈ stack := by
  obtain ⟨a, rest, rfl⟩ := List.exists_cons_of_ne_nil h
  exact List.mem_cons_self

theorem up_ne_nil {stack : List Nat} (h : stack ≠ []) : up stack ≠ [] := by
  unfold up
  split
  · exact List.cons_ne_nil _ _
  · exact h

theorem mem_of_mem_up {stack : List Nat} {j : Nat} (h : j ∈ up stack) : j ∈ stack := by
  unfold up at h
  split at h
  · exact List.mem_cons_of_mem _ h
  · exact h

/-- A walk through directories survives every change that keeps them. The stack only ever
holds inodes that exist, so their search permission is kept. -/
theorem KeepsDirs.walkDirs {fs fs' : Fs} (hk : KeepsDirs fs fs') :
    ∀ (ns : List Bytes) (stack stk : List Nat), stack ≠ [] →
      (∀ j ∈ stack, j < fs.inodes.size) →
      fs.walkDirs stack ns = .ok stk → fs'.walkDirs stack ns = .ok stk
  | [], _, _, _, _, h => h
  | m :: ns, stack, stk, hne, hlt, h => by
    have hsearch := hk.allows _ (hlt _ (headD_mem hne)) searchBit ownerBit_search
    simp only [Fs.walkDirs] at h ⊢
    rw [hsearch]
    split at h
    · cases h
    · rename_i hs
      rw [if_neg hs]
      split at h
      · rename_i hdot
        rw [if_pos hdot]
        exact KeepsDirs.walkDirs hk ns stack stk hne hlt h
      · rename_i hdot
        rw [if_neg hdot]
        split at h
        · rename_i hdotdot
          rw [if_pos hdotdot]
          exact KeepsDirs.walkDirs hk ns (up stack) stk (up_ne_nil hne)
            (fun j hj => hlt j (mem_of_mem_up hj)) h
        · rename_i hdotdot
          rw [if_neg hdotdot]
          split at h
          · cases h
          · rename_i hlong
            rw [if_neg hlong]
            split at h
            · cases h
            · rename_i i hl
              split at h
              · rename_i hd
                rw [hk.lookup _ _ i hl hd]
                simp only [hk.isDir i hd, ↓reduceIte]
                refine KeepsDirs.walkDirs hk ns (i :: stack) stk (List.cons_ne_nil _ _) ?_ h
                intro j hj
                rcases List.mem_cons.mp hj with rfl | hj
                · exact lt_size_of_isDir hd
                · exact hlt j hj
              · cases h

/-- A sibling of a name in a searchable directory resolves to an entry of the same
directory. -/
theorem locate_withFileName {fs : Fs} {root : Path} {q s : Bytes} {stk : List Nat}
    (hq : Path.Name q) (hs : Path.Plain s) (hfit : ((root.join ⟨q⟩).withFileName s).Fits)
    (hw : fs.walkDirs root.start root.names = .ok stk)
    (hsearch : fs.allows (stk.headD cwd) searchBit) :
    fs.locate ((root.join ⟨q⟩).withFileName s) =
      .ok ⟨.entry (stk.headD cwd) s (fs.lookupIn (stk.headD cwd) s), false⟩ := by
  obtain ⟨base, hbase, hstart, ⟨k, hnames⟩, -⟩ := Path.withFileName_join root hq s
  rw [hbase] at hfit ⊢
  -- the base walks to the same directory: it differs from the root by trailing dots only
  have hwb : fs.walkDirs base.start base.names = .ok stk := by
    rw [hnames, ← hstart] at hw
    exact walkDirs_of_append_dots hw
  exact locate_join hs hfit hwb hsearch

/-! ## §3. Calls on a name in a directory

Below, `hloc` says that path `c` resolves to entry `q` of directory `r` without a trailing
separator, as `locate_join` gives for a file name joined to the root. -/

section Child

variable {fs : Fs} {c : Path} {r : Nat} {q : Bytes}

theorem find_child_some {i : Nat} (hloc : fs.locate c = .ok ⟨.entry r q (fs.lookupIn r q), false⟩)
    (hl : fs.lookupIn r q = some i) : fs.find c = .ok i := by
  unfold find
  rw [hloc, hl]
  rfl

theorem find_child_none (hloc : fs.locate c = .ok ⟨.entry r q (fs.lookupIn r q), false⟩)
    (hl : fs.lookupIn r q = none) : fs.find c = .error .noEntry := by
  unfold find
  rw [hloc, hl]
  rfl

theorem openRead_child {i : Nat} (hloc : fs.locate c = .ok ⟨.entry r q (fs.lookupIn r q), false⟩)
    (hl : fs.lookupIn r q = some i) :
    fs.openRead c = if fs.allows i readBit then .ok i else .error .accessDenied := by
  unfold openRead
  rw [find_child_some hloc hl]
  show (do fs.require i readBit; .ok i) = _
  unfold require
  by_cases ha : fs.allows i readBit <;> simp only [ha, ↓reduceIte, Bool.false_eq_true] <;> rfl

theorem openWrite_child {i : Nat} (hloc : fs.locate c = .ok ⟨.entry r q (fs.lookupIn r q), false⟩)
    (hl : fs.lookupIn r q = some i) :
    fs.openWrite c =
      if fs.isDir i then .error .isDir
      else if fs.allows i writeBit then .ok i else .error .accessDenied := by
  unfold openWrite
  rw [find_child_some hloc hl]
  show (if fs.isDir i then .error .isDir else do fs.require i writeBit; .ok i) = _
  unfold require
  by_cases hd : fs.isDir i <;> by_cases ha : fs.allows i writeBit <;>
    simp only [hd, ha, ↓reduceIte, Bool.false_eq_true] <;> rfl

/-- An exclusive create of a free name in a writable directory makes a new empty file there,
numbered after every inode there was. -/
theorem createNew_child_none (hloc : fs.locate c = .ok ⟨.entry r q (fs.lookupIn r q), false⟩)
    (hl : fs.lookupIn r q = none) (hw : fs.allows r writeBit) (mode : Nat) :
    fs.createNew c mode =
      .ok ((fs.alloc ⟨.file [], createMode mode, none⟩).1.addEntry r q fs.inodes.size,
        fs.inodes.size) := by
  unfold createNew
  rw [hloc, hl]
  simp only [ok_bind, require, hw, Bool.false_eq_true, ↓reduceIte, alloc_snd]

theorem createNew_child_some {i : Nat}
    (hloc : fs.locate c = .ok ⟨.entry r q (fs.lookupIn r q), false⟩)
    (hl : fs.lookupIn r q = some i) (mode : Nat) : fs.createNew c mode = .error .nameTaken := by
  unfold createNew
  rw [hloc, hl]
  rfl

theorem unlink_child {i : Nat} (hloc : fs.locate c = .ok ⟨.entry r q (fs.lookupIn r q), false⟩)
    (hl : fs.lookupIn r q = some i) (hw : fs.allows r writeBit) (hf : fs.isDir i = false) :
    fs.unlink c = .ok (fs.removeEntry r q) := by
  unfold unlink
  rw [hloc, hl]
  simp only [ok_bind, require, hw, hf, Bool.false_eq_true, ↓reduceIte]

theorem unlink_child_none (hloc : fs.locate c = .ok ⟨.entry r q (fs.lookupIn r q), false⟩)
    (hl : fs.lookupIn r q = none) : fs.unlink c = .error .noEntry := by
  unfold unlink
  rw [hloc, hl]
  rfl

/-- Linking a file to a free name in a writable directory adds that entry. -/
theorem link_child {old : Path} {i : Nat} (hold : fs.find old = .ok i)
    (hloc : fs.locate c = .ok ⟨.entry r q (fs.lookupIn r q), false⟩)
    (hl : fs.lookupIn r q = none) (hw : fs.allows r writeBit) (hf : fs.isDir i = false) :
    fs.link old c = .ok (fs.addEntry r q i) := by
  unfold link
  rw [hold, ok_bind, hloc, hl]
  simp only [ok_bind, require, hw, hf, Bool.false_eq_true, ↓reduceIte]

theorem link_child_some {old : Path} {i j : Nat} (hold : fs.find old = .ok i)
    (hloc : fs.locate c = .ok ⟨.entry r q (fs.lookupIn r q), false⟩)
    (hl : fs.lookupIn r q = some j) : fs.link old c = .error .nameTaken := by
  unfold link
  rw [hold, ok_bind, hloc, hl]
  rfl

end Child

end Fs

end FirmwareVars
