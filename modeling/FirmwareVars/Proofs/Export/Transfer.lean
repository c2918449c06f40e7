import FirmwareVars.Export.Transfer
import FirmwareVars.Proofs.Export.Codec
import FirmwareVars.Proofs.Store.Reads

/-!
# Exporting a variable and importing it back

A variable read from one store, written to an export file, read back from it and imported into
another store arrives as it left: the export file reads back as the variable it was written
from (`ExportFile.decode_of_encode`), the key rebuilt from it is the key it was read under, and
the import is an ordinary `set` of the variable's attribute word and payload.

That `set` is where the way back can part from the way out. A set whose word has the append bit
adds the payload to a record that is already there instead of replacing it; a variable created
by an append carries that bit in its header. Importing it where its record already is, as into
the store it came from, doubles the payload (`reimport_appends_payload`). Everywhere else, when
the destination holds no record for the key or the word has no append bit, the destination's
record is byte for byte the source's (`export_import_restores`).

Main statements:
  * `Attributes.header_ofHeader`, `Record.encode_of_decode?` — a record is its header and its
    payload, written back.
  * `exec_writeTo`, `exec_readFrom` — the export file's calls, as the filesystem answers them.
  * `Ready.leavesDir` — a change that leaves the destination's root as it was keeps a
    destination ready.
  * `export_import_restores` — the whole way there and back.
-/

namespace FirmwareVars

/-! ## §1. A record, read and written back -/

namespace Attributes

/-- Four header bytes are the header of the word they stand for. -/
theorem header_ofHeader {bs : Bytes} (h : bs.length = 4) : (ofHeader bs).header = bs := by
  have hlt : Bytes.leValue bs < 2 ^ 32 := by
    have := Bytes.leValue_lt bs
    rw [h] at this
    simpa [Nat.pow_eq] using this
  unfold header ofHeader
  rw [Nat.toUInt32, UInt32.toNat_ofNat_of_lt' hlt, ← h, Bytes.le_leValue]

end Attributes

namespace Record

/-- A record at least a header long reads as its header's word and the rest. -/
theorem decode?_of_le {bs : Bytes} (h : headerLen ≤ bs.length) :
    decode? bs = some ⟨Attributes.ofHeader (bs.take headerLen), bs.drop headerLen⟩ := by
  unfold decode?
  rw [if_neg (by omega)]

/-- A record that decodes is its header and its payload, written back. -/
theorem encode_of_decode? {bs : Bytes} {v : Variable} (h : decode? bs = some v) :
    encode v.attributes v.data = bs := by
  unfold decode? at h
  split at h
  · cases h
  rename_i hlen
  cases h
  have htake : (bs.take headerLen).length = 4 := by
    simp only [List.length_take, headerLen] at hlen ⊢
    omega
  rw [encode, Attributes.header_ofHeader htake, List.take_append_drop]

end Record

/-! ## §2. Opening the export file -/

namespace Fs

theorem ext_inode? {fs fs' : Fs} (h : ∀ i, fs.inode? i = fs'.inode? i) : fs = fs' := by
  cases fs
  cases fs'
  congr 1
  exact Array.ext_getElem? h

/-- Emptying a regular file in place is truncating it to nothing. -/
theorem modify_emptied {fs : Fs} {i : Nat} {d : Bytes} (hd : fs.read i = .ok d) :
    fs.modify i (fun ino => { ino with node := .file [], mode := dropPrivileges ino.mode }) =
      fs.truncate i 0 := by
  obtain ⟨m, fl, hi⟩ := read_eq_ok_iff.mp hd
  apply ext_inode?
  intro j
  unfold truncate
  rw [inode?_modify, inode?_modify]
  split
  · rename_i hij
    subst hij
    rw [hi]
    simp
  · rfl

/-- A regular file emptied and then written from its start holds what was written; every other
inode is as it was, and paths resolve as before. -/
theorem read_emptied_writeAt_self {fs : Fs} {i : Nat} {d : Bytes} (hd : fs.read i = .ok d)
    (bs : Bytes) : ((fs.truncate i 0).writeAt i 0 bs).read i = .ok bs := by
  rw [read_writeAt_self (read_truncate_self hd 0)]
  simp

theorem read_emptied_writeAt_ne (fs : Fs) {i j : Nat} (bs : Bytes) (hj : j ≠ i) :
    ((fs.truncate i 0).writeAt i 0 bs).read j = fs.read j := by
  rw [read_writeAt_ne _ _ _ (Ne.symm hj), read_truncate_ne _ _ (Ne.symm hj)]

theorem sameSkeleton_emptied_writeAt (fs : Fs) (i : Nat) (bs : Bytes) :
    SameSkeleton fs ((fs.truncate i 0).writeAt i 0 bs) :=
  (sameSkeleton_truncate _ _ _).trans (sameSkeleton_writeAt _ _ _ _)

section Child

variable {fs : Fs} {c : Path} {r : Nat} {q : Bytes}

/-- Opening a free name of a writable directory for writing creates an empty file there, numbered
after every inode there was. -/
theorem createTruncate_child_none
    (hloc : fs.locate c = .ok ⟨.entry r q (fs.lookupIn r q), false⟩)
    (hl : fs.lookupIn r q = none) (hw : fs.allows r writeBit) :
    fs.createTruncate c =
      .ok ((fs.alloc ⟨.file [], createMode 0o666, none⟩).1.addEntry r q fs.inodes.size,
        fs.inodes.size) := by
  unfold createTruncate
  rw [hloc, hl]
  simp only [ok_bind, require, hw, Bool.false_eq_true, ↓reduceIte, alloc_snd]

/-- Opening a regular file the caller may write for writing empties it. -/
theorem createTruncate_child_file {i : Nat} {d : Bytes}
    (hloc : fs.locate c = .ok ⟨.entry r q (fs.lookupIn r q), false⟩)
    (hl : fs.lookupIn r q = some i) (hd : fs.read i = .ok d) (hw : fs.allows i writeBit) :
    fs.createTruncate c = .ok (fs.truncate i 0, i) := by
  unfold createTruncate
  rw [hloc, hl]
  simp only [ok_bind, isDir_of_read hd, require, hw, Bool.false_eq_true, ↓reduceIte]
  rw [modify_emptied hd]

end Child

/-- `fs'` leaves directory `r` as `fs` has it: the directories are kept, every name of `r` names
what it named, and every regular file `r` names holds the same bytes. -/
structure LeavesDir (fs fs' : Fs) (r : Nat) : Prop where
  keeps : KeepsDirs fs fs'
  lookup : ∀ q, fs'.lookupIn r q = fs.lookupIn r q
  read : ∀ q i d, fs.lookupIn r q = some i → fs.read i = .ok d → fs'.read i = .ok d

end Fs

namespace Store

open Fs

section ExportFile

variable {fs : Fs} {r rf : Nat} {q : Bytes}

/-- Storing a file under a name of one directory leaves alone any other directory whose names
are kept and none of whose files is the stored one. -/
theorem Stores.leavesDir {fs' : Fs} {j : Nat} {c : Bytes} (hs : Stores fs fs' rf q j c)
    (hlook : ∀ n, fs'.lookupIn r n = fs.lookupIn r n)
    (hj : ∀ n i d, fs.lookupIn r n = some i → fs.read i = .ok d → i ≠ j) :
    LeavesDir fs fs' r where
  keeps := hs.keeps
  lookup := hlook
  read n i d hi hd := by rw [hs.read_ne i (hj n i d hi hd)]; exact hd

/-- Opening a free name for writing and writing `bs` stores a new file of `bs` there. -/
theorem stores_created (hr : fs.isDir rf) (hq : fs.lookupIn rf q = none) (bs : Bytes) :
    Stores fs (((fs.alloc ⟨.file [], createMode 0o666, none⟩).1.addEntry rf q
      fs.inodes.size).writeAt fs.inodes.size 0 bs) rf q fs.inodes.size bs where
  keeps := keepsDirs_stagingFile.trans (.of_sameSkeleton (sameSkeleton_writeAt _ _ _ _))
  lookup_self := by
    rw [(sameSkeleton_writeAt _ _ _ _).lookupIn, lookupIn_stagingFile hr hq, if_pos rfl]
  lookup_ne n hn := by
    rw [(sameSkeleton_writeAt _ _ _ _).lookupIn, lookupIn_stagingFile hr hq, if_neg hn]
  read_self := by
    rw [read_writeAt_self read_stagingFile_new]
    simp
  read_ne j hj := by
    rw [read_writeAt_ne _ _ _ (Ne.symm hj), read_addEntry]
    unfold Fs.read
    rw [inode?_alloc, if_neg hj]
  readable := by
    rw [(sameSkeleton_writeAt _ _ _ _).allows _ ownerBit_read, allows_addEntry]
    unfold Fs.allows
    rw [inode?_alloc, if_pos rfl]
    exact (owner_bits (by decide)).1
  writable := by
    rw [(sameSkeleton_writeAt _ _ _ _).allows _ ownerBit_write, allows_addEntry]
    unfold Fs.allows
    rw [inode?_alloc, if_pos rfl]
    exact (owner_bits (by decide)).2

/-- The new file's directory is the only one that gains a name. -/
theorem lookupIn_created {d : Nat} (hd : fs.isDir d) (hne : rf ≠ d) (bs : Bytes) (n : Bytes) :
    (((fs.alloc ⟨.file [], createMode 0o666, none⟩).1.addEntry rf q
      fs.inodes.size).writeAt fs.inodes.size 0 bs).lookupIn d n = fs.lookupIn d n := by
  rw [(sameSkeleton_writeAt _ _ _ _).lookupIn, lookupIn_addEntry_ne _ _ _ _ hne,
    lookupIn_alloc fs _ (lt_size_of_isDir hd)]

/-- Opening a regular file for writing and writing `bs` leaves `bs` in it. -/
theorem stores_emptied {i : Nat} {d : Bytes} (hl : fs.lookupIn rf q = some i)
    (hd : fs.read i = .ok d) (hrd : fs.allows i readBit) (hwr : fs.allows i writeBit)
    (bs : Bytes) : Stores fs ((fs.truncate i 0).writeAt i 0 bs) rf q i bs :=
  Stores.of_sameSkeleton (sameSkeleton_emptied_writeAt _ _ _) hl hrd hwr
    (read_emptied_writeAt_self hd bs) fun _ hj => read_emptied_writeAt_ne _ _ hj

/-- The export file at a plain name of a writable directory other than `r`, naming nothing or a
regular file the caller may read and write that no name of `r` names: opening it for writing
and writing `bs` stores `bs` under its name and leaves `r` as it was. -/
theorem exportTarget {fdir : Path} (bs : Bytes) (hf : RootAt fdir fs rf) (hq : Path.Plain q)
    (hfit : (fdir.join ⟨q⟩).Fits) (hr : fs.isDir r) (hne : rf ≠ r)
    (hfile : ∀ j, fs.lookupIn rf q = some j → (∃ c, fs.read j = .ok c) ∧ fs.allows j readBit ∧
      fs.allows j writeBit ∧ ∀ n, fs.lookupIn r n ≠ some j) :
    ∃ fs₁ j, fs.createTruncate (fdir.join ⟨q⟩) = .ok (fs₁, j) ∧
      Stores fs (fs₁.writeAt j 0 bs) rf q j bs ∧ LeavesDir fs (fs₁.writeAt j 0 bs) r := by
  obtain ⟨stk, hw, rfl⟩ := hf.walk
  have hloc := locate_join hq hfit hw hf.search
  cases hl : fs.lookupIn (stk.headD cwd) q with
  | none =>
    -- a new file, numbered after every inode there was
    have hs := stores_created hf.isDir hl bs
    refine ⟨_, _, createTruncate_child_none hloc hl hf.write, hs,
      hs.leavesDir (lookupIn_created hr hne bs) fun n i d _ hd => ?_⟩
    exact Nat.ne_of_lt (lt_size_of_read hd)
  | some i =>
    -- the file there, emptied
    obtain ⟨⟨c, hc⟩, hrd, hwr, hnot⟩ := hfile i hl
    have hs := stores_emptied hl hc hrd hwr bs
    refine ⟨_, _, createTruncate_child_file hloc hl hc hwr, hs,
      hs.leavesDir (fun n => (sameSkeleton_emptied_writeAt _ _ _).lookupIn r n)
        fun n j _ hj _ => ?_⟩
    rintro rfl
    exact hnot n hj

/-- The export file, once written, opens for reading as the file it was written to. -/
theorem Stores.openRead {fdir : Path} {fs' : Fs} {j : Nat} {c : Bytes} (hf : RootAt fdir fs rf)
    (hq : Path.Plain q) (hfit : (fdir.join ⟨q⟩).Fits) (hs : Stores fs fs' rf q j c) :
    fs'.openRead (fdir.join ⟨q⟩) = .ok j := by
  obtain ⟨stk, hw, hhead⟩ := (hf.keeps hs.keeps).walk
  have hloc := locate_join hq hfit hw (hhead ▸ (hf.keeps hs.keeps).search)
  rw [hhead] at hloc
  rw [openRead_child hloc hs.lookup_self, if_pos hs.readable]

end ExportFile

/-! ## §3. A destination left as it was -/

section Frame

variable {K : VarKey → Prop} {n : Nat} {st : Store} {fs fs' : Fs} {r : Nat}

/-- A change that leaves a ready store's root directory as it was keeps the store ready. -/
theorem Ready.leavesDir (hr : Ready K n st fs r) (hl : LeavesDir fs fs' r) :
    Ready K n st fs' r where
  plain := hr.plain
  unmirrored := hr.unmirrored
  root := hr.root.keeps hl.keeps
  fits := hr.fits
  files k hk i hi := by
    rw [hl.lookup] at hi
    obtain ⟨⟨d, hd⟩, hrd, hwr⟩ := hr.files k hk i hi
    have hlt := lt_size_of_read hd
    rw [hl.keeps.allows i hlt readBit ownerBit_read, hl.keeps.allows i hlt writeBit ownerBit_write]
    exact ⟨⟨d, hl.read _ i d hi hd⟩, hrd, hwr⟩
  apart k k' hk hk' i h1 h2 := by
    rw [hl.lookup] at h1 h2
    exact hr.apart k k' hk hk' i h1 h2
  unstaged k hk seq := by
    rw [hl.lookup]
    exact hr.unstaged k hk seq
  staging := hr.staging

/-- A change that leaves a ready store's root directory as it was leaves the record of each of its
keys. -/
theorem Ready.contents_leavesDir (hr : Ready K n st fs r) (hl : LeavesDir fs fs' r) {k : VarKey}
    (hk : K k) : fs'.contents (st.config.root.join (.ofString k.fileName)) =
      fs.contents (st.config.root.join (.ofString k.fileName)) := by
  rw [contents_key (hr.root.keeps hl.keeps) (hr.fits k hk), contents_key hr.root (hr.fits k hk),
    hl.lookup]
  cases hi : fs.lookupIn r (Utf8.encode k.fileName) with
  | none => rfl
  | some i =>
    obtain ⟨⟨d, hd⟩, -, -⟩ := hr.files k hk i hi
    simp only [Option.bind_some, hd, hl.read _ i d hi hd]

end Frame

end Store

/-! ## §4. The calls of an export and an import -/

theorem Host.run_openPath_createTruncate {h : Host} {p : Path} {fs' : Fs} {j : Nat}
    (hc : h.fs.createTruncate p = .ok (fs', j)) :
    run (Sys.openPath p .createTruncate) h = (.ok ⟨j, .write⟩, { h with fs := fs' }) := by
  show h.openAt p .createTruncate = _
  simp only [Host.openAt, Fs.openAt, hc, Fs.ok_bind]

/-- A file that does not open for writing leaves the host as it was. -/
theorem Host.run_openPath_createTruncate_error {h : Host} {p : Path} {e : OsError}
    (hc : h.fs.createTruncate p = .error e) :
    run (Sys.openPath p .createTruncate) h = (.error e, h) := by
  show h.openAt p .createTruncate = _
  unfold Host.openAt Fs.openAt
  rw [hc]
  rfl

theorem ExportFile.ne_nil_of_encode {v : Exported} {bs : Bytes} (h : encode v = .ok bs) :
    bs ≠ [] := by
  dsimp only [encode] at h
  split at h
  · cases h
  cases h
  apply List.ne_nil_of_length_pos
  simp

namespace Exported

open StoreM Store

variable {st : Store} {h : Host} {p : Path}

theorem exec_ofStore {k : VarKey} {v : Variable} (hg : exec (get k) st h = ((.ok v, st), h)) :
    exec (ofStore k) st h = ((.ok ⟨k.guid, k.name, v.attributes, v.data⟩, st), h) := by
  unfold ofStore
  rw [exec_bind_ok hg]
  rfl

/-- Writing an export file that encodes: the file opened for writing holds the encoding. -/
theorem exec_writeTo {v : Exported} {bs : Bytes} {fs' : Fs} {j : Nat}
    (he : ExportFile.encode v = .ok bs) (hc : h.fs.createTruncate p = .ok (fs', j)) :
    exec (v.writeTo p) st h = ((.ok (), st), { h with fs := fs'.writeAt j 0 bs }) := by
  have hne : bs.isEmpty = false := List.isEmpty_eq_false_iff.mpr (ExportFile.ne_nil_of_encode he)
  unfold writeTo
  simp only [exec_bind, exec_ofExcept, he, exec_call, Host.run_openPath_createTruncate hc, hne,
    Bool.not_false, ↓reduceIte, Host.run_write_write]
  rfl

/-- Reading an export file that decodes gives its variable, and changes nothing. -/
theorem exec_readFrom {i : Nat} {bs : Bytes} {v : Exported} (ho : h.fs.openRead p = .ok i)
    (hr : h.fs.read i = .ok bs) (hd : ExportFile.decode bs = .ok v) :
    exec (readFrom p) st h = ((.ok v, st), h) := by
  unfold readFrom
  simp only [exec_bind, exec_call, Host.run_openPath_read ho, Sys.read, Host.run_readAt, hr,
    Except.bind, readSpan, List.drop_zero, hd, exec_pure]

end Exported

/-! ## §5. There and back -/

namespace Store

open StoreM Fs Exported

section Transfer

variable {k : VarKey} {stS : Store} {h : Host} {rS rf r i : Nat} {d : Bytes} {fdir : Path}
  {fq : Bytes}

/-- The variable under `k` in a source store, exported to a plain name of a writable directory
other than `r` and read back from there: each call succeeds, the file reads back as the variable
read, which is the source's record split at its header, and directory `r` is left as it was. -/
theorem export_reads_back (hS : RootAt stS.config.root h.fs rS) (hkS : KeyFits stS.config k)
    (hl : h.fs.lookupIn rS (Utf8.encode k.fileName) = some i) (hrd : h.fs.allows i readBit)
    (hd : h.fs.read i = .ok d) (hlen : Record.headerLen ≤ d.length)
    (hbody : (Body.encode ⟨k.guid, k.name, Attributes.ofHeader (d.take Record.headerLen),
      d.drop Record.headerLen⟩).length < Nat.pow 2 32)
    (hf : RootAt fdir h.fs rf) (hfq : Path.Plain fq) (hfit : (fdir.join ⟨fq⟩).Fits)
    (hr : h.fs.isDir r) (hne : rf ≠ r)
    (hfile : ∀ j, h.fs.lookupIn rf fq = some j → (∃ c, h.fs.read j = .ok c) ∧
      h.fs.allows j readBit ∧ h.fs.allows j writeBit ∧ ∀ n, h.fs.lookupIn r n ≠ some j) :
    ∃ v fs₁, v = ⟨k.guid, k.name, Attributes.ofHeader (d.take Record.headerLen),
        d.drop Record.headerLen⟩ ∧
      exec (ofStore k) stS h = ((.ok v, stS), h) ∧
      exec (v.writeTo (fdir.join ⟨fq⟩)) stS h = ((.ok (), stS), { h with fs := fs₁ }) ∧
      exec (readFrom (fdir.join ⟨fq⟩)) stS { h with fs := fs₁ } =
        ((.ok v, stS), { h with fs := fs₁ }) ∧
      LeavesDir h.fs fs₁ r := by
  -- the source's record is long enough for its header, so it reads as its two parts
  have hget := exec_get_present hS hkS hl hrd hd
  rw [Record.decode?_of_le hlen] at hget
  -- the export file's bytes, and the file they go to
  obtain ⟨bs, he⟩ : ∃ bs, ExportFile.encode ⟨k.guid, k.name,
      Attributes.ofHeader (d.take Record.headerLen), d.drop Record.headerLen⟩ = .ok bs :=
    ⟨_, by dsimp only [ExportFile.encode]; rw [if_neg (Nat.not_le.mpr hbody)]⟩
  obtain ⟨fs₁, j, hc, hs, hleave⟩ := exportTarget bs hf hfq hfit hr hne hfile
  exact ⟨_, _, rfl, exec_ofStore hget, exec_writeTo he hc,
    exec_readFrom (hs.openRead hf hfq hfit) hs.read_self (ExportFile.decode_of_encode he), hleave⟩

/-- An import into a ready destination succeeds and leaves the record `set` writes. -/
theorem exec_importInto_ready {v : Exported} {stD : Store} {rD mode : Nat} (hq : h.Quiet)
    (hD : Ready (· = v.key) 1 stD h.fs rD) (hm : mode &&& 0o600 = 0o600) :
    ∃ stD' h₂, exec (v.importInto mode) stD h = ((.ok (), stD'), h₂) ∧
      h₂.fs.contents (stD.config.root.join (.ofString v.key.fileName)) =
        some (Records.written v.attributes v.data
          (h.fs.contents (stD.config.root.join (.ofString v.key.fileName)))) := by
  obtain ⟨stD', h₂, hex, -, -, hcont⟩ := exec_set_ready v.attributes v.data hq hD rfl hm
  exact ⟨stD', h₂, hex, by rw [hcont v.key rfl, Function.update_self]⟩

/-- Exporting a variable and importing it back restores its record. Take a source store whose
record for `k` is at least a header long, an export file at a plain name of a writable
directory other than the destination's root, naming nothing or a regular file the caller may
read and write that the destination's root does not name, and a destination ready for one set
of `k`. Then the export, the read back and the import succeed; the key read back is `k`; and the
destination's record for `k` is the source's, unless the destination had one and the attribute
word has the append bit: then the payload is added to the record it had. -/
theorem export_import_restores (k : VarKey) (stS stD : Store) (h : Host) (fdir : Path) (fq : Bytes)
    (mode : Nat) {rS rf rD i : Nat} {d : Bytes} (hq : h.Quiet)
    (hS : RootAt stS.config.root h.fs rS) (hkS : KeyFits stS.config k)
    (hl : h.fs.lookupIn rS (Utf8.encode k.fileName) = some i) (hrd : h.fs.allows i readBit)
    (hd : h.fs.read i = .ok d) (hlen : Record.headerLen ≤ d.length)
    (hbody : (Body.encode ⟨k.guid, k.name, Attributes.ofHeader (d.take Record.headerLen),
      d.drop Record.headerLen⟩).length < Nat.pow 2 32)
    (hf : RootAt fdir h.fs rf) (hfq : Path.Plain fq) (hfit : (fdir.join ⟨fq⟩).Fits)
    (hne : rf ≠ rD)
    (hfile : ∀ j, h.fs.lookupIn rf fq = some j → (∃ c, h.fs.read j = .ok c) ∧
      h.fs.allows j readBit ∧ h.fs.allows j writeBit ∧ ∀ n, h.fs.lookupIn rD n ≠ some j)
    (hD : Ready (· = k) 1 stD h.fs rD) (hm : mode &&& 0o600 = 0o600) :
    ∃ v stD' h₁ h₂, exec (ofStore k) stS h = ((.ok v, stS), h) ∧
      exec (v.writeTo (fdir.join ⟨fq⟩)) stS h = ((.ok (), stS), h₁) ∧
      exec (readFrom (fdir.join ⟨fq⟩)) stS h₁ = ((.ok v, stS), h₁) ∧ v.key = k ∧
      exec (v.importInto mode) stD h₁ = ((.ok (), stD'), h₂) ∧
      (h.fs.contents (stD.config.root.join (.ofString k.fileName)) = none ∨
          v.attributes.isAppend = false →
        h₂.fs.contents (stD.config.root.join (.ofString k.fileName)) = some d) ∧
      (∀ old, h.fs.contents (stD.config.root.join (.ofString k.fileName)) = some old →
        v.attributes.isAppend = true →
        h₂.fs.contents (stD.config.root.join (.ofString k.fileName)) = some (old ++ v.data)) := by
  obtain ⟨v, fs₁, hv, hof, hw, hrf, hleave⟩ :=
    export_reads_back hS hkS hl hrd hd hlen hbody hf hfq hfit hD.root.isDir hne hfile
  have hkey : v.key = k := by rw [hv]; rfl
  -- the export file lies outside the destination's root, which stays ready and keeps its record
  have hD₁ : Ready (· = v.key) 1 stD ({ h with fs := fs₁ } : Host).fs rD := by
    rw [hkey]
    exact hD.leavesDir hleave
  have hold := hD.contents_leavesDir hleave (k := k) rfl
  have hq₁ : ({ h with fs := fs₁ } : Host).Quiet := ⟨hq.interference, hq.handover⟩
  obtain ⟨stD', h₂, hex, hcont⟩ := exec_importInto_ready hq₁ hD₁ hm
  rw [hkey] at hcont
  change h₂.fs.contents _ = some (Records.written v.attributes v.data (fs₁.contents _)) at hcont
  rw [hold] at hcont
  -- the record written is the source's: its header and payload, put back together
  have henc : Record.encode v.attributes v.data = d := by
    rw [hv]
    exact Record.encode_of_decode? (Record.decode?_of_le hlen)
  refine ⟨v, stD', _, h₂, hof, hw, hrf, hkey, hex, fun hcase => ?_, fun old hsome happ => ?_⟩
  · rw [hcont]
    rcases hcase with hnone | hplain
    · rw [hnone, Records.written, henc]
    · cases h.fs.contents (stD.config.root.join (.ofString k.fileName)) with
      | none => rw [Records.written, henc]
      | some old => rw [Records.written, hplain, if_neg Bool.false_ne_true, henc]
  · rw [hcont, hsome, Records.written, if_pos happ]

end Transfer

/-! ## §6. One record, exported and imported back -/

section Record

theorem recordTree_lookupIn (rec n : Bytes) :
    (recordTree rec).lookupIn 2 n = if n = Utf8.encode roKey.fileName then some 3 else none := by
  show List.lookup n [(Utf8.encode roKey.fileName, 3)] = _
  unfold List.lookup
  split <;> simp_all

/-- Trees that differ only in the record's bytes resolve alike. -/
theorem recordTree_sameSkeleton (rec rec' : Bytes) :
    SameSkeleton (recordTree rec) (recordTree rec') := by
  intro i
  match i with
  | 0 | 1 | 2 | 3 => rfl
  | _ + 4 => rfl

theorem rootAt_record (rec : Bytes) : RootAt varsConfig.root (recordTree rec) 2 :=
  RootAt.keeps (show RootAt varsConfig.root (recordTree []) 2 from
    ⟨⟨[2, 1, 0], Except.eq_ok_of_toOption (by decide +kernel), rfl⟩, rfl, by decide, by decide,
      by decide +kernel, by decide⟩)
    (.of_sameSkeleton (recordTree_sameSkeleton [] rec))

/-- The host's root directory, where the export file goes. -/
theorem rootAt_hostRoot (rec : Bytes) : RootAt (.ofString "/") (recordTree rec) 0 :=
  RootAt.keeps (show RootAt (.ofString "/") (recordTree []) 0 from
    ⟨⟨[0], Except.eq_ok_of_toOption (by decide +kernel), rfl⟩, rfl, by decide, by decide,
      by decide +kernel, by decide⟩)
    (.of_sameSkeleton (recordTree_sameSkeleton [] rec))

/-- The record's file may be read and written. -/
theorem recordTree_allows (rec : Bytes) :
    (recordTree rec).allows 3 readBit ∧ (recordTree rec).allows 3 writeBit :=
  ⟨show (0o644 &&& readBit != 0) = true by decide,
    show (0o644 &&& writeBit != 0) = true by decide⟩

theorem plain_exportName : Path.Plain (Utf8.encode "k.varx") :=
  ⟨⟨by decide, by decide, by decide, by decide⟩, by decide⟩

theorem fits_exportPath : ((Path.ofString "/").join ⟨Utf8.encode "k.varx"⟩).Fits :=
  ⟨by decide +kernel, by decide +kernel⟩

/-- Nothing is at the export path yet. -/
theorem exportPath_free (rec : Bytes) (j : Nat)
    (hj : (recordTree rec).lookupIn 0 (Utf8.encode "k.varx") = some j) :
    (∃ c, (recordTree rec).read j = .ok c) ∧ (recordTree rec).allows j readBit ∧
      (recordTree rec).allows j writeBit ∧ ∀ n, (recordTree rec).lookupIn 2 n ≠ some j := by
  cases hj

/-- The root holding one record is ready for one set of `RO`. -/
theorem ready_record (rec : Bytes) :
    Ready (· = roKey) 1 varsSession.store (recordTree rec) 2 where
  plain := ready_vars.plain
  unmirrored := ready_vars.unmirrored
  root := rootAt_record rec
  fits := ready_vars.fits
  files k hk i hi := by
    rw [hk, recordTree_lookupIn, if_pos rfl] at hi
    cases hi
    exact ⟨⟨rec, rfl⟩, recordTree_allows rec⟩
  apart k k' hk hk' _ _ _ := by rw [hk, hk']
  unstaged k _ seq := by
    rw [recordTree_lookupIn, if_neg (VarKey.stagingName_ne_fileName _ _ _ _)]
  staging k hk seq h1 h2 := ready_vars.staging k hk seq h1 (by omega)

theorem contents_record (rec : Bytes) :
    (recordTree rec).contents (varsConfig.root.join (.ofString roKey.fileName)) = some rec := by
  rw [contents_key (rootAt_record rec) keyFits_ro, recordTree_lookupIn, if_pos rfl]
  rfl

/-- A record of one payload byte, its word without the append bit, exported to `/k.varx` and
imported back into its own store. -/
theorem export_import_restores_record :
    ∃ v stD' h₁ h₂,
      exec (ofStore roKey) varsSession.store { fs := recordTree [7, 0, 0, 0, 1] } =
        ((.ok v, varsSession.store), { fs := recordTree [7, 0, 0, 0, 1] }) ∧
      exec (v.writeTo ((Path.ofString "/").join ⟨Utf8.encode "k.varx"⟩)) varsSession.store
        { fs := recordTree [7, 0, 0, 0, 1] } = ((.ok (), varsSession.store), h₁) ∧
      exec (readFrom ((Path.ofString "/").join ⟨Utf8.encode "k.varx"⟩)) varsSession.store h₁ =
        ((.ok v, varsSession.store), h₁) ∧ v.key = roKey ∧
      exec (v.importInto 0o644) varsSession.store h₁ = ((.ok (), stD'), h₂) ∧
      ((recordTree [7, 0, 0, 0, 1]).contents (varsConfig.root.join (.ofString roKey.fileName)) =
          none ∨ v.attributes.isAppend = false →
        h₂.fs.contents (varsConfig.root.join (.ofString roKey.fileName)) =
          some [7, 0, 0, 0, 1]) ∧
      (∀ old, (recordTree [7, 0, 0, 0, 1]).contents
          (varsConfig.root.join (.ofString roKey.fileName)) = some old →
        v.attributes.isAppend = true →
        h₂.fs.contents (varsConfig.root.join (.ofString roKey.fileName)) = some (old ++ v.data)) :=
  export_import_restores roKey varsSession.store varsSession.store
    { fs := recordTree [7, 0, 0, 0, 1] } (.ofString "/") (Utf8.encode "k.varx") 0o644 (i := 3)
    (d := [7, 0, 0, 0, 1]) ⟨rfl, rfl⟩
    (rootAt_record _) keyFits_ro (by rw [recordTree_lookupIn, if_pos rfl])
    (recordTree_allows _).1 rfl (by decide) (by decide +kernel)
    (rootAt_hostRoot _) plain_exportName fits_exportPath (by decide) (exportPath_free _)
    (ready_record _) (by decide)

/-- A record whose word has the append bit, as an append creates it, exported to `/k.varx` and
imported back into its own store: the import is an appending set, and the payload is added to
the record that is there. -/
theorem reimport_appends_payload :
    ∃ v stD' h₁ h₂,
      exec (ofStore roKey) varsSession.store { fs := recordTree [0x47, 0, 0, 0, 1] } =
        ((.ok v, varsSession.store), { fs := recordTree [0x47, 0, 0, 0, 1] }) ∧
      exec (v.writeTo ((Path.ofString "/").join ⟨Utf8.encode "k.varx"⟩)) varsSession.store
        { fs := recordTree [0x47, 0, 0, 0, 1] } = ((.ok (), varsSession.store), h₁) ∧
      exec (readFrom ((Path.ofString "/").join ⟨Utf8.encode "k.varx"⟩)) varsSession.store h₁ =
        ((.ok v, varsSession.store), h₁) ∧
      exec (v.importInto 0o644) varsSession.store h₁ = ((.ok (), stD'), h₂) ∧
      (recordTree [0x47, 0, 0, 0, 1]).contents (varsConfig.root.join (.ofString roKey.fileName)) =
        some [0x47, 0, 0, 0, 1] ∧
      h₂.fs.contents (varsConfig.root.join (.ofString roKey.fileName)) =
        some [0x47, 0, 0, 0, 1, 1] := by
  have hS : RootAt varsSession.store.config.root (recordTree [0x47, 0, 0, 0, 1]) 2 :=
    rootAt_record _
  obtain ⟨v, fs₁, hv, hof, hw, hrf, hleave⟩ :=
    export_reads_back (h := { fs := recordTree [0x47, 0, 0, 0, 1] }) (i := 3)
    (d := [0x47, 0, 0, 0, 1]) hS keyFits_ro (by rw [recordTree_lookupIn, if_pos rfl])
    (recordTree_allows _).1 rfl (by decide) (by decide +kernel)
    (rootAt_hostRoot _) plain_exportName fits_exportPath (rootAt_record _).isDir (by decide)
    (exportPath_free _)
  have hkey : v.key = roKey := by rw [hv]; rfl
  have hD : Ready (· = v.key) 1 varsSession.store fs₁ 2 := by
    rw [hkey]
    exact (ready_record _).leavesDir hleave
  obtain ⟨stD', h₂, hex, hcont⟩ :=
    exec_importInto_ready
      (h := { ({ fs := recordTree [0x47, 0, 0, 0, 1] } : Host) with fs := fs₁ })
      ⟨rfl, rfl⟩ hD (show (0o644 : Nat) &&& 0o600 = 0o600 by decide)
  -- the record there before the import is the source's own, and its word has the append bit
  have hold := (ready_record [0x47, 0, 0, 0, 1]).contents_leavesDir hleave (k := roKey) rfl
  have hrec : (recordTree [0x47, 0, 0, 0, 1]).contents
      (varsSession.store.config.root.join (.ofString roKey.fileName)) = some [0x47, 0, 0, 0, 1] :=
    contents_record _
  have happ : v.attributes.isAppend = true := by rw [hv]; decide
  refine ⟨v, stD', _, h₂, hof, hw, hrf, hex, contents_record _, ?_⟩
  show h₂.fs.contents (varsSession.store.config.root.join (.ofString roKey.fileName)) = _
  rw [hkey] at hcont
  change h₂.fs.contents _ = some (Records.written v.attributes v.data (fs₁.contents _)) at hcont
  rw [hcont, hold, hrec, Records.written, if_pos happ, hv]
  rfl

end Record

end Store

end FirmwareVars
