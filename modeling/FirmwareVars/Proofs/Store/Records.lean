import FirmwareVars.Proofs.Store.Commit
import FirmwareVars.Store.Read
import FirmwareVars.Session

/-!
# A store is a map of records

Seen from its callers, a store keeps one record per variable: the bytes of the regular file
named by the variable's file name in the root directory. This module makes that view precise
and shows that, on a plain root without a mirror and with no other actor, the store behaves as
the map: a set stores the record of its attributes and payload, an appending set on a present
record adds the payload to it, a read hands back what the record holds, and the size is the
record's length less the header.

The view is `Session.records`, the map's semantics is `Request.spec`, and `Ready` is what the
calls keep true of the host: the keys' paths lead into the root directory and fit the system's
limits, each key's name is free or names a file of its own that its owner may read and write,
and no staging name of a key is taken. The step lemma `serve_step` and the run lemma
`serve_refines` follow one call and a whole list of them.

Two things the map does not know about refuse a call: a mode that leaves the owner without
read or write permission (a later set of the same variable cannot open its file), and a file
name beyond the system's limit of 255 bytes (the variable's own name may be up to 1024 bytes).

Main statements: `serve_refines`.
-/

namespace FirmwareVars

namespace Store

open StoreM Fs

/-! ## §1. Reading a present or absent variable -/

section Reads

variable {st : Store} {h : Host} {r : Nat} {k : VarKey}

theorem exec_get_present {i : Nat} {d : Bytes} (hroot : RootAt st.config.root h.fs r)
    (hk : KeyFits st.config k) (hl : h.fs.lookupIn r (Utf8.encode k.fileName) = some i)
    (hread : h.fs.allows i readBit) (hd : h.fs.read i = .ok d) :
    exec (get k) st h =
      ((match Record.decode? d with
        | some v => .ok v
        | none => .error (.corrupt (st.config.root.join (.ofString k.fileName)) .shortHeader),
        st), h) := by
  have hopen : h.fs.openRead (st.config.root.join (.ofString k.fileName)) = .ok i := by
    rw [openRead_child (locate_key hroot hk) hl, if_pos hread]
  unfold get
  simp only [exec_bind, exec_buildPath_key hk, exec_call, Host.run_openPath_read hopen, exec_lift,
    Host.run_readAt, hd, Except.bind, readSpan, Record.decode?, Nat.zero_add, List.drop_zero]
  -- the header is read whole, or the file ends first
  by_cases hlen : d.length < Record.headerLen
  · simp only [hlen, if_true, show ¬ Record.headerLen ≤ d.length by omega, if_false]
    rfl
  · simp only [hlen, if_false, show Record.headerLen ≤ d.length by omega, if_true, pure_bind,
      exec_bind, exec_call, Host.run_readAt, hd, Except.bind, readSpan]
    rfl

theorem exec_get_absent (hroot : RootAt st.config.root h.fs r) (hk : KeyFits st.config k)
    (hl : h.fs.lookupIn r (Utf8.encode k.fileName) = none) :
    exec (get k) st h =
      ((.error (.notFound (st.config.root.join (.ofString k.fileName))), st), h) := by
  have hopen := openRead_child_none (locate_key hroot hk) hl
  unfold get
  simp only [exec_bind, exec_buildPath_key hk, exec_call, Host.run_openPath_read_error hopen]
  rfl

theorem exec_getSize_present {i : Nat} {d : Bytes} (hroot : RootAt st.config.root h.fs r)
    (hk : KeyFits st.config k) (hl : h.fs.lookupIn r (Utf8.encode k.fileName) = some i)
    (hd : h.fs.read i = .ok d) :
    exec (getSize k) st h =
      ((if d.length < Record.headerLen then
          .error (.corrupt (st.config.root.join (.ofString k.fileName))
            (.shorterThanHeader d.length))
        else .ok (d.length - Record.headerLen), st), h) := by
  have hfind := find_child_some (locate_key hroot hk) hl
  unfold getSize
  simp only [exec_bind, exec_buildPath_key hk, exec_call, Host.run_stat, hfind, Except.map,
    size_of_read hd]
  -- a stat needs no permission: only the length decides
  split_ifs <;> rfl

theorem exec_getSize_absent (hroot : RootAt st.config.root h.fs r) (hk : KeyFits st.config k)
    (hl : h.fs.lookupIn r (Utf8.encode k.fileName) = none) :
    exec (getSize k) st h =
      ((.error (.notFound (st.config.root.join (.ofString k.fileName))), st), h) := by
  have hfind := find_child_none (locate_key hroot hk) hl
  unfold getSize
  simp only [exec_bind, exec_buildPath_key hk, exec_call, Host.run_stat, hfind, Except.map]
  rfl

end Reads

end Store

/-! ## §2. Calls, and the map they act on -/

/-- A call a caller makes on a store. -/
inductive Request where
  | set (k : VarKey) (a : Attributes) (data : Bytes) (mode : Nat)
  | append (k : VarKey) (a : Attributes) (data : Bytes)
  | get (k : VarKey)
  | getSize (k : VarKey)

/-- What a call hands back. -/
inductive Reply where
  | done
  | variable (v : Variable)
  | size (n : Nat)
  deriving DecidableEq

namespace Request

/-- The variable a call is about. -/
def key : Request → VarKey
  | .set k .. | .append k .. | .get k | .getSize k => k

/-- The store operation a call runs. -/
def op : Request → StoreM Reply
  | .set k a data mode => do Store.set k a data mode; pure .done
  | .append k a data => do Store.append k a data; pure .done
  | .get k => Reply.variable <$> Store.get k
  | .getSize k => Reply.size <$> Store.getSize k

/-- Every file the call may create lets its owner read and write it. -/
def Grants (c : Config) : Request → Prop
  | .set _ _ _ mode => mode &&& 0o600 = 0o600
  | .append .. => c.appendMode &&& 0o600 = 0o600
  | .get _ | .getSize _ => True

end Request

/-- The records of a store, by file name. -/
abbrev Records := String → Option Bytes

/-- The bytes of the regular file that `p` names, if it names one. -/
def Fs.contents (fs : Fs) (p : Path) : Option Bytes :=
  match fs.find p with
  | .ok i => (fs.read i).toOption
  | .error _ => none

/-- The records a session's host keeps under its store's root. -/
def Session.records (s : Session) : Records := fun f =>
  s.host.fs.contents (s.store.config.root.join (.ofString f))

/-- The record a set leaves where `old` was: an appending set adds the payload to a present
record; any other set, and a set of an absent variable, stores the whole record. -/
def Records.written (a : Attributes) (data : Bytes) : Option Bytes → Bytes
  | some old => if a.isAppend then old ++ data else Record.encode a data
  | none => Record.encode a data

/-- The answer to a read of the record `rec` kept at `p`. -/
def Records.getReply (p : Path) : Option Bytes → Except StepError Reply
  | none => .error (.store (.notFound p))
  | some bs =>
    match Record.decode? bs with
    | some v => .ok (.variable v)
    | none => .error (.store (.corrupt p .shortHeader))

theorem Records.getReply_some (p : Path) (bs : Bytes) :
    Records.getReply p (some bs) =
      match Record.decode? bs with
      | some v => .ok (.variable v)
      | none => .error (.store (.corrupt p .shortHeader)) := rfl

/-- The answer to a size query of the record `rec` kept at `p`. -/
def Records.sizeReply (p : Path) : Option Bytes → Except StepError Reply
  | none => .error (.store (.notFound p))
  | some bs =>
    if bs.length < Record.headerLen then .error (.store (.corrupt p (.shorterThanHeader bs.length)))
    else .ok (.size (bs.length - Record.headerLen))

theorem Records.sizeReply_some (p : Path) (bs : Bytes) :
    Records.sizeReply p (some bs) =
      if bs.length < Record.headerLen then
        .error (.store (.corrupt p (.shorterThanHeader bs.length)))
      else .ok (.size (bs.length - Record.headerLen)) := rfl

namespace Request

/-- What a call does to the records of a store with configuration `c`: its answer, and the
records after it. -/
def spec (c : Config) (m : Records) : Request → Except StepError Reply × Records
  | .set k a data _ =>
    (.ok .done, Function.update m k.fileName (some (Records.written a data (m k.fileName))))
  | .append k a data =>
    (.ok .done,
      Function.update m k.fileName (some (Records.written a.withAppend data (m k.fileName))))
  | .get k => (Records.getReply (c.root.join (.ofString k.fileName)) (m k.fileName), m)
  | .getSize k => (Records.sizeReply (c.root.join (.ofString k.fileName)) (m k.fileName), m)

/-- The answers of calls made one after another on the records, and the records after them. -/
def specAll (c : Config) : Records → List Request → List (Except StepError Reply) × Records
  | m, [] => ([], m)
  | m, q :: qs =>
    let (x, m') := q.spec c m
    let (xs, m'') := specAll c m' qs
    (x :: xs, m'')

theorem specAll_cons (c : Config) (m : Records) (q : Request) (qs : List Request) :
    specAll c m (q :: qs) =
      ((q.spec c m).1 :: (specAll c (q.spec c m).2 qs).1, (specAll c (q.spec c m).2 qs).2) := rfl

end Request

namespace Session

/-- Serves calls one after another, each as a step of its own. -/
def serve (s : Session) : List Request → List (Except StepError Reply) × Session
  | [] => ([], s)
  | q :: qs =>
    let (x, s') := s.run q.op
    let (xs, s'') := s'.serve qs
    (x :: xs, s'')

theorem serve_cons (s : Session) (q : Request) (qs : List Request) :
    s.serve (q :: qs) =
      ((s.run q.op).1 :: ((s.run q.op).2.serve qs).1, ((s.run q.op).2.serve qs).2) := rfl

end Session

/-! ## §3. What serving keeps true -/

namespace Fs

theorem lt_size_of_read {fs : Fs} {i : Nat} {d : Bytes} (h : fs.read i = .ok d) :
    i < fs.inodes.size := by
  obtain ⟨m, fl, hi⟩ := read_eq_ok_iff.mp h
  exact lt_size_of_inode?_eq_some hi

theorem isDir_of_read {fs : Fs} {i : Nat} {d : Bytes} (h : fs.read i = .ok d) :
    fs.isDir i = false := by
  obtain ⟨m, fl, hi⟩ := read_eq_ok_iff.mp h
  unfold Fs.isDir
  rw [hi]

theorem contents_sameTree {fs fs' : Fs} (ht : SameTree fs fs') (p : Path) :
    fs'.contents p = fs.contents p := by
  unfold Fs.contents
  rw [find_congr ht.sameSkeleton]
  cases fs.find p with
  | ok i =>
    show (fs'.read i).toOption = (fs.read i).toOption
    rw [ht.read]
  | error e => rfl

end Fs

namespace Store

open StoreM Fs

/-- The record of a key is read off the root directory: the bytes of the file its name names. -/
theorem contents_key {c : Config} {fs : Fs} {r : Nat} {k : VarKey} (hroot : RootAt c.root fs r)
    (hk : KeyFits c k) :
    fs.contents (c.root.join (.ofString k.fileName)) =
      (fs.lookupIn r (Utf8.encode k.fileName)).bind fun i => (fs.read i).toOption := by
  unfold Fs.contents
  cases hl : fs.lookupIn r (Utf8.encode k.fileName) with
  | none =>
    rw [find_child_none (locate_key hroot hk) hl]
    rfl
  | some i =>
    rw [find_child_some (locate_key hroot hk) hl]
    rfl

/-- A store and its host are ready to serve calls on the keys `K` in root directory `r`, with
staging numbers to spare for `n` more calls: the root is plain and has no mirror, the keys fit,
each key names nothing or a file of its own that its owner may read and write, and no staging
name of a key is taken. -/
structure Ready (K : VarKey → Prop) (n : Nat) (st : Store) (fs : Fs) (r : Nat) : Prop where
  plain : PlainRoot st
  unmirrored : st.config.persist = none
  root : RootAt st.config.root fs r
  fits : ∀ k, K k → KeyFits st.config k
  files : ∀ k, K k → ∀ i, fs.lookupIn r (Utf8.encode k.fileName) = some i →
    (∃ d, fs.read i = .ok d) ∧ fs.allows i readBit ∧ fs.allows i writeBit
  apart : ∀ k k', K k → K k' → ∀ i, fs.lookupIn r (Utf8.encode k.fileName) = some i →
    fs.lookupIn r (Utf8.encode k'.fileName) = some i → k.fileName = k'.fileName
  unstaged : ∀ k, K k → ∀ seq, fs.lookupIn r (k.stagingName st.process seq) = none
  staging : ∀ k, K k → ∀ seq, st.stagingCount ≤ seq → seq < st.stagingCount + n →
    (stagingPath (st.config.root.join (.ofString k.fileName)) st.process seq).WithinLimits

/-- `fs'` is `fs` with the name `q` of directory `r` naming file `j`, which holds `c` and which
its owner may read and write; no other name of `r` and no other inode's bytes changed, and the
directories are kept. -/
structure Stores (fs fs' : Fs) (r : Nat) (q : Bytes) (j : Nat) (c : Bytes) : Prop where
  keeps : KeepsDirs fs fs'
  lookup_self : fs'.lookupIn r q = some j
  lookup_ne : ∀ n, n ≠ q → fs'.lookupIn r n = fs.lookupIn r n
  read_self : fs'.read j = .ok c
  read_ne : ∀ j', j' ≠ j → fs'.read j' = fs.read j'
  readable : fs'.allows j readBit
  writable : fs'.allows j writeBit

section Serving

variable {K : VarKey → Prop} {n : Nat} {st st' : Store} {fs fs' fs'' : Fs} {r j : Nat}
  {k : VarKey} {c : Bytes}

/-- Flag words do not matter to a ready host. -/
theorem Ready.sameTree (hr : Ready K n st fs r) (ht : SameTree fs fs') : Ready K n st fs' r where
  plain := hr.plain
  unmirrored := hr.unmirrored
  root := hr.root.keeps (.of_sameSkeleton ht.sameSkeleton)
  fits := hr.fits
  files k hk i hi := by
    rw [ht.sameSkeleton.lookupIn] at hi
    obtain ⟨⟨d, hd⟩, hrd, hwr⟩ := hr.files k hk i hi
    rw [ht.read, ht.sameSkeleton.allows i ownerBit_read, ht.sameSkeleton.allows i ownerBit_write]
    exact ⟨⟨d, hd⟩, hrd, hwr⟩
  apart k k' hk hk' i h1 h2 := by
    rw [ht.sameSkeleton.lookupIn] at h1 h2
    exact hr.apart k k' hk hk' i h1 h2
  unstaged k hk seq := by
    rw [ht.sameSkeleton.lookupIn]
    exact hr.unstaged k hk seq
  staging := hr.staging

theorem Stores.sameTree {q : Bytes} (hs : Stores fs fs' r q j c) (ht : SameTree fs' fs'') :
    Stores fs fs'' r q j c where
  keeps := hs.keeps.trans (.of_sameSkeleton ht.sameSkeleton)
  lookup_self := by rw [ht.sameSkeleton.lookupIn]; exact hs.lookup_self
  lookup_ne n hn := by rw [ht.sameSkeleton.lookupIn]; exact hs.lookup_ne n hn
  read_self := by rw [ht.read]; exact hs.read_self
  read_ne j' hj := by rw [ht.read]; exact hs.read_ne j' hj
  readable := by rw [ht.sameSkeleton.allows j ownerBit_read]; exact hs.readable
  writable := by rw [ht.sameSkeleton.allows j ownerBit_write]; exact hs.writable

/-- No other key names the stored file. -/
def Fresh (K : VarKey → Prop) (fs : Fs) (r : Nat) (k : VarKey) (j : Nat) : Prop :=
  ∀ k', K k' → k'.fileName ≠ k.fileName → ∀ j', fs.lookupIn r (Utf8.encode k'.fileName) = some j' →
    j' ≠ j

/-- Storing one key's file keeps the host ready, with one staging number fewer to spare. -/
theorem Ready.stores (hr : Ready K (n + 1) st fs r)
    (hs : Stores fs fs' r (Utf8.encode k.fileName) j c) (hfresh : Fresh K fs r k j)
    (hp : PlainRoot st') (hc : st'.config = st.config) (hpr : st'.process = st.process)
    (hle : st.stagingCount ≤ st'.stagingCount) (hlt : st'.stagingCount ≤ st.stagingCount + 1) :
    Ready K n st' fs' r where
  plain := hp
  unmirrored := by rw [hc]; exact hr.unmirrored
  root := by rw [hc]; exact hr.root.keeps hs.keeps
  fits := by rw [hc]; exact hr.fits
  files k' hk' i hi := by
    by_cases hq : Utf8.encode k'.fileName = Utf8.encode k.fileName
    · -- the stored key names the new file
      rw [hq, hs.lookup_self, Option.some_inj] at hi
      subst hi
      exact ⟨⟨c, hs.read_self⟩, hs.readable, hs.writable⟩
    · -- any other key names the file it named before, which was not touched
      rw [hs.lookup_ne _ hq] at hi
      obtain ⟨⟨d, hd⟩, hrd, hwr⟩ := hr.files k' hk' i hi
      have hij : i ≠ j := hfresh k' hk' (fun h => hq (by rw [h])) i hi
      have hlt := lt_size_of_read hd
      rw [hs.read_ne i hij, hs.keeps.allows i hlt readBit ownerBit_read,
        hs.keeps.allows i hlt writeBit ownerBit_write]
      exact ⟨⟨d, hd⟩, hrd, hwr⟩
  apart k1 k2 hk1 hk2 i h1 h2 := by
    by_cases hq1 : Utf8.encode k1.fileName = Utf8.encode k.fileName <;>
      by_cases hq2 : Utf8.encode k2.fileName = Utf8.encode k.fileName
    · exact (Utf8.encode_inj hq1).trans (Utf8.encode_inj hq2).symm
    · -- only the stored key names the new file
      rw [hq1, hs.lookup_self, Option.some_inj] at h1
      rw [hs.lookup_ne _ hq2] at h2
      exact absurd h1.symm (hfresh k2 hk2 (fun h => hq2 (by rw [h])) i h2)
    · rw [hq2, hs.lookup_self, Option.some_inj] at h2
      rw [hs.lookup_ne _ hq1] at h1
      exact absurd h2.symm (hfresh k1 hk1 (fun h => hq1 (by rw [h])) i h1)
    · rw [hs.lookup_ne _ hq1] at h1
      rw [hs.lookup_ne _ hq2] at h2
      exact hr.apart k1 k2 hk1 hk2 i h1 h2
  unstaged k' hk' seq := by
    rw [hpr, hs.lookup_ne _ (VarKey.stagingName_ne_fileName k' k _ _)]
    exact hr.unstaged k' hk' seq
  staging k' hk' seq h1 h2 := by
    rw [hc, hpr]
    exact hr.staging k' hk' seq (by omega) (by omega)

/-- After one key's file is stored, that key's record is the stored bytes and every other key's
record is as it was. -/
theorem contents_stores (hroot : RootAt st.config.root fs r)
    (hs : Stores fs fs' r (Utf8.encode k.fileName) j c) (hfresh : Fresh K fs r k j) {k' : VarKey}
    (hk' : K k') (hfit : KeyFits st.config k') :
    fs'.contents (st.config.root.join (.ofString k'.fileName)) =
      Function.update (fun f => fs.contents (st.config.root.join (.ofString f))) k.fileName
        (some c) k'.fileName := by
  rw [contents_key (hroot.keeps hs.keeps) hfit]
  by_cases heq : k'.fileName = k.fileName
  · rw [heq, Function.update_self, hs.lookup_self, Option.bind_some, hs.read_self]
    rfl
  · rw [Function.update_of_ne heq, contents_key hroot hfit,
      hs.lookup_ne _ (fun h => heq (Utf8.encode_inj h))]
    cases hl : fs.lookupIn r (Utf8.encode k'.fileName) with
    | none => rfl
    | some j' => simp only [Option.bind_some, hs.read_ne j' (hfresh k' hk' heq j' hl)]

end Serving

/-! ## §4. How a set stores a file -/

/-- A mode that lets the owner read and write keeps both bits through the creation mask. -/
theorem createMode_owner (m : Nat) : createMode m &&& 0o600 = m &&& 0o600 := by
  unfold createMode
  have hmask : m % 4096 = m &&& 4095 := by
    rw [show (4096 : Nat) = 2 ^ 12 by rfl, ← Nat.and_two_pow_sub_one_eq_mod]
  rw [Nat.and_assoc, show (0o7755 &&& 0o600 : Nat) = 0o600 by decide, hmask, Nat.and_assoc,
    show (4095 &&& 0o600 : Nat) = 0o600 by decide]

theorem owner_bits {m : Nat} (hm : m &&& 0o600 = 0o600) :
    (m &&& readBit != 0) = true ∧ (m &&& writeBit != 0) = true := by
  have hread : m &&& readBit = readBit := by
    rw [show readBit = 0o600 &&& 0o400 by rfl, ← Nat.and_assoc, hm]
  have hwrite : m &&& writeBit = writeBit := by
    rw [show writeBit = 0o600 &&& 0o200 by rfl, ← Nat.and_assoc, hm]
  rw [hread, hwrite]
  exact ⟨rfl, rfl⟩

section Storing

variable {fs fs' : Fs} {r i : Nat} {q : Bytes} {c : Bytes}

/-- A change of one file's bytes that keeps the skeleton stores that file under its name. -/
theorem Stores.of_sameSkeleton (sk : SameSkeleton fs fs') (hl : fs.lookupIn r q = some i)
    (hrd : fs.allows i readBit) (hwr : fs.allows i writeBit) (hself : fs'.read i = .ok c)
    (hne : ∀ j', j' ≠ i → fs'.read j' = fs.read j') : Stores fs fs' r q i c where
  keeps := .of_sameSkeleton sk
  lookup_self := by rw [sk.lookupIn]; exact hl
  lookup_ne n _ := sk.lookupIn r n
  read_self := hself
  read_ne := hne
  readable := by rw [sk.allows i ownerBit_read]; exact hrd
  writable := by rw [sk.allows i ownerBit_write]; exact hwr

/-- Rewriting a present file, or adding to its end, stores its new record under its name. -/
theorem stores_rewrite {d : Bytes} (a : Attributes) (data : Bytes) (hl : fs.lookupIn r q = some i)
    (hd : fs.read i = .ok d) (hrd : fs.allows i readBit) (hwr : fs.allows i writeBit) :
    Stores fs (if a.isAppend then fs.append i data
      else (fs.writeAt i 0 (Record.encode a data)).truncate i (Record.encode a data).length)
      r q i (Records.written a data (some d)) := by
  cases happ : a.isAppend
  · -- written from offset 0 and cut to the record's length: exactly the record
    have sk := (sameSkeleton_writeAt fs i 0 (Record.encode a data)).trans
      (sameSkeleton_truncate _ i (Record.encode a data).length)
    rw [if_neg Bool.false_ne_true]
    refine Stores.of_sameSkeleton sk hl hrd hwr ?_ fun j' hj => ?_
    · rw [read_truncate_self (read_writeAt_self hd 0 _)]
      simp [Records.written, happ]
    · rw [read_truncate_ne _ _ (Ne.symm hj), read_writeAt_ne _ _ _ (Ne.symm hj)]
  · -- the payload goes after the old bytes
    rw [if_pos rfl]
    refine Stores.of_sameSkeleton (sameSkeleton_append fs i data) hl hrd hwr ?_ fun j' hj => ?_
    · rw [read_append_self hd]
      simp [Records.written, happ]
    · rw [read_append_ne _ _ (Ne.symm hj)]

/-- A staged create stores the new file under the final name. -/
theorem stores_staged {s bytes : Bytes} {mode : Nat} (hr : fs.isDir r) (hqs : q ≠ s)
    (hq : fs.lookupIn r q = none) (hs : fs.lookupIn r s = none) (hm : mode &&& 0o600 = 0o600) :
    Stores fs (staged fs r q s bytes mode) r q fs.inodes.size bytes where
  keeps := keepsDirs_staged hr hs
  lookup_self := by rw [lookupIn_staged hr hqs hq, if_neg hqs, if_pos rfl]
  lookup_ne n hn := by
    rw [lookupIn_staged hr hqs hq, if_neg hn]
    -- the staging name is free again, as it was before
    split_ifs with hns
    · rw [hns, hs]
    · rfl
  read_self := by rw [read_staged, if_pos rfl]
  read_ne j' hj := by rw [read_staged, if_neg hj]
  readable := by
    rw [allows_staged ownerBit_read, if_pos rfl]
    exact (owner_bits ((createMode_owner mode).trans hm)).1
  writable := by
    rw [allows_staged ownerBit_write, if_pos rfl]
    exact (owner_bits ((createMode_owner mode).trans hm)).2

end Storing

section SetStep

variable {K : VarKey → Prop} {n : Nat} {st : Store} {h : Host} {r : Nat} {k : VarKey}

/-- A set of a ready key on a quiet host succeeds and keeps the host ready; the key's record
becomes `Records.written` of its old one and every other key's record stays. -/
theorem exec_set_ready (a : Attributes) (data : Bytes) {mode : Nat} (hq : h.Quiet)
    (hr : Ready K (n + 1) st h.fs r) (hk : K k) (hm : mode &&& 0o600 = 0o600) :
    ∃ st' h', exec (set k a data mode) st h = ((.ok (), st'), h') ∧ st'.config = st.config ∧
      Ready K n st' h'.fs r ∧ ∀ k', K k' →
        h'.fs.contents (st.config.root.join (.ofString k'.fileName)) =
          Function.update (fun f => h.fs.contents (st.config.root.join (.ofString f))) k.fileName
            (some (Records.written a data
              (h.fs.contents (st.config.root.join (.ofString k.fileName))))) k'.fileName := by
  have hfit := hr.fits k hk
  cases hl : h.fs.lookupIn r (Utf8.encode k.fileName) with
  | some i =>
    -- the key names a file of its own: it is rewritten in place
    obtain ⟨⟨d, hd⟩, hrd, hwr⟩ := hr.files k hk i hl
    obtain ⟨h', hex, hf⟩ := exec_set_present a data mode hq hr.plain hr.unmirrored hr.root hfit
      hl hrd hwr (isDir_of_read hd)
    have hs := (stores_rewrite a data hl hd hrd hwr).sameTree hf.sameTree
    have hfresh : Fresh K h.fs r k i := by
      intro k' hk' hne j' hj' hji
      rw [hji] at hj'
      exact hne (hr.apart k' k hk' hk i hj' hl)
    have hold : h.fs.contents (st.config.root.join (.ofString k.fileName)) = some d := by
      rw [contents_key hr.root hfit, hl, Option.bind_some, hd]
      rfl
    refine ⟨_, h', hex, rfl, ?_, fun k' hk' => ?_⟩
    · exact hr.stores hs hfresh (.inl rfl) rfl rfl (le_refl _) (Nat.le_succ _)
    · rw [hold]
      exact contents_stores hr.root hs hfresh hk' (hr.fits k' hk')
  | none =>
    -- the key's name is free: a new file is staged and linked into place
    have hfree := hr.unstaged k hk st.stagingCount
    have hlim := hr.staging k hk st.stagingCount (le_refl _) (by omega)
    obtain ⟨h', hex, hf⟩ := exec_set_absent a data mode hq hr.plain hr.unmirrored hr.root hfit
      hl hfree hlim
    have hs0 : Stores h.fs (staged h.fs r (Utf8.encode k.fileName)
        (k.stagingName st.process st.stagingCount) (Record.encode a data) mode) r
        (Utf8.encode k.fileName) h.fs.inodes.size (Record.encode a data) :=
      stores_staged hr.root.isDir (VarKey.stagingName_ne_fileName k k _ _).symm hl hfree hm
    have hs := hs0.sameTree hf.sameTree
    -- every file a key named before is older than the new inode
    have hfresh : Fresh K h.fs r k h.fs.inodes.size := by
      intro k' hk' _ j' hj' hjN
      obtain ⟨⟨d, hd⟩, -, -⟩ := hr.files k' hk' j' hj'
      exact absurd (lt_size_of_read hd) (by omega)
    have hold : h.fs.contents (st.config.root.join (.ofString k.fileName)) = none := by
      rw [contents_key hr.root hfit, hl]
      rfl
    refine ⟨_, h', hex, rfl, ?_, fun k' hk' => ?_⟩
    · exact hr.stores hs hfresh (.inl rfl) rfl rfl (Nat.le_succ _) (le_refl _)
    · rw [hold]
      exact contents_stores hr.root hs hfresh hk' (hr.fits k' hk')

end SetStep

/-! ## §5. Serving calls -/

section Serving

variable {K : VarKey → Prop} {n : Nat} {st : Store} {fs : Fs} {r : Nat}

/-- A host ready for `n + 1` calls is ready for `n`. -/
theorem Ready.pred (hr : Ready K (n + 1) st fs r) : Ready K n st fs r :=
  { hr with staging := fun k hk seq h1 h2 => hr.staging k hk seq h1 (by omega) }

/-- A host ready for some keys is ready for fewer. -/
theorem Ready.mono {K' : VarKey → Prop} (hr : Ready K n st fs r) (hK : ∀ k, K' k → K k) :
    Ready K' n st fs r where
  plain := hr.plain
  unmirrored := hr.unmirrored
  root := hr.root
  fits k hk := hr.fits k (hK k hk)
  files k hk := hr.files k (hK k hk)
  apart k k' hk hk' := hr.apart k k' (hK k hk) (hK k' hk')
  unstaged k hk := hr.unstaged k (hK k hk)
  staging k hk := hr.staging k (hK k hk)

/-- Changing one record keeps two maps that agree on the keys agreeing. -/
theorem agree_update {f m : Records} (hm : ∀ k, K k → f k.fileName = m k.fileName) (name : String)
    (v : Option Bytes) {k : VarKey} (hk : K k) :
    Function.update f name v k.fileName = Function.update m name v k.fileName := by
  by_cases h : k.fileName = name
  · rw [h, Function.update_self, Function.update_self]
  · rw [Function.update_of_ne h, Function.update_of_ne h, hm k hk]

end Serving

end Store

namespace Session

open Store StoreM Fs

theorem run_exec {α : Type} (s : Session) (x : StoreM α) :
    s.run x = ((exec x s.store (s.prepare none .asOpened)).1.1.mapError .store,
      ⟨(exec x s.store (s.prepare none .asOpened)).2,
        (exec x s.store (s.prepare none .asOpened)).1.2⟩) := rfl

theorem prepare_quiet (s : Session) : (s.prepare none .asOpened).Quiet := ⟨rfl, rfl⟩

section Steps

variable {K : VarKey → Prop} {n r : Nat} {m : Records} {s : Session} {k : VarKey}

/-- A set of a ready key, as one step: it succeeds, keeps the host ready, and changes the
records as the map says. -/
theorem run_set_step (a : Attributes) (data : Bytes) {mode : Nat}
    (hr : Ready K (n + 1) s.store s.host.fs r) (hk : K k) (hmode : mode &&& 0o600 = 0o600)
    (hm : ∀ k, K k → s.records k.fileName = m k.fileName) :
    ∃ s', s.run (do Store.set k a data mode; pure Reply.done) = (.ok .done, s') ∧
      Ready K n s'.store s'.host.fs r ∧ s'.store.config = s.store.config ∧
      ∀ k', K k' → s'.records k'.fileName =
        Function.update m k.fileName (some (Records.written a data (m k.fileName))) k'.fileName := by
  obtain ⟨st', h', hex, hc, hr', hcont⟩ := exec_set_ready a data s.prepare_quiet hr hk hmode
  refine ⟨⟨h', st'⟩, ?_, hr', hc, fun k' hk' => ?_⟩
  · rw [run_exec, exec_bind_ok hex]
    rfl
  · -- the records are read off the same root before and after
    show h'.fs.contents (st'.config.root.join (.ofString k'.fileName)) = _
    have hold : (s.prepare none .asOpened).fs.contents
        (s.store.config.root.join (.ofString k.fileName)) = m k.fileName := hm k hk
    rw [hc, hcont k' hk', hold]
    exact agree_update hm _ _ hk'

/-- A read of a ready key, as one step: it answers from the key's record and changes nothing. -/
theorem run_get_step (hr : Ready K n s.store s.host.fs r) (hk : K k)
    (hm : ∀ k, K k → s.records k.fileName = m k.fileName) :
    s.run (Reply.variable <$> Store.get k) =
      (Records.getReply (s.store.config.root.join (.ofString k.fileName)) (m k.fileName),
        ⟨s.prepare none .asOpened, s.store⟩) := by
  have hfit := hr.fits k hk
  -- the step runs on the prepared host, which has the session's tree
  have hr0 : Ready K n s.store (s.prepare none .asOpened).fs r := hr
  have hrec : m k.fileName = (s.prepare none .asOpened).fs.contents
      (s.store.config.root.join (.ofString k.fileName)) := (hm k hk).symm
  rw [run_exec, exec_map]
  rw [contents_key hr0.root hfit] at hrec
  cases hl : (s.prepare none .asOpened).fs.lookupIn r (Utf8.encode k.fileName) with
  | some i =>
    obtain ⟨⟨d, hd⟩, hrd, -⟩ := hr0.files k hk i hl
    rw [hl, Option.bind_some, hd, Except.toOption] at hrec
    rw [exec_get_present hr0.root hfit hl hrd hd, hrec]
    -- the record splits into a variable, or is shorter than its header
    rw [Records.getReply_some]
    cases Record.decode? d <;> rfl
  | none =>
    rw [hl] at hrec
    rw [exec_get_absent hr0.root hfit hl, hrec]
    rfl

/-- A size query of a ready key, as one step: it answers from the key's record and changes
nothing. -/
theorem run_getSize_step (hr : Ready K n s.store s.host.fs r) (hk : K k)
    (hm : ∀ k, K k → s.records k.fileName = m k.fileName) :
    s.run (Reply.size <$> Store.getSize k) =
      (Records.sizeReply (s.store.config.root.join (.ofString k.fileName)) (m k.fileName),
        ⟨s.prepare none .asOpened, s.store⟩) := by
  have hfit := hr.fits k hk
  -- the step runs on the prepared host, which has the session's tree
  have hr0 : Ready K n s.store (s.prepare none .asOpened).fs r := hr
  have hrec : m k.fileName = (s.prepare none .asOpened).fs.contents
      (s.store.config.root.join (.ofString k.fileName)) := (hm k hk).symm
  rw [run_exec, exec_map]
  rw [contents_key hr0.root hfit] at hrec
  cases hl : (s.prepare none .asOpened).fs.lookupIn r (Utf8.encode k.fileName) with
  | some i =>
    obtain ⟨⟨d, hd⟩, -, -⟩ := hr0.files k hk i hl
    rw [hl, Option.bind_some, hd, Except.toOption] at hrec
    rw [exec_getSize_present hr0.root hfit hl hd, hrec]
    -- the length decides between the size and a corrupt record
    rw [Records.sizeReply_some]
    split_ifs <;> rfl
  | none =>
    rw [hl] at hrec
    rw [exec_getSize_absent hr0.root hfit hl, hrec]
    rfl

end Steps

end Session

/-! ## §6. Serving a list of calls -/

namespace Store

open StoreM

theorem exec_append (k : VarKey) (a : Attributes) (data : Bytes) (st : Store) (h : Host) :
    exec (append k a data) st h = exec (set k a.withAppend data st.config.appendMode) st h := by
  unfold append
  rw [exec_bind_ok (exec_config st h)]

end Store

namespace Session

open Store StoreM

section Serving

variable {K : VarKey → Prop} {n r : Nat} {m : Records} {s : Session}

/-- One call on a ready key: the session answers as the map does, stays ready for one call
fewer, and afterwards holds the map's records. -/
theorem serve_step {q : Request} (hr : Ready K (n + 1) s.store s.host.fs r) (hk : K q.key)
    (hg : q.Grants s.store.config) (hm : ∀ k, K k → s.records k.fileName = m k.fileName) :
    (s.run q.op).1 = (q.spec s.store.config m).1 ∧
      Ready K n (s.run q.op).2.store (s.run q.op).2.host.fs r ∧
      (s.run q.op).2.store.config = s.store.config ∧
      ∀ k, K k → (s.run q.op).2.records k.fileName = (q.spec s.store.config m).2 k.fileName := by
  cases q with
  | set k a data mode =>
    have hk : K k := hk
    obtain ⟨s', hrun, hr', hc, hrec⟩ := run_set_step a data hr hk hg hm
    rw [show (Request.set k a data mode).op = (do Store.set k a data mode; pure Reply.done)
      from rfl, hrun]
    exact ⟨rfl, hr', hc, hrec⟩
  | append k a data =>
    -- an append is a set with the append bit, creating with the configured mode
    have hk : K k := hk
    have hexec : exec (Request.append k a data).op s.store (s.prepare none .asOpened) =
        exec (do Store.set k a.withAppend data s.store.config.appendMode; pure Reply.done)
          s.store (s.prepare none .asOpened) := by
      show exec (Store.append k a data >>= fun _ => pure Reply.done) _ _ = _
      rw [exec_bind, exec_bind, exec_append]
    have hop : s.run (Request.append k a data).op =
        s.run (do Store.set k a.withAppend data s.store.config.appendMode; pure Reply.done) := by
      rw [run_exec, run_exec, hexec]
    obtain ⟨s', hrun, hr', hc, hrec⟩ := run_set_step a.withAppend data hr hk hg hm
    rw [hop, hrun]
    exact ⟨rfl, hr', hc, hrec⟩
  | get k =>
    have hk : K k := hk
    rw [show (Request.get k).op = Reply.variable <$> Store.get k from rfl, run_get_step hr.pred hk hm]
    exact ⟨rfl, hr.pred, rfl, hm⟩
  | getSize k =>
    have hk : K k := hk
    rw [show (Request.getSize k).op = Reply.size <$> Store.getSize k from rfl,
      run_getSize_step hr.pred hk hm]
    exact ⟨rfl, hr.pred, rfl, hm⟩

/-- Serving calls on ready keys answers each as the map does and leaves the map's records; the
induction is over the calls, with `Ready` for one call fewer after each. -/
theorem serve_agrees (qs : List Request) (hr : Ready K qs.length s.store s.host.fs r)
    (hq : ∀ q ∈ qs, K q.key ∧ q.Grants s.store.config)
    (hm : ∀ k, K k → s.records k.fileName = m k.fileName) :
    (s.serve qs).1 = (Request.specAll s.store.config m qs).1 ∧
      ∀ k, K k → (s.serve qs).2.records k.fileName =
        (Request.specAll s.store.config m qs).2 k.fileName := by
  induction qs generalizing s m with
  | nil => exact ⟨rfl, hm⟩
  | cons q qs ih =>
    obtain ⟨hk, hg⟩ := hq q List.mem_cons_self
    obtain ⟨hx, hr', hc, hm'⟩ := serve_step hr hk hg hm
    -- the other calls are served from where the first leaves the session
    have hq' : ∀ q' ∈ qs, K q'.key ∧ q'.Grants (s.run q.op).2.store.config := by
      intro q' hq'
      rw [hc]
      exact hq q' (List.mem_cons_of_mem q hq')
    obtain ⟨ih1, ih2⟩ := ih hr' hq' hm'
    rw [hc] at ih1 ih2
    rw [serve_cons, Request.specAll_cons, hx, ih1]
    exact ⟨rfl, ih2⟩

/-- On a plain root without a mirror, served calls behave as the map of records: each answer is
the map's, and at the end every key's record is the map's. The keys must fit the system's
limits with their staging names, name nothing or files of their own that the owner may read and
write, and every file a call creates must let its owner read and write it. -/
theorem serve_refines (s : Session) (qs : List Request) (r : Nat)
    (hr : Ready (· ∈ qs.map Request.key) qs.length s.store s.host.fs r)
    (hg : ∀ q ∈ qs, q.Grants s.store.config) :
    (s.serve qs).1 = (Request.specAll s.store.config s.records qs).1 ∧
      ∀ k ∈ qs.map Request.key, (s.serve qs).2.records k.fileName =
        (Request.specAll s.store.config s.records qs).2 k.fileName :=
  serve_agrees qs hr (fun q hq => ⟨List.mem_map_of_mem hq, hg q hq⟩) fun _ _ => rfl

end Serving

end Session

/-! ## §7. A store on an empty directory -/

theorem Except.eq_ok_of_toOption {ε α : Type} {x : Except ε α} {a : α} (h : x.toOption = some a) :
    x = .ok a := by
  cases x with
  | error e => cases h
  | ok b =>
    cases h
    rfl

namespace Store

/-- A tree with one empty directory `vars` in the working directory. -/
def varsTree : Fs :=
  ⟨#[⟨.dir [] 1, 0o755, none⟩, ⟨.dir [(Utf8.encode "vars", 2)] 1, 0o755, none⟩,
    ⟨.dir [] 1, 0o755, none⟩]⟩

/-- A store rooted at `vars`, without a mirror and without pacing. -/
def varsConfig : Config :=
  { Config.default with
    rootOverride := some (.ofString "vars"), persist := none, pacing := .disabled }

/-- The store of `varsConfig` on `varsTree`. -/
def varsSession : Session := ⟨{ fs := varsTree }, { config := varsConfig }⟩

/-- The variable `RO` of the zero GUID. -/
def roKey : VarKey := ⟨Guid.zero, "RO"⟩

theorem varsTree_lookupIn (n : Bytes) : varsTree.lookupIn 2 n = none := rfl

theorem rootAt_vars : RootAt varsConfig.root varsTree 2 where
  walk := ⟨[2, 1, 0], Except.eq_ok_of_toOption (by decide +kernel), rfl⟩
  isDir := rfl
  search := by decide
  write := by decide
  nul_not_mem := by decide +kernel
  cwd_lt := by decide

theorem keyFits_ro : KeyFits varsConfig roKey where
  safe := ⟨by decide +kernel, by decide +kernel⟩
  name_le := by decide +kernel
  path_lt := by decide +kernel
  limits := ⟨by decide +kernel, by decide +kernel⟩

/-- The empty root is ready for two calls on `RO`. -/
theorem ready_vars : Ready (· = roKey) 2 varsSession.store varsSession.host.fs 2 where
  plain := .inr ⟨rfl, by decide⟩
  unmirrored := rfl
  root := rootAt_vars
  fits k hk := by
    rw [hk]
    exact keyFits_ro
  files k _ i hi := by
    rw [show varsSession.host.fs = varsTree from rfl, varsTree_lookupIn] at hi
    cases hi
  apart k _ _ _ i hi := by
    rw [show varsSession.host.fs = varsTree from rfl, varsTree_lookupIn] at hi
    cases hi
  unstaged k _ seq := varsTree_lookupIn _
  staging k hk seq _ hseq := by
    rw [hk, show Path.ofString roKey.fileName = ⟨Utf8.encode roKey.fileName⟩ from rfl,
      VarKey.stagingPath_join keyFits_ro.safe]
    -- the two staging names the calls may take
    have hseq : seq < 2 := hseq
    interval_cases seq
    · exact ⟨by decide +kernel, by decide +kernel⟩
    · exact ⟨by decide +kernel, by decide +kernel⟩

end Store

namespace Session

open Store

theorem serve_refines_vars :
    (varsSession.serve [.set roKey ⟨7⟩ [1, 2, 3] 0o644, .get roKey]).1 =
        (Request.specAll varsConfig varsSession.records
          [.set roKey ⟨7⟩ [1, 2, 3] 0o644, .get roKey]).1 ∧
      ∀ k ∈ [roKey, roKey], (varsSession.serve [.set roKey ⟨7⟩ [1, 2, 3] 0o644, .get roKey]).2.records
        k.fileName = (Request.specAll varsConfig varsSession.records
          [.set roKey ⟨7⟩ [1, 2, 3] 0o644, .get roKey]).2 k.fileName :=
  serve_refines varsSession [.set roKey ⟨7⟩ [1, 2, 3] 0o644, .get roKey] 2
    (ready_vars.mono fun k hk => by simpa [Request.key] using hk)
    (by simp [Request.Grants])

end Session

/-! ## §8. What the map does not know -/

namespace Store

open Fs

theorem owner_bits_readOnly {m : Nat} (hm : m &&& 0o600 = 0o400) :
    (m &&& readBit != 0) = true ∧ (m &&& writeBit != 0) = false := by
  have hread : m &&& readBit = readBit := by
    rw [show readBit = 0o600 &&& 0o400 by rfl, ← Nat.and_assoc, hm]
    decide
  have hwrite : m &&& writeBit = 0 := by
    rw [show writeBit = 0o600 &&& 0o200 by rfl, ← Nat.and_assoc, hm]
    decide
  rw [hread, hwrite]
  exact ⟨rfl, rfl⟩

end Store

namespace Session

open Store StoreM Fs

section Refusals

variable {K : VarKey → Prop} {r : Nat} {s : Session} {k : VarKey}

/-- A set that creates a variable's file with a mode that lets its owner read it but not write
it succeeds; the next set of the variable is then refused when it opens the file for
writing. -/
theorem run_set_readOnly (a a' : Attributes) (data data' : Bytes)
    {mode : Nat} (mode' : Nat) (hr : Ready K 1 s.store s.host.fs r) (hk : K k)
    (habsent : s.host.fs.lookupIn r (Utf8.encode k.fileName) = none)
    (hro : mode &&& 0o600 = 0o400) :
    (s.run (Request.set k a data mode).op).1 = .ok .done ∧
      ((s.run (Request.set k a data mode).op).2.run (Request.set k a' data' mode').op).1 =
        .error (.store (.permissionDenied "open for writing"
          (s.store.config.root.join (.ofString k.fileName)) .accessDenied)) := by
  have hfit := hr.fits k hk
  -- both steps run on prepared hosts, which keep the tree
  have hr0 : Ready K 1 s.store (s.prepare none .asOpened).fs r := hr
  have habsent0 : (s.prepare none .asOpened).fs.lookupIn r (Utf8.encode k.fileName) = none :=
    habsent
  have hfree := hr0.unstaged k hk s.store.stagingCount
  obtain ⟨h1, hex, hf⟩ := exec_set_absent a data mode s.prepare_quiet hr0.plain hr0.unmirrored
    hr0.root hfit habsent0 hfree (hr0.staging k hk _ (le_refl _) (by omega))
  have hop : exec (Request.set k a data mode).op s.store (s.prepare none .asOpened) =
      ((.ok .done, { s.store with
        varfsRoot := some false, stagingCount := s.store.stagingCount + 1 }), h1) := by
    show exec (Store.set k a data mode >>= fun _ => pure Reply.done) _ _ = _
    rw [exec_bind_ok hex]
    rfl
  rw [run_exec, hop]
  refine ⟨rfl, ?_⟩
  -- the new file is the next inode `N`, which its owner may read but not write
  have sk := hf.sameTree.sameSkeleton
  have hqs := (VarKey.stagingName_ne_fileName k k s.store.process s.store.stagingCount).symm
  have hbits := owner_bits_readOnly ((createMode_owner mode).trans hro)
  have hl : h1.fs.lookupIn r (Utf8.encode k.fileName) =
      some (s.prepare none .asOpened).fs.inodes.size := by
    rw [sk.lookupIn, lookupIn_staged hr0.root.isDir hqs habsent0, if_neg hqs, if_pos rfl]
  have hread : h1.fs.allows (s.prepare none .asOpened).fs.inodes.size readBit := by
    rw [sk.allows _ ownerBit_read, allows_staged ownerBit_read, if_pos rfl]
    exact hbits.1
  have hwrite : h1.fs.allows (s.prepare none .asOpened).fs.inodes.size writeBit = false := by
    rw [sk.allows _ ownerBit_write, allows_staged ownerBit_write, if_pos rfl]
    exact hbits.2
  have hfile : h1.fs.isDir (s.prepare none .asOpened).fs.inodes.size = false := by
    rw [sk.isDir, isDir_staged, if_pos rfl]
  have hroot : RootAt s.store.config.root h1.fs r :=
    hr0.root.keeps ((keepsDirs_staged hr0.root.isDir hfree).trans (.of_sameSkeleton sk))
  let s1 : Session := ⟨h1, { s.store with
    varfsRoot := some false, stagingCount := s.store.stagingCount + 1 }⟩
  obtain ⟨st2, h2, hex2, -⟩ := @exec_set_present_refused s1.store (s1.prepare none .asOpened) r _ k
    a' data' mode' s1.prepare_quiet (.inl rfl) hroot hfit hl hread hfile hwrite
  have hop2 : exec (Request.set k a' data' mode').op s1.store (s1.prepare none .asOpened) =
      ((.error (.permissionDenied "open for writing"
        (s.store.config.root.join (.ofString k.fileName)) .accessDenied), st2), h2) := by
    show exec (Store.set k a' data' mode' >>= fun _ => pure Reply.done) _ _ = _
    rw [exec_bind_error hex2]
  rw [run_exec, hop2]
  rfl


/-- A set whose first look at the file fails for any reason but a missing name answers with
that error and leaves the session as it was. -/
theorem run_set_observe_error {p : Path} {e : OsError} (a : Attributes) (data : Bytes)
    (mode : Nat) (hv : Utf8.size k.name ≤ VarKey.maxNameLen)
    (hp : s.store.config.buildPath k = .ok p) (hr : s.host.fs.openRead p = .error e)
    (he : e.isNotFound = false) :
    s.run (Request.set k a data mode).op =
      (.error (.store (.ofOs "open" p e)), ⟨s.prepare none .asOpened, s.store⟩) := by
  have hop : exec (Request.set k a data mode).op s.store (s.prepare none .asOpened) =
      ((.error (.ofOs "open" p e), s.store), s.prepare none .asOpened) := by
    show exec (Store.set k a data mode >>= fun _ => pure Reply.done) _ _ = _
    rw [exec_bind_error (exec_set_observe_error a data mode s.prepare_quiet hv hp hr he)]
  rw [run_exec, hop]
  rfl

end Refusals

/-- The variable of the zero GUID whose name is 219 letters `A`: its file name is 256 bytes
long, one more than a name in a directory may have. -/
def longKey : VarKey := ⟨Guid.zero, String.ofList (List.replicate 219 'A')⟩

theorem serve_refuses_readOnly_and_long_names :
    (varsSession.serve [.set roKey ⟨7⟩ [1, 2, 3, 4, 5] 0o444, .set roKey ⟨3⟩ [9] 0o644]).1 =
        [.ok .done, .error (.store (.permissionDenied "open for writing"
          (varsConfig.root.join (.ofString roKey.fileName)) .accessDenied))] ∧
      (varsSession.serve [.set longKey ⟨7⟩ [1] 0o644]).1 =
        [.error (.store (.io "open" (varsConfig.root.join (.ofString longKey.fileName))
          .nameTooLong))] := by
  constructor
  · -- mode 0o444 lets the owner read the new file but not write it
    have hro : (0o444 : Nat) &&& 0o600 = 0o400 := by decide
    obtain ⟨h1, h2⟩ := run_set_readOnly ⟨7⟩ ⟨3⟩ [1, 2, 3, 4, 5] [9] 0o644 ready_vars.pred rfl
      (varsTree_lookupIn _) hro
    rw [serve_cons, serve_cons, h1, h2]
    rfl
  · -- the file name is too long for the directory: the first look at it fails
    have hpath : varsConfig.buildPath longKey =
        .ok (varsConfig.root.join (.ofString longKey.fileName)) :=
      (Config.buildPath_ok_iff _ _ _).mpr ⟨rfl, by decide +kernel⟩
    have hx : (match varsTree.openRead (varsConfig.root.join (.ofString longKey.fileName)) with
        | .error e => some e
        | .ok _ => none) = some OsError.nameTooLong := by decide +kernel
    have hopen : varsTree.openRead (varsConfig.root.join (.ofString longKey.fileName)) =
        .error .nameTooLong := by
      revert hx
      cases varsTree.openRead (varsConfig.root.join (.ofString longKey.fileName)) with
      | ok i => exact fun hx => by cases hx
      | error e => exact fun hx => by cases hx; rfl
    have hv : Utf8.size longKey.name ≤ VarKey.maxNameLen := by decide +kernel
    have he : OsError.nameTooLong.isNotFound = false := by decide
    -- an error that is neither a missing name nor a refusal is an I/O error
    have hio : StoreError.ofOs "open" (varsConfig.root.join (.ofString longKey.fileName))
        .nameTooLong = .io "open" (varsConfig.root.join (.ofString longKey.fileName))
        .nameTooLong := by
      unfold StoreError.ofOs
      rw [he, if_neg Bool.false_ne_true,
        show OsError.nameTooLong.isPermissionDenied = false by decide, if_neg Bool.false_ne_true]
    rw [serve_cons, @run_set_observe_error varsSession longKey _ _ ⟨7⟩ [1] 0o644 hv hpath hopen he,
      hio]
    rfl

end Session

end FirmwareVars
