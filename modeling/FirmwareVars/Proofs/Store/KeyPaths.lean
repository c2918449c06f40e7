import FirmwareVars.Proofs.Export.Codec
import FirmwareVars.Proofs.Store.Records

/-!
# Where a key's path leads

A key's file lives at its root joined with its file name, `{name}-{guid}`. When the name holds no
`/` and no NUL, that file name is a single name of a path, so the key's path resolves, if it
resolves at all, to the entry of that name in the root directory; and two keys never share a
file name, the GUID text being read back from its hex digits (`VarKey.fileName_inj`). Nothing
else filters the name: a name with `/` is split into several names by the path, and a name
`../escaped` leads out of the root into its parent (`parent_name_leaves_root`).

Main statements:
  * `Guid.text_inj`, `VarKey.fileName_inj` — distinct keys have distinct file names.
  * `Fs.locate_join_of_ok` — a path that ends in a single name resolves, if at all, to the
    entry of that name in the directory the rest leads to.
  * `keyPath_root_entry` — a key whose name can stand in a path addresses an entry of the root.
-/

namespace FirmwareVars

/-! ## §1. Reading hex digits back -/

namespace Bytes

theorem hexValue?_hexDigit {d : Nat} (hd : d < 16) : hexValue? (hexDigit d) = some d := by
  revert d
  decide

theorem hexDigit_inj {d e : Nat} (hd : d < 16) (he : e < 16) (h : hexDigit d = hexDigit e) :
    d = e := by
  have hv := hexValue?_hexDigit hd
  rw [h, hexValue?_hexDigit he] at hv
  exact (Option.some.inj hv).symm

theorem hexDigit_ne_hyphen {d : Nat} (hd : d < 16) : hexDigit d ≠ '-' := by
  revert d
  decide

theorem toList_toHex (bs : Bytes) :
    (toHex bs).toList = bs.flatMap fun b => [hexDigit (b.toNat / 16), hexDigit (b.toNat % 16)] := by
  simp [toHex, byteHex, String.toList_join, List.flatMap, Function.comp_def]

/-- Bytes are read back from their hex text. -/
theorem toHex_inj {a b : Bytes} (h : (toHex a).toList = (toHex b).toList) : a = b := by
  rw [toList_toHex, toList_toHex] at h
  induction a generalizing b with
  | nil => cases b <;> simp_all
  | cons x xs ih =>
    cases b with
    | nil => simp at h
    | cons y ys =>
      simp only [List.flatMap_cons, List.cons_append, List.nil_append, List.cons.injEq] at h
      obtain ⟨hhi, hlo, hrest⟩ := h
      have hx := x.toNat_lt
      have hy := y.toNat_lt
      -- the two digits of a byte give its high and low halves
      have h1 := hexDigit_inj (by omega) (by omega) hhi
      have h2 := hexDigit_inj (by omega) (by omega) hlo
      have hxy : x = y := UInt8.toNat_inj.mp (by omega)
      rw [hxy, ih hrest]

theorem mem_toHex_ne_hyphen {bs : Bytes} {c : Char} (h : c ∈ (toHex bs).toList) : c ≠ '-' := by
  obtain ⟨d, hd, rfl⟩ := Bytes.mem_toHex h
  exact hexDigit_ne_hyphen hd

end Bytes

/-! ## §2. Distinct keys, distinct file names -/

namespace Guid

/-- The text order bytes, cut as the text groups them, put back together. -/
theorem groups_bytes (g : Guid) :
    g.bytes.take 4 ++ (g.bytes.drop 4).take 2 ++ (g.bytes.drop 6).take 2 ++
      (g.bytes.drop 8).take 2 ++ (g.bytes.drop 10).take 6 = g.bytes := by
  simp [bytes, List.range_succ]

/-- Leaving out the hyphens of a GUID's text leaves the hex of its bytes. -/
theorem text_filter (g : Guid) :
    g.text.toList.filter (· != '-') = (Bytes.toHex g.bytes).toList := by
  have hhex : ∀ bs : Bytes, (Bytes.toHex bs).toList.filter (· != '-') = (Bytes.toHex bs).toList :=
    fun bs => List.filter_eq_self.mpr fun c hc => by
      simpa using Bytes.mem_toHex_ne_hyphen hc
  rw [← groups_bytes g]
  simp only [text, String.toList_append, List.filter_append, hhex]
  simp [Bytes.toList_toHex, List.flatMap_append]

theorem text_inj {g g' : Guid} (h : g.text = g'.text) : g = g' := by
  have hbytes : g.bytes = g'.bytes := by
    apply Bytes.toHex_inj
    rw [← text_filter, ← text_filter, h]
  rw [← ofBytes_bytes g, hbytes, ofBytes_bytes]

theorem length_text (g : Guid) : g.text.toList.length = 36 := by
  simp [text, Bytes.toList_toHex, bytes]

end Guid

namespace VarKey

/-- The GUID text has a fixed length, so a file name splits into one name and one GUID. -/
theorem fileName_inj {k k' : VarKey} (h : k.fileName = k'.fileName) : k = k' := by
  have hl : k.name.toList ++ ('-' :: k.guid.text.toList) =
      k'.name.toList ++ ('-' :: k'.guid.text.toList) := by
    simpa [fileName] using congrArg String.toList h
  obtain ⟨hname, htext⟩ := List.append_inj' hl (by simp [Guid.length_text])
  have hguid := Guid.text_inj (String.toList_inj.mp (List.cons.inj htext).2)
  have hname' := String.toList_inj.mp hname
  cases k
  cases k'
  simp_all

end VarKey

/-! ## §3. Resolving a path that ends in one name -/

namespace Fs

/-- The last step of a walk, at a single name, ends at the entry of that name if it ends at all. -/
theorem walk_single_of_ok {fs : Fs} {stack : List Nat} {q : Bytes} {t : Target}
    (hq : Path.Name q) (h : fs.walk stack [q] = .ok t) :
    t = .entry (stack.headD cwd) q (fs.lookupIn (stack.headD cwd) q) := by
  have hdot : (q == [Path.dot]) = false := by simpa using hq.ne_dot
  have hdotdot : (q == [Path.dot, Path.dot]) = false := by simpa using hq.ne_dotdot
  simp only [walk, hdot, hdotdot, Bool.false_eq_true, ↓reduceIte] at h
  split_ifs at h
  cases h
  rfl

/-- A path that is a directory's path joined with a single name resolves, if it resolves at all,
to the entry of that name in that directory. -/
theorem locate_join_of_ok {fs : Fs} {root : Path} {q : Bytes} {stk : List Nat} {l : Located}
    (hq : Path.Name q) (hw : fs.walkDirs root.start root.names = .ok stk)
    (h : fs.locate (root.join ⟨q⟩) = .ok l) :
    l = ⟨.entry (stk.headD cwd) q (fs.lookupIn (stk.headD cwd) q), false⟩ := by
  rw [locate_eq] at h
  split_ifs at h
  rw [Path.names_join root hq, Path.start_join root hq, walk_append_single, hw,
    Path.getLast?_join root hq] at h
  rw [show (Except.ok stk : Except OsError (List Nat)).bind (fun s => fs.walk s [q]) =
    fs.walk stk [q] from rfl] at h
  -- what is left is the last step, at the single name
  cases ht : fs.walk stk [q] with
  | error e =>
    rw [ht] at h
    cases h
  | ok t =>
    rw [ht] at h
    cases h
    rw [walk_single_of_ok hq ht]

end Fs

/-! ## §4. A key's path -/

namespace Store

open Fs StoreM

/-- A key whose name holds no `/` and no NUL addresses an entry of its root: its path is the
root joined with its file name, a single name; wherever the root leads to directory `r`, the
path resolves, if at all, to the entry of that name in `r`; and any other key has another file
name. -/
theorem keyPath_root_entry (c : Config) (fs : Fs) (k k' : VarKey) {p : Path} {r : Nat}
    (hroot : RootAt c.root fs r) (hk : k.PathSafe) (hp : c.buildPath k = .ok p) :
    p = c.root.join ⟨Utf8.encode k.fileName⟩ ∧ Path.Name (Utf8.encode k.fileName) ∧
      (∀ l, fs.locate p = .ok l →
        l = ⟨.entry r (Utf8.encode k.fileName) (fs.lookupIn r (Utf8.encode k.fileName)), false⟩) ∧
      (k' ≠ k → Utf8.encode k'.fileName ≠ Utf8.encode k.fileName) := by
  obtain ⟨rfl, -⟩ := (Config.buildPath_ok_iff c k p).mp hp
  obtain ⟨stk, hw, rfl⟩ := hroot.walk
  refine ⟨rfl, VarKey.fileName_name hk,
    fun l hl => locate_join_of_ok (VarKey.fileName_name hk) hw hl,
    fun hne heq => hne (VarKey.fileName_inj (Utf8.encode_inj heq))⟩

/-- The key `../escaped`, which `validate` lets through. -/
def escapingKey : VarKey := ⟨Guid.zero, "../escaped"⟩

/-- The path of `RO` under `vars` names `RO`'s entry of `vars`, and not the one `../escaped` has. -/
theorem keyPath_root_entry_ro :
    varsConfig.root.join (.ofString roKey.fileName) =
        varsConfig.root.join ⟨Utf8.encode roKey.fileName⟩ ∧
      Path.Name (Utf8.encode roKey.fileName) ∧
      (∀ l, varsTree.locate (varsConfig.root.join (.ofString roKey.fileName)) = .ok l →
        l = ⟨.entry 2 (Utf8.encode roKey.fileName)
          (varsTree.lookupIn 2 (Utf8.encode roKey.fileName)), false⟩) ∧
      (escapingKey ≠ roKey → Utf8.encode escapingKey.fileName ≠ Utf8.encode roKey.fileName) :=
  keyPath_root_entry varsConfig varsTree roKey escapingKey rootAt_vars keyFits_ro.safe
    ((Config.buildPath_ok_iff _ _ _).mpr ⟨rfl, keyFits_ro.path_lt⟩)

/-- A set of `../escaped` on the empty root `vars` succeeds and leaves `vars` empty: the file it
creates is an entry of the working directory, which holds `vars`. -/
theorem parent_name_leaves_root :
    escapingKey.validate = .ok () ∧ RootAt varsConfig.root varsTree 2 ∧
      (exec (set escapingKey ⟨7⟩ [1] 0o644) varsSession.store varsSession.host).1.1 = .ok () ∧
      (exec (set escapingKey ⟨7⟩ [1] 0o644) varsSession.store varsSession.host).2.fs.entries 2 =
        [] ∧
      (exec (set escapingKey ⟨7⟩ [1] 0o644) varsSession.store varsSession.host).2.fs.lookupIn cwd
        (Utf8.encode "escaped-00000000-0000-0000-0000-000000000000") = some 3 :=
  ⟨by decide +kernel, rootAt_vars, by decide +kernel, by decide +kernel, by decide +kernel⟩

end Store

end FirmwareVars
