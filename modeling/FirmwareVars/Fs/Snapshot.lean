import FirmwareVars.Fs.Tree

/-!
# Snapshots

A snapshot lists every name under the working directory, at any depth, as its path, its bytes
(none for a directory) and its permission bits, sorted by the bytes of the path. The snapshot is
taken by a reader that the permission bits bind: a file whose owner may not read it shows no
bytes, and a directory whose owner may not both read and search it shows no names under it. The
reader looks each name up as `./` followed by its path, so a name whose path that way reaches
the path limit cannot be looked up and is left out, with everything under it.
-/

namespace FirmwareVars

/-- One name of a snapshot. -/
structure SnapshotEntry where
  path : Bytes
  contents : Option Bytes
  mode : Nat
  deriving DecidableEq

namespace Fs

/-- The entries under directory `d`, whose own path is `pre`; `fuel` bounds the depth. A name
whose path, after `./`, is `pathMax` bytes or longer is left out. -/
def listUnder (fs : Fs) : Nat → Bytes → Nat → List SnapshotEntry
  | 0, _, _ => []
  | fuel + 1, pre, d =>
    (fs.entries d).flatMap fun (name, i) =>
      let path := if pre.isEmpty then name else pre ++ [Path.sep] ++ name
      if path.length + 2 ≥ pathMax then [] else
      match fs.inode? i with
      | some ⟨.file data, mode, _⟩ =>
        [⟨path, some (if mode &&& 0o400 = 0 then [] else data), mode⟩]
      | some ⟨.dir _ _, mode, _⟩ =>
        ⟨path, none, mode⟩ :: (if mode &&& 0o500 = 0o500 then fs.listUnder fuel path i else [])
      | none => []

/-- Every name under the working directory, sorted by path bytes. -/
def snapshot (fs : Fs) : List SnapshotEntry :=
  (fs.listUnder fs.inodes.size [] cwd).mergeSort fun a b => Bytes.lexLe a.path b.path

end Fs

end FirmwareVars
