import FirmwareVars.Fs.Change

/-!
# Removing trees

A file is removed by unlinking it, a directory together with everything under it. The directory
is emptied first, entry by entry: a file in it is unlinked, a directory in it is emptied the same
way and then removed from it. Last the directory itself is removed by its path as written; when
that path no longer leads anywhere (`vars/..` once `vars` is gone), there is nothing left to
remove and the removal is done.

A removal that fails part way keeps what it did before the failure, so the work is a `Change`.
Emptying goes one level down for each unit of its depth bound; the number of inodes bounds the
depth of any tree.
-/

namespace FirmwareVars

namespace Fs

namespace Change

/-- Removes entry `name` of directory `d`, which names inode `c`: the directory must allow it,
and a directory named must be empty. -/
def dropEntry (d : Nat) (name : Bytes) (c : Nat) : Change Unit := do
  require d searchBit
  require d writeBit
  if !((← MonadState.get).entries c).isEmpty then throw .notEmpty
  MonadState.set ((← MonadState.get).removeEntry d name)

/-- Empties directory `d`, going at most `depth` levels down: each file in it is unlinked, each
directory in it opened, emptied and removed. -/
def clear : Nat → Nat → Change Unit
  | 0, _ => pure ()
  | depth + 1, d => do
    ((← MonadState.get).entries d).forM fun (name, c) => do
      if (← MonadState.get).isDir c then
        require d searchBit
        require c readBit
        clear depth c
      dropEntry d name c

/-- Removes directory `p` with everything under it. -/
def removeDir (p : Path) : Change Unit := do
  let fs ← MonadState.get
  let i ← MonadExcept.ofExcept (fs.find p)
  require i readBit
  clear fs.inodes.size i
  match (← MonadState.get).rmdir p with
  | .ok fs' => MonadState.set fs'
  | .error e => if e.isNotFound then pure () else throw e

/-- Removes what `p` names: a directory with everything under it, anything else by unlinking
it. -/
def removePath (p : Path) : Change Unit := do
  if (← MonadState.get).isDirAt p then removeDir p
  else call fun fs => fs.unlink p

end Change

end Fs

end FirmwareVars
