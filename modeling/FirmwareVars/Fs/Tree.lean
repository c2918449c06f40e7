import FirmwareVars.Bytes
import FirmwareVars.Fs.Path
import FirmwareVars.Fs.OsError

/-!
# A filesystem of inodes

The store works on a filesystem given as a table of inodes. An inode is a regular file (its
bytes) or a directory (its entries, name to inode), with permission bits and, once someone set
it, an inode flag word. Inode numbers are never reused, so an inode that lost its last name
stays readable through a descriptor that still names it.

Inode `0` is the host's root directory `/`; inode `1` is the working directory, where relative
paths start and which a snapshot lists.

Paths are resolved name by name the way Linux does: a path of `pathMax` bytes or more, or a
name longer than `nameMax` bytes, is too long; a missing name is `ENOENT`; a name that is not a
directory but is followed by more names is `ENOTDIR`; a trailing `/` asks for a directory. The
calls below (open, exclusive create, create-or-truncate, unlink, link, mkdir, rmdir, chmod, stat,
read_dir, statfs) report the same errors as the Linux calls of those names, in the same order.

New files get the requested mode less the process mask `022`; new directories `755`, with the
set-group-ID bit added inside a directory that has it. Writing at least one byte or truncating
drops the set-user-ID bit, and the set-group-ID bit when group execution is allowed.

A directory's size is a whole number of 4096-byte blocks. It starts at one block and grows the
way a filesystem with hashed directory indexes grows a directory (`grownBlocks`); it never
shrinks.

The caller owns every inode and has no privilege beyond that, so the owner's permission bits
are checked as Linux checks them: a lookup needs the directory's execute bit, opening needs the
read or write bit of what is opened, and adding or removing a name needs the directory's write
bit. Changing permission bits, `stat` and `statfs` need only the lookups.
-/

namespace FirmwareVars

/-- What an inode holds. -/
inductive Node where
  /-- A regular file and its bytes. -/
  | file (data : Bytes)
  /-- A directory: its entries, each a name and an inode number, and the number of blocks it
  has grown to. -/
  | dir (entries : List (Bytes × Nat)) (blocks : Nat)
  deriving DecidableEq

/-- An inode: what it holds, its permission bits, and its flag word once one was set. -/
structure Inode where
  node : Node
  mode : Nat
  flags : Option UInt32 := none
  deriving DecidableEq

/-- The filesystem type a `statfs` call reports. -/
inductive FsMagic where
  /-- The type of the filesystem the store's directory lives on. -/
  | host
  /-- A type given by its magic number. -/
  | word (n : Nat)
  deriving DecidableEq

/-- The magic shown as lowercase hex; the host's own is not a number the store knows. -/
def FsMagic.hex : FsMagic → String
  | .host => "$ROOTFS"
  | .word n => hexText n

/-- A filesystem: a table of inodes indexed by inode number. -/
structure Fs where
  inodes : Array Inode

namespace Fs

/-- The host's root directory. -/
def hostRoot : Nat := 0

/-- The working directory. -/
def cwd : Nat := 1

/-- The longest name in a directory, in bytes. -/
def nameMax : Nat := 255

/-- Paths must be shorter than this many bytes. -/
def pathMax : Nat := 4096

/-- A host with an empty root and an empty working directory. -/
def empty : Fs := ⟨#[⟨.dir [] 1, 0o755, none⟩, ⟨.dir [] 1, 0o755, none⟩]⟩

/-- The inode with number `i`. -/
def inode? (fs : Fs) (i : Nat) : Option Inode := fs.inodes[i]?

/-- Whether inode `i` is a directory. -/
def isDir (fs : Fs) (i : Nat) : Bool :=
  match fs.inode? i with
  | some ⟨.dir _ _, _, _⟩ => true
  | _ => false

/-- The entries of directory `i` (none for anything else). -/
def entries (fs : Fs) (i : Nat) : List (Bytes × Nat) :=
  match fs.inode? i with
  | some ⟨.dir es _, _, _⟩ => es
  | _ => []

/-- The inode that `name` names in directory `d`. -/
def lookupIn (fs : Fs) (d : Nat) (name : Bytes) : Option Nat :=
  (fs.entries d).lookup name

/-- Changes inode `i` by `f`. -/
def modify (fs : Fs) (i : Nat) (f : Inode → Inode) : Fs :=
  ⟨fs.inodes.modify i f⟩

/-- Adds an inode; its number is the table's old size. -/
def alloc (fs : Fs) (ino : Inode) : Fs × Nat :=
  (⟨fs.inodes.push ino⟩, fs.inodes.size)

/-- The bytes the entry for `name` takes in a directory block: an eight-byte header and the
name, rounded up to a multiple of four. -/
def entryBytes (name : Bytes) : Nat := (name.length + 11) / 4 * 4

/-- The room for entries in one directory block: its 4096 bytes less a 12-byte checksum tail. -/
def blockRoom : Nat := 4084

/-- The blocks a directory has once it holds `es`, when it had `blocks` before. A directory of
one block holds `.` and `..` (12 bytes each) and its entries; when they no longer fit, the block
becomes an index and the entries move to two leaf blocks after it. An indexed directory gains a
leaf whenever its entries no longer fit in the leaves it has. No block is ever given back. -/
def grownBlocks (blocks : Nat) (es : List (Bytes × Nat)) : Nat :=
  let need := es.foldl (fun n e => n + entryBytes e.1) 0
  if blocks ≤ 1 then (if 24 + need ≤ blockRoom then 1 else 3)
  else if need ≤ (blocks - 1) * blockRoom then blocks else blocks + 1

/-- Adds the entry `name ↦ i` to directory `d`. -/
def addEntry (fs : Fs) (d : Nat) (name : Bytes) (i : Nat) : Fs :=
  fs.modify d fun ino =>
    match ino.node with
    | .dir es b =>
      let es' := es ++ [(name, i)]
      { ino with node := .dir es' (grownBlocks b es') }
    | .file _ => ino

/-- Removes the entry `name` from directory `d`. -/
def removeEntry (fs : Fs) (d : Nat) (name : Bytes) : Fs :=
  fs.modify d fun ino =>
    match ino.node with
    | .dir es b => { ino with node := .dir (es.filter fun e => e.1 != name) b }
    | .file _ => ino

/-! ## §1. Access -/

/-- The owner's read bit. -/
def readBit : Nat := 0o400

/-- The owner's write bit. -/
def writeBit : Nat := 0o200

/-- The owner's execute bit; on a directory it allows looking names up in it. -/
def searchBit : Nat := 0o100

/-- Whether the caller may use inode `i` in the way `bit` stands for. The caller owns every
inode and has no privilege beyond that, so the owner's bits decide. -/
def allows (fs : Fs) (i : Nat) (bit : Nat) : Bool :=
  match fs.inode? i with
  | some ino => ino.mode &&& bit != 0
  | none => true

/-- Refuses with `EACCES` unless the caller may use inode `i` in the way `bit` stands for. -/
def require (fs : Fs) (i : Nat) (bit : Nat) : Except OsError Unit :=
  if fs.allows i bit then .ok () else .error .accessDenied

/-! ## §2. Resolving paths -/

/-- Where a path leads. -/
inductive Target where
  /-- The last name `name` in directory `parent`, naming inode `ino` when it exists. -/
  | entry (parent : Nat) (name : Bytes) (ino : Option Nat)
  /-- A directory named by `/`, or by a last name `.` or `..`. -/
  | dirItself (ino : Nat)

/-- A resolved path, and whether it ended with a separator. -/
structure Located where
  target : Target
  trailingSlash : Bool

/-- The directory that `..` leads to from the first of `stack`. -/
def up (stack : List Nat) : List Nat :=
  match stack with
  | _ :: rest@(_ :: _) => rest
  | s => s

/-- Walks the names of a path from the directory at the head of `stack`, whose ancestors
follow it. -/
def walk (fs : Fs) : List Nat → List Bytes → Except OsError Target
  | stack, [] => .ok (.dirItself (stack.headD cwd))
  | stack, [name] =>
    if !fs.allows (stack.headD cwd) searchBit then .error .accessDenied
    else if name == [Path.dot] then .ok (.dirItself (stack.headD cwd))
    else if name == [Path.dot, Path.dot] then .ok (.dirItself ((up stack).headD cwd))
    else if name.length > nameMax then .error .nameTooLong
    else .ok (.entry (stack.headD cwd) name (fs.lookupIn (stack.headD cwd) name))
  | stack, name :: rest =>
    if !fs.allows (stack.headD cwd) searchBit then .error .accessDenied
    else if name == [Path.dot] then walk fs stack rest
    else if name == [Path.dot, Path.dot] then walk fs (up stack) rest
    else if name.length > nameMax then .error .nameTooLong
    else match fs.lookupIn (stack.headD cwd) name with
      | none => .error .noEntry
      | some i => if fs.isDir i then walk fs (i :: stack) rest else .error .notDir

/-- Resolves a path. -/
def locate (fs : Fs) (p : Path) : Except OsError Located :=
  if p.bytes.contains 0 then .error .nulInPath
  else if p.bytes.length ≥ pathMax then .error .nameTooLong
  else if p.bytes.isEmpty then .error .noEntry
  else
    let names := p.pieces.filter fun n => !n.isEmpty
    let start := if p.isAbsolute then [hostRoot] else [cwd, hostRoot]
    (walk fs start names).map fun t => ⟨t, p.bytes.getLast? == some Path.sep⟩

/-- The inode a resolved path names, if it exists. -/
def existing (fs : Fs) (l : Located) : Except OsError Nat :=
  match l.target with
  | .dirItself i => .ok i
  | .entry _ _ none => .error .noEntry
  | .entry _ _ (some i) => if l.trailingSlash && !fs.isDir i then .error .notDir else .ok i

/-- The inode an existing path names; only the directories on the way must allow a lookup. -/
def find (fs : Fs) (p : Path) : Except OsError Nat := do
  let l ← fs.locate p
  fs.existing l

/-- Whether a path names a directory. -/
def isDirAt (fs : Fs) (p : Path) : Bool :=
  match fs.find p with
  | .ok i => fs.isDir i
  | .error _ => false

/-! ## §3. Permission bits -/

/-- The bits a new file gets: the requested ones, less the process mask `022`. -/
def createMode (mode : Nat) : Nat := mode % 4096 &&& 0o7755

/-- The bits after a write or truncation: set-user-ID goes, and set-group-ID with it when the
group may execute. -/
def dropPrivileges (mode : Nat) : Nat :=
  let m := if mode &&& 0o4000 = 0 then mode else mode - 0o4000
  if m &&& 0o2010 = 0o2010 then m - 0o2000 else m

/-! ## §4. Calls on paths -/

/-- Opens an existing path for reading (a directory too). -/
def openRead (fs : Fs) (p : Path) : Except OsError Nat := do
  let i ← fs.find p
  fs.require i readBit
  .ok i

/-- Opens an existing file for writing. -/
def openWrite (fs : Fs) (p : Path) : Except OsError Nat := do
  let i ← fs.find p
  if fs.isDir i then .error .isDir
  else do
    fs.require i writeBit
    .ok i

/-- Creates a new empty file with permission bits `mode`; an existing name is `EEXIST`. -/
def createNew (fs : Fs) (p : Path) (mode : Nat) : Except OsError (Fs × Nat) := do
  let l ← fs.locate p
  if l.trailingSlash then .error .isDir
  else match l.target with
    | .dirItself _ => .error .nameTaken
    | .entry _ _ (some _) => .error .nameTaken
    | .entry d name none => do
      fs.require d writeBit
      let (fs', i) := fs.alloc ⟨.file [], createMode mode, none⟩
      .ok (fs'.addEntry d name i, i)

/-- Opens a file for writing, truncating it, or creates it with bits `644`. -/
def createTruncate (fs : Fs) (p : Path) : Except OsError (Fs × Nat) := do
  let l ← fs.locate p
  if l.trailingSlash then .error .isDir
  else match l.target with
    | .dirItself _ => .error .isDir
    | .entry _ _ (some i) =>
      if fs.isDir i then .error .isDir
      else do
        fs.require i writeBit
        .ok (fs.modify i (fun ino => { ino with node := .file [], mode := dropPrivileges ino.mode }), i)
    | .entry d name none => do
      fs.require d writeBit
      let (fs', i) := fs.alloc ⟨.file [], createMode 0o666, none⟩
      .ok (fs'.addEntry d name i, i)

/-- Removes a name that is not a directory. -/
def unlink (fs : Fs) (p : Path) : Except OsError Fs := do
  let l ← fs.locate p
  match l.target with
  | .dirItself _ => .error .isDir
  | .entry _ _ none => .error .noEntry
  | .entry d name (some i) =>
    if l.trailingSlash then (if fs.isDir i then .error .isDir else .error .notDir)
    else do
      fs.require d writeBit
      if fs.isDir i then .error .isDir else .ok (fs.removeEntry d name)

/-- Gives the inode named by `old` the new name `new`; a taken name is `EEXIST`. -/
def link (fs : Fs) (old new : Path) : Except OsError Fs := do
  let i ← fs.find old
  let l ← fs.locate new
  match l.target with
  | .dirItself _ => .error .nameTaken
  | .entry _ _ (some _) => .error .nameTaken
  | .entry d name none =>
    if l.trailingSlash then .error .noEntry
    else do
      fs.require d writeBit
      if fs.isDir i then .error .notPermitted else .ok (fs.addEntry d name i)

/-- The bits a new directory in directory `d` gets: `755`, and the set-group-ID bit as well
when `d` has it, so that the bit passes down to every directory made under it. -/
def newDirMode (fs : Fs) (d : Nat) : Nat :=
  match fs.inode? d with
  | some ino => if ino.mode &&& 0o2000 = 0 then 0o755 else 0o2755
  | none => 0o755

/-- Creates a directory with bits `755`, or `2755` under a set-group-ID directory. -/
def mkdir (fs : Fs) (p : Path) : Except OsError Fs := do
  let l ← fs.locate p
  match l.target with
  | .dirItself _ => .error .nameTaken
  | .entry _ _ (some _) => .error .nameTaken
  | .entry d name none => do
    fs.require d writeBit
    let (fs', i) := fs.alloc ⟨.dir [] 1, fs.newDirMode d, none⟩
    .ok (fs'.addEntry d name i)

/-- Removes an empty directory. A path whose last name is `.` is refused with `EINVAL`, one whose
last name is `..` with `ENOTEMPTY`, and the root with `EBUSY`. -/
def rmdir (fs : Fs) (p : Path) : Except OsError Fs := do
  let l ← fs.locate p
  match l.target with
  | .dirItself _ =>
    match (p.pieces.filter fun n => !n.isEmpty).getLast? with
    | some n => if n == [Path.dot] then .error .invalidArgument else .error .notEmpty
    | none => .error .busy
  | .entry _ _ none => .error .noEntry
  | .entry d name (some i) => do
    fs.require d writeBit
    if !fs.isDir i then .error .notDir
    else if !(fs.entries i).isEmpty then .error .notEmpty
    else .ok (fs.removeEntry d name)

/-- Sets the permission bits of an existing path. -/
def chmod (fs : Fs) (p : Path) (mode : Nat) : Except OsError Fs := do
  let i ← fs.find p
  .ok (fs.modify i fun ino => { ino with mode := mode % 4096 })

/-- The names in a directory, in the order they were added. -/
def readDir (fs : Fs) (p : Path) : Except OsError (List Bytes) := do
  let i ← fs.find p
  if fs.isDir i then do
    fs.require i readBit
    .ok ((fs.entries i).map Prod.fst)
  else .error .notDir

/-- The filesystem type at a path; a NUL byte is refused at its offset before the call. -/
def statfs (fs : Fs) (p : Path) : Except OsError FsMagic :=
  if p.bytes.contains 0 then .error (.nulInData (p.bytes.idxOf 0))
  else (fs.find p).map fun _ => .host

/-! ## §5. Calls on inodes -/

/-- The bytes of file inode `i`; a directory cannot be read. -/
def read (fs : Fs) (i : Nat) : Except OsError Bytes :=
  match fs.inode? i with
  | some ⟨.file data, _, _⟩ => .ok data
  | some ⟨.dir _ _, _, _⟩ => .error .isDir
  | none => .error .badDescriptor

/-- The size `stat` reports: a file's length, and 4096 bytes for each block of a directory. -/
def size (fs : Fs) (i : Nat) : Nat :=
  match fs.inode? i with
  | some ⟨.file data, _, _⟩ => data.length
  | some ⟨.dir _ b, _, _⟩ => 4096 * b
  | none => 4096

/-- Writes `bytes` into file inode `i` at `offset`, overwriting what is there. -/
def writeAt (fs : Fs) (i offset : Nat) (bytes : Bytes) : Fs :=
  fs.modify i fun ino =>
    match ino.node with
    | .file data =>
      { ino with
        node := .file (data.take offset ++ List.replicate (offset - data.length) 0 ++ bytes ++
          data.drop (offset + bytes.length))
        mode := if bytes.isEmpty then ino.mode else dropPrivileges ino.mode }
    | .dir .. => ino

/-- Writes `bytes` at the end of file inode `i`. -/
def append (fs : Fs) (i : Nat) (bytes : Bytes) : Fs :=
  fs.writeAt i (fs.size i) bytes

/-- Cuts or zero-extends file inode `i` to `len` bytes. -/
def truncate (fs : Fs) (i len : Nat) : Fs :=
  fs.modify i fun ino =>
    match ino.node with
    | .file data =>
      { ino with
        node := .file (data.take len ++ List.replicate (len - data.length) 0)
        mode := dropPrivileges ino.mode }
    | .dir .. => ino

/-- The flag word of inode `i`, `default` if none was ever set. -/
def flagsOf (fs : Fs) (i : Nat) (default : UInt32) : UInt32 :=
  ((fs.inode? i).bind Inode.flags).getD default

/-- Sets the flag word of inode `i`. -/
def setFlags (fs : Fs) (i : Nat) (w : UInt32) : Fs :=
  fs.modify i fun ino => { ino with flags := some w }

end Fs

end FirmwareVars
