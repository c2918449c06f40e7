import FirmwareVars.Fs.Tree
import FirmwareVars.Error
import FirmwareVars.Diagnostic

/-!
# Programs of system calls

The store does all its work through a small set of system calls: opening a path in one of four
ways, the two opens and the link of the write protocol, reading (a span, or chunk by chunk),
writing and truncating through a descriptor, stat, unlink, chmod, listing a directory, statfs,
reading and setting an inode's flag word, and reporting an event. A `Sys` program is a tree of such calls, each followed by a
continuation that receives the call's reply.

Keeping the calls as data lets one program be run against a host filesystem step by step
(`Host.run`), and lets its calls be inspected, counted or interleaved with another actor's.

Main statements: `Sys` is a lawful monad (`instLawfulMonad`).
-/

namespace FirmwareVars

/-- The immutable bit of an inode flag word. -/
def immutableBit : UInt32 := 0x10

/-- How a descriptor may be used. -/
inductive Access where
  | read
  | write
  | append
  deriving DecidableEq

/-- An open descriptor: the inode it names and how it may be used. Its position is kept by the
program that uses it: a call that reads or writes through it says where. -/
structure Handle where
  ino : Nat
  access : Access
  deriving DecidableEq

/-- How a path is opened. -/
inductive OpenMode where
  /-- An existing file or directory, for reading. -/
  | read
  /-- An existing file, for writing, optionally at its end. -/
  | write (append : Bool)
  /-- A new file with the given permission bits; an existing name is refused. -/
  | createNew (mode : Nat)
  /-- An existing file cut to nothing, or a new one with bits `666` (less the mask). -/
  | createTruncate
  deriving DecidableEq

/-- Something the store reports besides its result. -/
inductive Note where
  /-- A sub-step failed without changing the result. -/
  | diagnostic (d : Diagnostic)
  /-- The persistence copy failed after truncating its target, during operation `op`. -/
  | copyFailed (op : String) (e : StoreError)
  deriving DecidableEq

/-- One system call. -/
inductive Call where
  /-- Opens a path. -/
  | openPath (p : Path) (m : OpenMode)
  /-- The write protocol's first look at a file that may exist, read-only. -/
  | observe (p : Path)
  /-- The write protocol's open for the mutating write. -/
  | reopen (p : Path) (m : OpenMode)
  /-- The write protocol's exclusive link of a staging file to its final name. -/
  | publish (staged target : Path)
  /-- Reads through a descriptor from byte `off`: exactly `len` bytes when a length is given,
  else everything to the end of the file. -/
  | read (h : Handle) (off : Nat) (len : Option Nat)
  /-- Reads through a descriptor from byte `off` into a buffer of `size` bytes, again and again:
  the reply is what each read answered, in turn, up to the first that answered with nothing. -/
  | readChunks (h : Handle) (off size : Nat)
  /-- One write through a descriptor standing at byte `off` (one that appends writes at the end
  of the file wherever it stands); the reply is the number of bytes written. -/
  | write (h : Handle) (off : Nat) (data : Bytes)
  /-- Cuts or extends a file through a descriptor. -/
  | truncate (h : Handle) (len : Nat)
  /-- The size of the file at a path. -/
  | stat (p : Path)
  /-- Removes a name that is not a directory. -/
  | unlink (p : Path)
  /-- Sets permission bits. -/
  | chmod (p : Path) (mode : Nat)
  /-- The names in a directory. -/
  | readDir (p : Path)
  /-- The filesystem type at a path. -/
  | statfs (p : Path)
  /-- The inode flag word of an open file. -/
  | getFlags (h : Handle)
  /-- Sets the inode flag word of an open file. -/
  | setFlags (h : Handle) (w : UInt32)
  /-- Reports an event. -/
  | note (n : Note)

/-- What a call answers. -/
def Call.Reply : Call → Type
  | .openPath .. | .observe _ | .reopen .. => Except OsError Handle
  | .publish .. | .truncate .. | .unlink _ | .chmod .. | .setFlags .. => Except OsError Unit
  | .read .. => Except OsError Bytes
  | .readChunks .. => List (Except OsError Bytes)
  | .write .. | .stat _ => Except OsError Nat
  | .readDir _ => Except OsError (List Bytes)
  | .statfs _ => Except OsError FsMagic
  | .getFlags _ => Except OsError UInt32
  | .note _ => Unit

/-- The bytes a read from byte `off` gets out of a file's bytes: exactly `n` of them when a
length is asked for (a file that ends first gives a short read), else all bytes to the end. -/
def readSpan (off : Nat) : Option Nat → Bytes → Except OsError Bytes
  | none, bs => .ok (bs.drop off)
  | some n, bs => if off + n ≤ bs.length then .ok ((bs.drop off).take n) else .error .shortRead

/-- What successive reads into a buffer of `size` bytes answer on a regular file whose bytes past
the reading position are `bs`: each read fills the buffer while bytes are left, and then one
answers with nothing. -/
def fullReads (size : Nat) (bs : Bytes) : List (Except OsError Bytes) :=
  go bs.length bs
where
  /-- The reads of `bs`, at most `n` of them taking bytes; as each takes at least one, the length
  of `bs` is always enough. -/
  go : Nat → Bytes → List (Except OsError Bytes)
    | n + 1, bs@(_ :: _) => if size = 0 then [.ok []] else .ok (bs.take size) :: go n (bs.drop size)
    | _, _ => [.ok []]

/-- A program of system calls that ends with a value. -/
inductive Sys (α : Type) where
  /-- Ends with `a`. -/
  | pure (a : α)
  /-- Makes call `c` and goes on with its reply. -/
  | call (c : Call) (k : c.Reply → Sys α)

namespace Sys

/-- Runs `x`, then `f` on its value. -/
def bind {α β : Type} : Sys α → (α → Sys β) → Sys β
  | .pure a, f => f a
  | .call c k, f => .call c fun r => bind (k r) f

instance : Monad Sys where
  pure := Sys.pure
  bind := Sys.bind

theorem bind_pure_right {α : Type} (x : Sys α) : Sys.bind x Sys.pure = x := by
  induction x with
  | pure _ => rfl
  | call c k ih => exact congrArg (Sys.call c) (funext ih)

theorem bind_bind {α β γ : Type} (x : Sys α) (f : α → Sys β) (g : β → Sys γ) :
    Sys.bind (Sys.bind x f) g = Sys.bind x fun a => Sys.bind (f a) g := by
  induction x with
  | pure _ => rfl
  | call c k ih => exact congrArg (Sys.call c) (funext ih)

instance instLawfulMonad : LawfulMonad Sys :=
  LawfulMonad.mk' Sys (fun x => bind_pure_right x) (fun _ _ => rfl) (fun x f g => bind_bind x f g)

/-- Makes one call and ends with its reply. -/
def perform (c : Call) : Sys c.Reply := .call c Sys.pure

/-- Opens a path. -/
def openPath (p : Path) (m : OpenMode) : Sys (Except OsError Handle) := perform (.openPath p m)

/-- The write protocol's first look. -/
def observe (p : Path) : Sys (Except OsError Handle) := perform (.observe p)

/-- The write protocol's mutating open. -/
def reopen (p : Path) (m : OpenMode) : Sys (Except OsError Handle) := perform (.reopen p m)

/-- The write protocol's exclusive link. -/
def publish (staged target : Path) : Sys (Except OsError Unit) := perform (.publish staged target)

/-- Reads from byte `off`: exactly `len` bytes, or all to the end. -/
def readAt (h : Handle) (off : Nat) (len : Option Nat) : Sys (Except OsError Bytes) :=
  perform (.read h off len)

/-- Reads a whole file. -/
def read (h : Handle) : Sys (Except OsError Bytes) := readAt h 0 none

/-- Reads into a buffer of `size` bytes from byte `off`, again and again up to a read of
nothing: what each read answered. -/
def readChunks (h : Handle) (off size : Nat) : Sys (List (Except OsError Bytes)) :=
  perform (.readChunks h off size)

/-- One write at byte `off`. -/
def writeAt (h : Handle) (off : Nat) (data : Bytes) : Sys (Except OsError Nat) :=
  perform (.write h off data)

/-- One write through a fresh descriptor: at the start of the file, or at its end. -/
def write (h : Handle) (data : Bytes) : Sys (Except OsError Nat) := perform (.write h 0 data)

/-- Cuts or extends a file. -/
def truncate (h : Handle) (len : Nat) : Sys (Except OsError Unit) := perform (.truncate h len)

/-- The size of the file at a path. -/
def stat (p : Path) : Sys (Except OsError Nat) := perform (.stat p)

/-- Removes a name. -/
def unlink (p : Path) : Sys (Except OsError Unit) := perform (.unlink p)

/-- Sets permission bits. -/
def chmod (p : Path) (mode : Nat) : Sys (Except OsError Unit) := perform (.chmod p mode)

/-- The names in a directory. -/
def readDir (p : Path) : Sys (Except OsError (List Bytes)) := perform (.readDir p)

/-- The filesystem type at a path. -/
def statfs (p : Path) : Sys (Except OsError FsMagic) := perform (.statfs p)

/-- The flag word of an open file. -/
def getFlags (h : Handle) : Sys (Except OsError UInt32) := perform (.getFlags h)

/-- Sets the flag word of an open file. -/
def setFlags (h : Handle) (w : UInt32) : Sys (Except OsError Unit) := perform (.setFlags h w)

/-- Reports an event. -/
def note (n : Note) : Sys Unit := perform (.note n)

/-- Runs `x` with its notes kept back: they come out with its value, in the order they were
made, and every other call is made as before. -/
def gather {α : Type} : Sys α → Sys (α × List Note)
  | .pure a => .pure (a, [])
  | .call (.note n) k => (fun (a, ns) => (a, n :: ns)) <$> gather (k ())
  | .call c k => .call c fun r => gather (k r)

end Sys

end FirmwareVars
