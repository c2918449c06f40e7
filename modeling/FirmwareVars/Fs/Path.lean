import FirmwareVars.Bytes
import FirmwareVars.Text.Utf8

/-!
# Paths

A path is a string of bytes; `/` separates its names. Paths are shown by reading the bytes as
UTF-8, each fault replaced by U+FFFD.

Joining follows the usual rule: a path that starts with `/` replaces the base, otherwise the two
are joined by one separator (none after an empty base or one that already ends in `/`). The
components of a path drop empty names and `.` except a leading one; `..` is kept.
-/

namespace FirmwareVars

/-- A filesystem path as raw bytes. -/
structure Path where
  bytes : Bytes
  deriving DecidableEq, Inhabited

namespace Path

/-- The separator byte `/`. -/
def sep : UInt8 := 47

/-- The dot byte `.`. -/
def dot : UInt8 := 46

/-- The path spelled by a string. -/
def ofString (s : String) : Path := ⟨Utf8.encode s⟩

instance : Coe String Path := ⟨ofString⟩

/-- The text shown for a path. -/
def display (p : Path) : String := Utf8.lossy p.bytes

/-- Whether a path starts at the root `/`. -/
def isAbsolute (p : Path) : Bool := p.bytes.head? == some sep

/-- `q` appended to `p` with one separator; an absolute `q` replaces `p`. -/
def join (p q : Path) : Path :=
  if q.isAbsolute then q
  else if p.bytes.isEmpty || p.bytes.getLast? == some sep then ⟨p.bytes ++ q.bytes⟩
  else ⟨p.bytes ++ [sep] ++ q.bytes⟩

/-- The names of a path between separators, empty ones included. -/
def pieces (p : Path) : List Bytes :=
  p.bytes.splitOn sep

/-! ## §1. Components -/

/-- One component of a path. -/
inductive Component where
  /-- The leading `/`. -/
  | root
  /-- A leading `.`. -/
  | current
  /-- `..`. -/
  | parent
  /-- Any other name. -/
  | normal (name : Bytes)
  deriving DecidableEq

/-- The bytes a component is written with. -/
def Component.bytes : Component → Bytes
  | .root => [sep]
  | .current => [dot]
  | .parent => [dot, dot]
  | .normal n => n

/-- The component a non-empty, non-`.` name stands for. -/
def classify (name : Bytes) : Component :=
  if name == [dot, dot] then .parent else .normal name

/-- The components of a path: the root, a leading `.`, then every name but empty ones and
`.`. -/
def components (p : Path) : List Component :=
  let names := p.pieces
  let body := (names.filter fun n => !n.isEmpty && n != [dot]).map classify
  if p.isAbsolute then .root :: body
  else match names with
    | first :: _ :: _ => if first == [dot] then .current :: body else body
    | [only] => if only == [dot] then [.current] else body
    | [] => body

/-- The path built by pushing components one after another onto the empty path. -/
def ofComponents (cs : List Component) : Path :=
  cs.foldl (fun acc c => acc.join ⟨c.bytes⟩) ⟨[]⟩

/-- The path without its last component, unless that component is the root or there is none:
`a/b/.` has parent `a`, `x/y/..` has parent `x/y`, a single name has the empty path. -/
def parent? (p : Path) : Option Path :=
  match p.components.reverse with
  | [] | .root :: _ => none
  | _ :: before => some (ofComponents before.reverse)

/-! ## §2. Last name -/

/-- Names read from the end of a path, without the empty and `.` names in front; the last one
(the path's first name) is always kept. -/
def dropIdle : List Bytes → List Bytes
  | [] => []
  | n :: rest =>
    match rest with
    | [] => [n]
    | _ :: _ => if n.isEmpty || n == [dot] then dropIdle rest else n :: rest

/-- The path whose names are `ns`; a lone empty first name is the root. -/
def ofPieces (ns : List Bytes) : Path :=
  if ns == [[]] then ⟨[sep]⟩ else ⟨[sep].intercalate ns⟩

/-- The last name and the path before it, when the path ends in an ordinary name. Empty and
`.` names after the first are not names: they are skipped at the end, and dropped from the end
of the path before. -/
def splitLast? (p : Path) : Option (Path × Bytes) :=
  match dropIdle p.pieces.reverse with
  | name :: before =>
    if name.isEmpty || name == [dot] || name == [dot, dot] then none
    else some (ofPieces (dropIdle before).reverse, name)
  | [] => none

/-- The last name of a path, when it ends in an ordinary name. -/
def fileName? (p : Path) : Option Bytes := (splitLast? p).map Prod.snd

/-- The path with its last name replaced by `name` (or with `name` pushed when it has none). -/
def withFileName (p : Path) (name : Bytes) : Path :=
  match splitLast? p with
  | some (parent, _) => parent.join ⟨name⟩
  | none => p.join ⟨name⟩

end Path

end FirmwareVars
