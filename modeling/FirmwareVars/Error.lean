import FirmwareVars.Guid
import FirmwareVars.Fs.Path
import FirmwareVars.Fs.OsError
import FirmwareVars.Text.Utf8

/-!
# Store errors

Every way a store operation can fail, as a cause with its data, and the one function that words
it (`StoreError.message`). A filesystem error becomes `notFound` when the name does not exist,
`permissionDenied` when the caller may not act, and `io` otherwise (`StoreError.ofOs`). Only a
failure in the middle of the persistence copy, after its target was truncated, is fatal.
-/

namespace FirmwareVars

/-- Why an argument was refused before anything was touched. -/
inductive ArgumentError where
  /-- A variable name of this many bytes, over the limit of 1024. -/
  | nameTooLong (len : Nat)
  /-- A namespace text that is not a GUID. -/
  | guid (e : Guid.ParseError)
  deriving DecidableEq

/-- The wording of an argument error. -/
def ArgumentError.message : ArgumentError → String
  | .nameTooLong n => s!"name too long ({n} of 1024)"
  | .guid e => e.message

/-- Why bytes are not a well-formed record or export file. -/
inductive CorruptReason where
  /-- A record file ended inside its four-byte attribute header. -/
  | shortHeader
  /-- A record file of this many bytes cannot hold the header. -/
  | shorterThanHeader (len : Nat)
  /-- An export of this many bytes is shorter than its fixed parts. -/
  | exportTooShort (len : Nat)
  /-- The trailer says `expected`, the bytes give `actual`. -/
  | checksum (expected actual : UInt32)
  /-- The first four bytes are these, not `VARX`. -/
  | magic (bytes : Bytes)
  /-- An export version other than 1. -/
  | version (v : Nat)
  /-- The prefix gives one body length, the file another. -/
  | bodyLength (header found : Nat)
  deriving DecidableEq

/-- The wording of a corruption. -/
def CorruptReason.message : CorruptReason → String
  | .shortHeader => "short attribute header"
  | .shorterThanHeader n => s!"{n} bytes is shorter than the attribute header"
  | .exportTooShort n => s!"export too short: {n} bytes"
  | .checksum e a =>
    "checksum mismatch: expected " ++ hexPadded 8 e.toNat ++ ", got " ++ hexPadded 8 a.toNat
  | .magic bs => "bad magic [" ++ ", ".intercalate (bs.map fun b => toString b.toNat) ++ "]"
  | .version v => s!"unsupported export version {v}"
  | .bodyLength h n => s!"body length mismatch: header says {h}, found {n}"

/-- What another actor did between two steps of a write. -/
inductive RaceReason where
  /-- The observed file was gone when it was reopened. -/
  | removed
  /-- The reopened file is not the observed one. -/
  | replaced
  /-- Someone else created the file first. -/
  | created
  deriving DecidableEq

/-- The wording of a race. -/
def RaceReason.message : RaceReason → String
  | .removed => "removed between opens"
  | .replaced => "replaced between opens"
  | .created => "created by another writer"

/-- Why the persistence copy was skipped. -/
inductive SkipReason where
  /-- Reading the variable that names the target failed with this text. -/
  | lookupFailed (name detail : String)
  /-- The target name is longer than allowed. -/
  | nameTooBig (len max : Nat)
  /-- The variable that names the target holds no name. -/
  | emptyName (name : String)
  /-- A candidate path is at least this long. -/
  | pathTooBig (max : Nat)
  /-- No mount point holds the target. -/
  | notOnAnyMount (fileName : String)
  /-- The payload variable has no usable path; the text says why. -/
  | sourcePath (detail : String)
  /-- A file of the copy could not be opened. -/
  | cannotOpen (path : Path) (cause : OsError)
  deriving DecidableEq

/-- The wording of a skip. -/
def SkipReason.message : SkipReason → String
  | .lookupFailed name d => name ++ ": " ++ d
  | .nameTooBig n m => s!"filename too big ({n} bytes, max {m})"
  | .emptyName name => name ++ " is empty"
  | .pathTooBig m => s!"filepath too big (max {m})"
  | .notOnAnyMount f =>
    "'" ++ f ++ "' not found on any ESP mount point, variable changes won't persist reboots"
  | .sourcePath d => d
  | .cannotOpen p e => "could not open " ++ p.display ++ ": " ++ e.message

/-- Why the body of an export file could not be read. -/
inductive BodyError where
  /-- A fixed-size field ran past the end. -/
  | endOfInput
  /-- A length-prefixed string ran past the end. -/
  | shortBuffer
  /-- The name is not UTF-8. -/
  | utf8 (f : Utf8.Fault)
  deriving DecidableEq

/-- The wording of a body error. -/
def BodyError.message : BodyError → String
  | .endOfInput => "io error: unexpected end of file"
  | .shortBuffer => "io error: "
  | .utf8 f => "string is not valid utf8: " ++ f.message

/-- Why a store operation failed. -/
inductive StoreError where
  /-- An argument was refused before anything was touched. -/
  | invalidArgument (e : ArgumentError)
  /-- A payload of this many bytes does not fit a record. -/
  | overflow (payloadLen : Nat)
  /-- A path of `len` bytes; the limit is `max`. -/
  | pathTooLong (len max : Nat)
  /-- No file at this path. -/
  | notFound (path : Path)
  /-- The file at this path is not well formed. -/
  | corrupt (path : Path) (reason : CorruptReason)
  /-- Another actor changed this path during the operation. -/
  | race (path : Path) (reason : RaceReason)
  /-- One write put fewer bytes than asked. -/
  | shortWrite (path : Path) (written expected : Nat)
  /-- The operation `op` on this path was not permitted. -/
  | permissionDenied (op : String) (path : Path) (cause : OsError)
  /-- The operation `op` on this path failed. -/
  | io (op : String) (path : Path) (cause : OsError)
  /-- The persistence copy cannot run. -/
  | persistUnavailable (reason : SkipReason)
  /-- The persistence copy failed after its target was truncated. -/
  | persistIo (op : String) (path : Path) (cause : OsError)
  /-- An export body could not be read. -/
  | serialization (e : BodyError)
  deriving DecidableEq

namespace StoreError

/-- The store error for a failed filesystem call `op` on `path`. -/
def ofOs (op : String) (path : Path) (e : OsError) : StoreError :=
  if e.isNotFound then .notFound path
  else if e.isPermissionDenied then .permissionDenied op path e
  else .io op path e

/-- The wording of a store error. -/
def message : StoreError → String
  | .invalidArgument e => "Invalid argument: " ++ e.message
  | .overflow n => s!"Record too large: {n} payload bytes overflow the record size"
  | .pathTooLong len max => s!"Path too long: {len} bytes (max {max})"
  | .notFound p => "Variable not found: " ++ p.display
  | .corrupt p r => "Corrupt record " ++ p.display ++ ": " ++ r.message
  | .race p r => "Race detected on " ++ p.display ++ ": " ++ r.message
  | .shortWrite p w e => "Short write on " ++ p.display ++ s!": wrote {w} of {e} bytes"
  | .permissionDenied op p _ => "Permission denied: " ++ op ++ " " ++ p.display
  | .io op p e => op ++ " " ++ p.display ++ " failed: " ++ e.message
  | .persistUnavailable r => "Persistence mirror unavailable: " ++ r.message
  | .persistIo op p e => "Persistence mirror " ++ op ++ " failed on " ++ p.display ++ ": " ++ e.message
  | .serialization e => "Serialization error: " ++ e.message

/-- Whether the caller must stop: only a copy that failed after truncating its target. -/
def isFatal : StoreError → Bool
  | .persistIo .. => true
  | _ => false

/-- Whether the error says the file does not exist. -/
def isNotFound : StoreError → Bool
  | .notFound _ => true
  | _ => false

end StoreError

end FirmwareVars
