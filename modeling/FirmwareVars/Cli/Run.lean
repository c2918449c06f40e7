import FirmwareVars.Cli.Help
import FirmwareVars.Store.Write
import FirmwareVars.Store.Remove
import FirmwareVars.Store.Listing
import FirmwareVars.Store.Probe
import FirmwareVars.Export.Transfer

/-!
# Running a command line

A checked line runs one store operation on a store whose root is the one given on the line, or
else the one the environment names, or else the default. What it prints goes to the output; a
change it made is logged at the info level. A store error is logged (as `fatal:` when the
persistence copy failed half way) and exits with 1; so does a probe that finds no usable root,
after printing that. The store's notes come first on the error stream.

The payload of `get` is shown sixteen bytes a row: the offset, the bytes in hex and the bytes as
text, where a byte that is neither a graphic ASCII character nor a space is a dot.
-/

namespace FirmwareVars

namespace Cli

open StoreM

/-! ## §1. Showing a payload -/

/-- A byte as the text column shows it. -/
def shownChar (b : UInt8) : Char :=
  if 0x20 ≤ b && b ≤ 0x7e then Char.ofNat b.toNat else '.'

/-- One row of the payload dump. -/
def dumpRow (offset : Nat) (row : Bytes) : String :=
  let hex := " ".intercalate (row.map fun b => hexPadded 2 b.toNat)
  hexPadded 8 offset ++ "  " ++ padTo 47 hex ++ "  |" ++ String.ofList (row.map shownChar) ++ "|\n"

/-- The rows of a payload from `offset` on. -/
def dumpFrom (offset : Nat) (bs : Bytes) : String :=
  match bs with
  | [] => ""
  | b :: rest => dumpRow offset ((b :: rest).take 16) ++ dumpFrom (offset + 16) (rest.drop 15)
termination_by bs.length
decreasing_by simp only [List.length_drop, List.length_cons]; omega

/-- The attributes as `get` and `attrs` show them: the mask and the names of its bits. -/
def showAttributes (a : Attributes) : String :=
  a.display ++ " [" ++ " ".intercalate a.names ++ "]"

/-! ## §2. Files named on the line -/

/-- The payload of a write: a file's bytes or the text's. -/
def payloadBytes : Payload → StoreM Bytes
  | .inline text => pure (Utf8.encode text)
  | .file p => do
    let h ← call "read" p (Sys.openPath p .read)
    call "read" p (Sys.read h)

/-- Writes a whole file, creating it or cutting it first. -/
def writeWhole (p : Path) (data : Bytes) : StoreM Unit := do
  let h ← call "write" p (Sys.openPath p .createTruncate)
  if !data.isEmpty then
    let _ ← call "write" p (Sys.write h data)

/-! ## §3. Commands -/

/-- What a command that did not fail printed, its exit code and its info lines. -/
structure Done where
  stdout : String
  code : Nat
  info : List String

/-- A command that printed `out` and logged `info`. -/
def Done.of (out : String) (info : List String) : Done := ⟨out, 0, info⟩

/-- Runs one command on the store. -/
def perform : Command → StoreM Done
  | .probe => do
    let ok ← Store.probe
    let root ← Store.root
    pure ⟨root.display ++ ": " ++ (if ok then "available" else "unavailable") ++ "\n",
      if ok then 0 else 1, []⟩
  | .list => do
    let keys ← Store.names
    pure (.of (String.join (keys.map fun k => k.fileName ++ "\n")) [])
  | .get k output => do
    let v ← Store.get k
    match output with
    | some p =>
      writeWhole p v.data
      pure (.of "" [])
    | none =>
      pure (.of ("GUID: " ++ k.guid.text ++ "\nName: \"" ++ k.name ++ "\"\nAttributes: " ++
        showAttributes v.attributes ++ "\nValue:\n" ++ dumpFrom 0 v.data) [])
  | .size k => do
    let n ← Store.getSize k
    pure (.of (toString n ++ "\n") [])
  | .attrs k => do
    let a ← Store.getAttributes k
    pure (.of (showAttributes a ++ "\n") [])
  | .set k bits mode payload => do
    let data ← payloadBytes payload
    Store.set k ⟨bits⟩ data mode
    pure (.of "" ["wrote " ++ k.fileName ++ " (" ++ toString data.length ++ " bytes)"])
  | .append k bits payload => do
    let data ← payloadBytes payload
    Store.append k ⟨bits⟩ data
    pure (.of "" ["appended " ++ toString data.length ++ " bytes to " ++ k.fileName])
  | .delete k => do
    Store.delete k
    pure (.of "" ["deleted " ++ k.fileName])
  | .chmod k mode => do
    Store.chmod k mode
    pure (.of "" [])
  | .save k file => do
    let v ← Exported.ofStore k
    v.writeTo file
    pure (.of "" ["exported " ++ k.fileName ++ " to " ++ file.display])
  | .restore file mode => do
    let v ← Exported.readFrom file
    v.importInto mode
    pure (.of "" ["imported " ++ v.key.fileName])

/-! ## §4. Whole runs -/

/-- The log line of a store error that ends a run. -/
def failureLine (e : StoreError) : String :=
  programLine .error ((if e.isFatal then "fatal: " else "") ++ e.message)

/-- Runs a checked line; `env` is the root the environment names, if any. -/
def runInvocation (env : Option String) (inv : Invocation) : Sys Exit := do
  let base := Config.fromEnv env
  let config := match inv.root with
    | some r => { base with rootOverride := some r }
    | none => base
  let ((r, _), notes) ← Sys.gather (((perform inv.command).run).run { config := config })
  let noted := notes.map noteLine
  match r with
  | .ok d => pure ⟨d.code, d.stdout, noted ++ d.info.map (programLine .info)⟩
  | .error e => pure ⟨1, "", noted ++ [failureLine e]⟩

/-- Runs a command line: `env` is the root the environment names, if any, and `words` the
arguments after the program's name. -/
def execute (env : Option String) (words : List String) : Sys Exit :=
  match read words with
  | .error r => pure r.exit
  | .ok inv => runInvocation env inv

end Cli

end FirmwareVars
