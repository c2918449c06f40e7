import FirmwareVars.Cli.Args
import FirmwareVars.Cli.Number
import FirmwareVars.Key
import FirmwareVars.Text.Quoted

/-!
# The command line of the store

The program `varstore` takes one subcommand per run, and the mount root `-r`/`--root` before or
after it (given after it, it wins). Each subcommand names a variable as its file name
`Name-GUID`, except `import`, which names an export file.

Values are checked as they are taken: a variable must be a file name of a variable; attributes
are a 32-bit number, hexadecimal after `0x` or `0X` and decimal otherwise; modes are octal, after
any number of leading `0o`; paths must not be empty. `set` and `append` take their payload from
exactly one of `--data-file` and `--value`.

A line that passes becomes an `Invocation`: the root, if given, and a typed `Command`.
-/

namespace FirmwareVars

namespace Cli

/-! ## §1. Options and positionals -/

/-- The mount root; every subcommand accepts it too. -/
def rootOpt : Opt :=
  ⟨"root", some 'r', "root", .value "ROOT", "Mount root (overrides EFIVARFS_PATH)", none⟩

/-- Asks for help. -/
def helpOpt : Opt := ⟨"help", some 'h', "help", .help, "Print help", none⟩

/-- Asks for the version. -/
def versionOpt : Opt := ⟨"version", some 'V', "version", .version, "Print version", none⟩

/-- The variable a subcommand works on. -/
def variablePos (about : String) : Positional := ⟨"variable", "VARIABLE", about⟩

/-- The attribute mask of a write. -/
def attributesOpt (about : String) : Opt :=
  ⟨"attributes", some 'a', "attributes", .value "ATTRIBUTES", about, some "0x7"⟩

/-- The mode of a file a write creates. -/
def modeOpt (about : String) : Opt := ⟨"mode", some 'm', "mode", .value "MODE", about, some "644"⟩

/-- A payload read from a file. -/
def dataFileOpt : Opt :=
  ⟨"data_file", some 'f', "data-file", .value "DATA_FILE", "Payload from a file", none⟩

/-- A payload given on the line. -/
def valueOpt : Opt := ⟨"value", some 'v', "value", .value "VALUE", "Payload given inline", none⟩

/-- Where `get` writes the payload. -/
def outputOpt : Opt :=
  ⟨"output", some 'o', "output", .value "OUTPUT",
    "Write the raw payload here instead of printing it", none⟩

/-! ## §2. The commands -/

/-- A subcommand with its own options, then the root and help options. -/
def subcommand (name about : String) (own : List Opt) (pos : List Positional)
    (oneOf : List String) : Cmd :=
  ⟨name, about, own ++ [rootOpt, helpOpt], pos, oneOf⟩

/-- The payload group of a write. -/
def payloadGroup : List String := ["data_file", "value"]

/-- The subcommands, in the order the help lists them. -/
def commands : List Cmd :=
  [ subcommand "probe" "Check whether efivarfs is usable at the root" [] [] [],
    subcommand "list" "List every variable" [] [] [],
    subcommand "get" "Print a variable's attributes and payload" [outputOpt]
      [variablePos "Variable as Name-GUID"] [],
    subcommand "size" "Print a variable's payload size" [] [variablePos ""] [],
    subcommand "attrs" "Print a variable's attributes" [] [variablePos ""] [],
    subcommand "set" "Create or replace a variable"
      [attributesOpt "Attribute mask (hex with 0x prefix, or decimal)",
        modeOpt "File mode for a newly created variable (octal)", dataFileOpt, valueOpt]
      [variablePos ""] payloadGroup,
    subcommand "append" "Append to a variable" [attributesOpt "", dataFileOpt, valueOpt]
      [variablePos ""] payloadGroup,
    subcommand "delete" "Delete a variable" [] [variablePos ""] [],
    subcommand "chmod" "Change a variable file's permission bits" []
      [variablePos "", ⟨"mode", "MODE", "New mode (octal)"⟩] [],
    subcommand "export" "Save a variable to an export file" []
      [variablePos "", ⟨"file", "FILE", ""⟩] [],
    subcommand "import" "Restore a variable from an export file" [modeOpt ""]
      [⟨"file", "FILE", ""⟩] [] ]

/-- The top command. -/
def program : Cmd :=
  ⟨"varstore", "Read and write EFI variables through efivarfs", [rootOpt, helpOpt, versionOpt],
    [], []⟩

/-! ## §3. Checking values -/

/-- A variable named by its file name. -/
def readKey (s : String) : Except String VarKey :=
  match VarKey.ofFileName? s with
  | some k => .ok k
  | none => .error ("expected Name-GUID, got " ++ Quoted.quote s)

/-- An attribute mask. -/
def readAttributes (s : String) : Except String UInt32 :=
  match Number.readWord s with
  | .ok n => .ok n.toUInt32
  | .error f => .error ("invalid number " ++ Quoted.quote s ++ ": " ++ f.message)

/-- An octal mode. -/
def readMode (s : String) : Except String Nat :=
  match Number.readMode s with
  | .ok n => .ok n
  | .error f => .error ("invalid octal mode " ++ Quoted.quote s ++ ": " ++ f.message)

/-- Checks a value by the slot it is for. -/
def checkValue (slot v : String) : Option ValueFault :=
  let refused {α : Type} : Except String α → Option ValueFault
    | .ok _ => none
    | .error r => some (.invalid r)
  if slot = "variable" then refused (readKey v)
  else if slot = "attributes" then refused (readAttributes v)
  else if slot = "mode" then refused (readMode v)
  else if slot = "value" then none
  else if v.isEmpty then some .empty
  else none

/-! ## §4. Invocations -/

/-- Where a write's payload comes from. -/
inductive Payload where
  | file (p : Path)
  | inline (text : String)
  deriving DecidableEq

/-- What one run does. -/
inductive Command where
  | probe
  | list
  | get (k : VarKey) (output : Option Path)
  | size (k : VarKey)
  | attrs (k : VarKey)
  | set (k : VarKey) (attributes : UInt32) (mode : Nat) (payload : Payload)
  | append (k : VarKey) (attributes : UInt32) (payload : Payload)
  | delete (k : VarKey)
  | chmod (k : VarKey) (mode : Nat)
  | save (k : VarKey) (file : Path)
  | restore (file : Path) (mode : Nat)
  deriving DecidableEq

/-- One run: the mount root given on the line, if any, and the command. -/
structure Invocation where
  root : Option Path
  command : Command
  deriving DecidableEq

/-- The typed values of a subcommand's checked line. -/
structure Given where
  values : List (String × String)

namespace Given

/-- The raw value given for a slot. -/
def raw? (g : Given) (slot : String) : Option String := (g.values.find? (·.1 == slot)).map (·.2)

/-- A value that validation guarantees, read with `f`. -/
def need {α : Type} (g : Given) (slot : String) (f : String → Except String α) :
    Except Refusal α :=
  match g.raw? slot with
  | none => .error (.requiredMissing [slot])
  | some v =>
    match f v with
    | .ok a => .ok a
    | .error r => .error (.invalidValue v slot r)

/-- A value with a default, read with `f`. -/
def withDefault {α : Type} (g : Given) (slot dflt : String) (f : String → Except String α) :
    Except Refusal α :=
  need ⟨g.values ++ [(slot, dflt)]⟩ slot f

/-- A path. -/
def path (g : Given) (slot : String) : Except Refusal Path :=
  g.need slot fun s => .ok (Path.ofString s)

/-- The payload of a write. -/
def payload (g : Given) : Except Refusal Payload :=
  match g.raw? "data_file", g.raw? "value" with
  | some p, _ => .ok (.file (Path.ofString p))
  | none, some v => .ok (.inline v)
  | none, none => .error (.requiredMissing [])

end Given

/-- The command a checked subcommand line asks for. -/
def Command.ofGiven (name : String) (g : Given) : Except Refusal Command :=
  let key := g.need "variable" readKey
  if name = "probe" then .ok .probe
  else if name = "list" then .ok .list
  else if name = "get" then
    return .get (← key) ((g.raw? "output").map Path.ofString)
  else if name = "size" then return .size (← key)
  else if name = "attrs" then return .attrs (← key)
  else if name = "set" then
    return .set (← key) (← g.withDefault "attributes" "0x7" readAttributes)
      (← g.withDefault "mode" "644" readMode) (← g.payload)
  else if name = "append" then
    return .append (← key) (← g.withDefault "attributes" "0x7" readAttributes) (← g.payload)
  else if name = "delete" then return .delete (← key)
  else if name = "chmod" then return .chmod (← key) (← g.need "mode" readMode)
  else if name = "export" then return .save (← key) (← g.path "file")
  else if name = "import" then
    return .restore (← g.path "file") (← g.withDefault "mode" "644" readMode)
  else .error (.unrecognizedCommand name)

/-- Reads a command line. The root given after the subcommand wins over one given before. -/
def read (words : List String) : Except Rejection Invocation := do
  let parsed ← parse checkValue program commands words
  let command ← (Command.ofGiven parsed.command.name ⟨parsed.values⟩).mapError
    (⟨some parsed.command.name, ·⟩)
  let root := match (Given.raw? ⟨parsed.values⟩ "root"), (Given.raw? ⟨parsed.top⟩ "root") with
    | some r, _ => some r
    | none, r => r
  pure ⟨root.map Path.ofString, command⟩

end Cli

end FirmwareVars
