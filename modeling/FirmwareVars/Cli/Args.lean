import FirmwareVars.Bytes

/-!
# Command lines

A command line is read against a description of the program: its top command with options
and subcommands, and for each subcommand its options, its positionals (all required) and at
most one group of options of which exactly one must be given.

The words are read left to right:

* A word that is no option is the value an option waits for, whatever it says.
* Otherwise a subcommand's name ends the top command's words; the rest belong to the
  subcommand. The name `help` asks for the help of the subcommand named after it.
* `--` makes every later word a positional; a subcommand's name there is refused as an
  unexpected word.
* `--name` and `--name=value` are long options; `-abc` is a cluster of short ones, where an
  option that takes a value takes the rest of the cluster (less one leading `=`).
* Any other word is the next positional.

A value is only checked when the next option or positional starts, or at the end; so an option
still waiting for its value when another option starts has none. An option given twice, a value
its checker refuses are refused then; a word that fits nowhere is refused at once. After the
last word come the checks of the whole line: two options of the group, then a missing
positional or group. A subcommand's line is read and checked before the value still pending in
the top command's words.
-/

namespace FirmwareVars

namespace Cli

/-- What an option is. -/
inductive OptKind where
  /-- It takes one value, shown as `<placeholder>`. -/
  | value (placeholder : String)
  /-- It asks for help. -/
  | help
  /-- It asks for the version. -/
  | version
  deriving DecidableEq

/-- An option of a command. -/
structure Opt where
  id : String
  short : Option Char
  long : String
  kind : OptKind
  about : String
  default : Option String
  deriving DecidableEq

/-- A required positional argument. -/
structure Positional where
  id : String
  placeholder : String
  about : String
  deriving DecidableEq

/-- A command: its name, what it does, its options, its positionals and the group of options
of which exactly one must be given (empty for none). -/
structure Cmd where
  name : String
  about : String
  options : List Opt
  positionals : List Positional
  oneOf : List String
  deriving DecidableEq

/-- How an option is shown in messages: `--long <VALUE>` or `--long`. -/
def Opt.display (o : Opt) : String :=
  match o.kind with
  | .value p => "--" ++ o.long ++ " <" ++ p ++ ">"
  | _ => "--" ++ o.long

/-- How a positional is shown in messages. -/
def Positional.display (p : Positional) : String := "<" ++ p.placeholder ++ ">"

/-- Something that holds a value: an option or a positional. -/
inductive Slot where
  | opt (o : Opt)
  | pos (p : Positional)

/-- The identifier of a slot. -/
def Slot.id : Slot → String
  | .opt o => o.id
  | .pos p => p.id

/-- How a slot is shown in messages. -/
def Slot.display : Slot → String
  | .opt o => o.display
  | .pos p => p.display

/-- Why a value is refused. -/
inductive ValueFault where
  /-- The value is empty where that is not allowed. -/
  | empty
  /-- The value is malformed; the text says how. -/
  | invalid (reason : String)

/-- Why a command line is not carried out. -/
inductive Refusal where
  | unexpected (word : String)
  | unrecognizedCommand (name : String)
  | commandMissing (program : String)
  | invalidValue (value slot reason : String)
  | valueMissing (slot : String)
  | repeated (slot : String)
  | conflict (first second : String)
  | requiredMissing (missing : List String)
  | unneededValue (value slot : String)
  /-- Help was asked for: of the named subcommand, or (none) of the command being read. -/
  | help (command : Option String)
  /-- Nothing was given at all: the help goes to the error stream. -/
  | helpInstead
  | version
  deriving DecidableEq

/-- The first line of the error message of a refusal; help and version have none. -/
def Refusal.headline : Refusal → String
  | .unexpected w => "error: unexpected argument '" ++ w ++ "' found"
  | .unrecognizedCommand n => "error: unrecognized subcommand '" ++ n ++ "'"
  | .commandMissing p => "error: '" ++ p ++ "' requires a subcommand but one was not provided"
  | .invalidValue v s r => "error: invalid value '" ++ v ++ "' for '" ++ s ++ "': " ++ r
  | .valueMissing s => "error: a value is required for '" ++ s ++ "' but none was supplied"
  | .repeated s => "error: the argument '" ++ s ++ "' cannot be used multiple times"
  | .conflict a b => "error: the argument '" ++ a ++ "' cannot be used with '" ++ b ++ "'"
  | .requiredMissing _ => "error: the following required arguments were not provided:"
  | .unneededValue v s => "error: unexpected value '" ++ v ++ "' for '" ++ s ++
      "' found; no more were expected"
  | _ => ""

/-- How far the reading of one command's words has come. -/
structure Scan where
  /-- Checked values by slot, in the order they were checked. -/
  matched : List (String × String)
  /-- The slot whose values are not checked yet. -/
  pending : Option (Slot × List String)
  /-- How many positionals are taken. -/
  taken : Nat
  /-- Whether `--` was seen. -/
  trailing : Bool
  /-- Whether the pending option still waits for its value. -/
  waiting : Bool

/-- Nothing read yet. -/
def Scan.start : Scan := ⟨[], none, 0, false, false⟩

/-- Checks a slot's values and records them. -/
def takeValues (check : String → String → Option ValueFault) (st : Scan) (slot : Slot)
    (vals : List String) : Except Refusal Scan :=
  match vals with
  | [] => .error (.valueMissing slot.display)
  | v :: _ =>
    if st.matched.any (·.1 == slot.id) then .error (.repeated slot.display)
    else
      match check slot.id v with
      | some .empty => .error (.valueMissing slot.display)
      | some (.invalid r) => .error (.invalidValue v slot.display r)
      | none => .ok { st with matched := st.matched ++ [(slot.id, v)] }

/-- Checks the pending values, if any. -/
def resolve (check : String → String → Option ValueFault) (st : Scan) : Except Refusal Scan :=
  match st.pending with
  | none => .ok st
  | some (slot, vals) => takeValues check { st with pending := none, waiting := false } slot vals

/-- Starts an option: a switch acts at once, a value option takes an attached value at once or
waits for the next word. -/
def startOpt (check : String → String → Option ValueFault) (st : Scan) (o : Opt)
    (attached : Option String) : Except Refusal Scan := do
  match o.kind with
  | .help | .version =>
    match attached with
    | some v => .error (.unneededValue v o.display)
    | none =>
      let _ ← resolve check st
      .error (if o.kind = .help then .help none else .version)
  | .value _ =>
    let st ← resolve check st
    match attached with
    | some v => takeValues check st (.opt o) [v]
    | none => .ok { st with pending := some (.opt o, []), waiting := true }

/-- Reads a cluster of short options after its `-`. -/
def shortCluster (check : String → String → Option ValueFault) (cmd : Cmd) :
    Scan → List Char → Except Refusal Scan
  | st, [] => .ok st
  | st, c :: rest =>
    match cmd.options.find? (·.short == some c) with
    | none => .error (.unexpected ("-" ++ String.singleton c))
    | some o =>
      match o.kind with
      | .value _ =>
        let attached := match rest with
          | [] => none
          | '=' :: v => some (String.ofList v)
          | v => some (String.ofList v)
        startOpt check st o attached
      | _ => do
        let st ← startOpt check st o none
        shortCluster check cmd st rest

/-- Reads a long option after its `--`. -/
def longOption (check : String → String → Option ValueFault) (cmd : Cmd) (st : Scan)
    (body : String) : Except Refusal Scan :=
  let cs := body.toList
  let name := String.ofList (cs.takeWhile (· != '='))
  let attached := match cs.dropWhile (· != '=') with
    | '=' :: v => some (String.ofList v)
    | _ => none
  match cmd.options.find? (·.long == name) with
  | none => .error (.unexpected ("--" ++ name))
  | some o => startOpt check st o attached

/-- What reading a command's words ended with: the scan, and the subcommand that takes over
with the words after its name. -/
abbrev Reading := Scan × Option (Cmd × List String)

/-- The help asked for by the words after `help`. -/
def helpFor (subs : List Cmd) : List String → Refusal
  | [] => .help none
  | name :: rest =>
    if name == "help" then
      match rest with
      | [] => .help (some "help")
      | w :: _ => .unrecognizedCommand w
    else
      match subs.find? (·.name == name) with
      | none => .unrecognizedCommand name
      | some c =>
        match rest with
        | [] => .help (some c.name)
        | w :: _ => .unrecognizedCommand w

/-- A word that is no option: the value an option waits for, or the next positional. -/
def valueWord (check : String → String → Option ValueFault) (cmd : Cmd) (subs : List Cmd)
    (st : Scan) (w : String) : Except Refusal Scan :=
  if st.waiting && !st.trailing then
    match st.pending with
    | some (slot, vals) => .ok { st with pending := some (slot, vals ++ [w]), waiting := false }
    | none => .ok { st with waiting := false }
  else
    match cmd.positionals[st.taken]? with
    | some p => do
      let st ← resolve check st
      .ok { st with pending := some (.pos p, [w]), taken := st.taken + 1 }
    | none =>
      if subs.isEmpty then .error (.unexpected w)
      else if st.trailing && (w == "help" || subs.any (·.name == w)) then .error (.unexpected w)
      else .error (.unrecognizedCommand w)

/-- Reads a command's words until they end or a subcommand takes over. -/
def scanWords (check : String → String → Option ValueFault) (cmd : Cmd) (subs : List Cmd) :
    Scan → List String → Except Refusal Reading
  | st, [] => do
    let st ← resolve check st
    .ok (st, none)
  | st, w :: rest =>
    if st.trailing then do
      let st ← valueWord check cmd subs st w
      scanWords check cmd subs st rest
    else if w == "--" then scanWords check cmd subs { st with trailing := true } rest
    else if w.startsWith "--" then do
      let st ← longOption check cmd st (String.ofList (w.toList.drop 2))
      scanWords check cmd subs st rest
    else if w.startsWith "-" && w.length > 1 then do
      let st ← shortCluster check cmd st (w.toList.drop 1)
      scanWords check cmd subs st rest
    else if st.waiting then do
      let st ← valueWord check cmd subs st w
      scanWords check cmd subs st rest
    else if !subs.isEmpty && w == "help" then .error (helpFor subs rest)
    else
      match subs.find? (·.name == w) with
      | some c => .ok (st, some (c, rest))
      | none => do
        let st ← valueWord check cmd subs st w
        scanWords check cmd subs st rest

/-- The checks of a whole subcommand line: two options of its group, then anything required
that is missing. -/
def validate (cmd : Cmd) (st : Scan) : Except Refusal Unit := do
  let given := st.matched.map (·.1)
  let grouped := given.filter (cmd.oneOf.contains ·)
  match grouped with
  | a :: b :: _ =>
    let shown (id : String) : String :=
      match cmd.options.find? (·.id == id) with
      | some o => o.display
      | none => id
    throw (.conflict (shown a) (shown b))
  | _ => pure ()
  let groupShown := "<" ++ "|".intercalate ((cmd.options.filter (cmd.oneOf.contains ·.id)).map
    Opt.display) ++ ">"
  let missingGroup := if !cmd.oneOf.isEmpty && grouped.isEmpty then [groupShown] else []
  let missingPos := (cmd.positionals.filter fun p => !given.contains p.id).map Positional.display
  if !(missingGroup ++ missingPos).isEmpty then throw (.requiredMissing (missingGroup ++ missingPos))

/-- A refused command line, with the subcommand whose words were being read (none for the top
command). -/
structure Rejection where
  command : Option String
  refusal : Refusal
  deriving DecidableEq

/-- What a command line asked for: the top command's values, the subcommand and its values. -/
structure Parsed where
  top : List (String × String)
  command : Cmd
  values : List (String × String)

/-- Reads a whole command line for a program with top command `top` and subcommands `subs`;
`check` checks a value by the identifier of its slot. -/
def parse (check : String → String → Option ValueFault) (top : Cmd) (subs : List Cmd)
    (words : List String) : Except Rejection Parsed := do
  let atTop {α : Type} (x : Except Refusal α) : Except Rejection α := x.mapError (⟨none, ·⟩)
  let (st, next) ← atTop (scanWords check top subs Scan.start words)
  match next with
  | none =>
    atTop (if st.matched.isEmpty then throw .helpInstead else throw (.commandMissing top.name))
  | some (c, rest) =>
    let inSub {α : Type} (x : Except Refusal α) : Except Rejection α :=
      x.mapError (⟨some c.name, ·⟩)
    let (sub, _) ← inSub (scanWords check c [] Scan.start rest)
    inSub (validate c sub)
    let st ← atTop (resolve check st)
    pure ⟨st.matched, c, sub.matched⟩

end Cli

end FirmwareVars
