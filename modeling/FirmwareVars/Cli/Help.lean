import FirmwareVars.Cli.Commands
import FirmwareVars.Cli.Exit

/-!
# Help, version and refusals

The help of a command is its description, its usage line, and then its sections: the
subcommands, the positionals and the options, each entry in a column wide enough for the
section's longest entry plus two spaces. Options are listed by the order they were declared in
(the root first among equals, help and version last), ties broken by their short letter; an
option with a default shows it after its description.

A refused line prints its error, the usage of the command being read and a pointer to the help
on the error stream, and exits with code 2. Asked-for help and the version go to the output and
exit with 0; a line with nothing at all prints the help on the error stream instead.
-/

namespace FirmwareVars

namespace Cli

/-! ## §1. Columns -/

/-- `s` padded with spaces to `width` characters. -/
def padTo (width : Nat) (s : String) : String :=
  s ++ String.ofList (List.replicate (width - s.length) ' ')

/-- The lines of a section: each entry's left column padded to the longest plus two spaces,
then its description. -/
def columns (entries : List (String × String)) : List String :=
  let longest := entries.foldl (fun m e => max m e.1.length) 2
  entries.map fun (l, r) => "  " ++ padTo (longest + 2) l ++ r

/-! ## §2. Entries -/

/-- An option's description with its default. -/
def Opt.describe (o : Opt) : String :=
  match o.default with
  | none => o.about
  | some d => if o.about.isEmpty then "[default: " ++ d ++ "]" else o.about ++ " [default: " ++ d ++ "]"

/-- The options of a command in the order the help lists them. -/
def Cmd.listedOptions (c : Cmd) : List Opt :=
  let rank (i : Nat) (o : Opt) : Nat :=
    if o.id == "root" then 0
    else match o.kind with
      | .value _ => i
      | _ => 999
  let key (o : Opt) : String :=
    match o.short with
    | some ch => String.ofList [ch.toLower, if ch.isLower then '0' else '1']
    | none => o.long
  let ranked := (List.range c.options.length).zip c.options |>.map fun (i, o) => (rank i o, key o, o)
  (ranked.mergeSort fun a b => a.1 < b.1 || (a.1 == b.1 && decide (a.2.1 ≤ b.2.1))).map
    (·.2.2)

/-- The lines of the options section. The left column is measured without the short letter,
which every option has. -/
def optionLines (os : List Opt) : List String :=
  let longest := os.foldl (fun m o => max m o.display.length) 2
  os.map fun o =>
    let short := match o.short with
      | some ch => "-" ++ ch.toString ++ ", "
      | none => "    "
    "  " ++ short ++ padTo (longest + 2) o.display ++ o.describe

/-! ## §3. Usage and help -/

/-- The usage line of a subcommand. -/
def Cmd.usage (c : Cmd) : String :=
  let group := c.options.filter (c.oneOf.contains ·.id)
  let groupPart :=
    if group.isEmpty then "" else " <" ++ "|".intercalate (group.map Opt.display) ++ ">"
  program.name ++ " " ++ c.name ++ " [OPTIONS]" ++ groupPart ++
    String.join (c.positionals.map fun p => " " ++ p.display)

/-- The usage line of the top command. -/
def topUsage : String := program.name ++ " [OPTIONS] <COMMAND>"

/-- What the `help` subcommand says of itself. -/
def helpCommandAbout : String := "Print this message or the help of the given subcommand(s)"

/-- Sections joined by blank lines, then one final newline. -/
def sections (head : String) (parts : List (List String)) : String :=
  let body := parts.filter (!·.isEmpty) |>.map ("\n".intercalate ·)
  let text := "\n\n".intercalate (head :: body)
  String.ofList (text.toList.reverse.dropWhile (·.isWhitespace)).reverse ++ "\n"

/-- The help of the top command. -/
def topHelp : String :=
  sections (program.about ++ "\n\nUsage: " ++ topUsage)
    [ "Commands:" :: columns (commands.map (fun c => (c.name, c.about)) ++ [("help", helpCommandAbout)]),
      "Options:" :: optionLines program.listedOptions ]

/-- The help of a subcommand. -/
def Cmd.help (c : Cmd) : String :=
  sections (c.about ++ "\n\nUsage: " ++ c.usage)
    [ if c.positionals.isEmpty then [] else
        "Arguments:" :: columns (c.positionals.map fun p => (p.display, p.about)),
      "Options:" :: optionLines c.listedOptions ]

/-- The help of the `help` subcommand. -/
def helpCommandHelp : String :=
  sections (helpCommandAbout ++ "\n\nUsage: " ++ program.name ++ " help [COMMAND]...")
    [ "Arguments:" :: columns [("[COMMAND]...", "Print help for the subcommand(s)")] ]

/-- The help of the named command; none is the top command. -/
def helpOf : Option String → String
  | none => topHelp
  | some name =>
    if name == "help" then helpCommandHelp
    else match commands.find? (·.name == name) with
      | some c => c.help
      | none => topHelp

/-- The usage line of the named command; none is the top command. -/
def usageOf : Option String → String
  | none => topUsage
  | some name =>
    match commands.find? (·.name == name) with
    | some c => c.usage
    | none => topUsage

/-- What the version switch prints. -/
def versionText : String := program.name ++ " 0.1.0\n"

/-! ## §4. Refusals -/

/-- The lines that follow an error's first line before the usage. -/
def Refusal.details : Refusal → List String
  | .commandMissing _ =>
    ["  [subcommands: " ++ ", ".intercalate (commands.map (·.name) ++ ["help"]) ++ "]"]
  | .requiredMissing missing => missing.map ("  " ++ ·)
  | _ => []

/-- How a refused line ends. -/
def Rejection.exit (r : Rejection) : Exit :=
  match r.refusal with
  | .help target => ⟨0, helpOf (target.orElse fun _ => r.command), []⟩
  | .version => ⟨0, versionText, []⟩
  | .helpInstead => ⟨2, "", (topHelp.splitOn "\n").dropLast⟩
  | other =>
    ⟨2, "", other.headline :: other.details ++
      ["", "Usage: " ++ usageOf r.command, "", "For more information, try '--help'."]⟩

end Cli

end FirmwareVars
