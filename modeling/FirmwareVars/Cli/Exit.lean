import FirmwareVars.Sys.Basic
import FirmwareVars.Text.Quoted

/-!
# How a run ends

A run ends with an exit code, the text it printed and the lines of its log on the error stream.

A log line is a level, the part of the program it comes from, and the message followed by its
fields as `name=value`. Text fields are quoted; a path is shown as `Some("…")` or `None`. The
control characters that steer a terminal are escaped in all of it; a line break is not, so one
log line may take several lines of the stream. The
store's notes become log lines: a diagnostic is a warning of the diagnostics part, and a failed
persistence copy is an error of the store part.
-/

namespace FirmwareVars

namespace Cli

/-- How a run ended. -/
structure Exit where
  code : Nat
  stdout : String
  stderr : List String
  deriving DecidableEq

/-- The level of a log line. -/
inductive Level where
  | error
  | warn
  | info
  deriving DecidableEq

/-- The name of a level as the log shows it. -/
def Level.text : Level → String
  | .error => "ERROR"
  | .warn => "WARN"
  | .info => "INFO"

/-- A control character as the log writes it, so that no text can steer a terminal: ESC, BEL,
BS, FF and DEL as `\xNN`, a C1 control (U+0080 to U+009F) as `\u{NN}`. Every other character,
the line breaks included, stands as itself. -/
def escapeControl (c : Char) : String :=
  if c == '\x1b' || c == '\x07' || c == '\x08' || c == '\x0c' || c == '\x7f' then
    "\\x" ++ hexPadded 2 c.toNat
  else if 0x80 ≤ c.toNat && c.toNat ≤ 0x9f then "\\u\x7b" ++ hexText c.toNat ++ "\x7d"
  else c.toString

/-- One log line: the message and its fields with their control characters escaped. -/
def logLine (level : Level) (part message : String) : String :=
  level.text ++ " " ++ part ++ ": " ++ String.join (message.toList.map escapeControl)

/-- A line of the program's own part. -/
def programLine (level : Level) (message : String) : String := logLine level "varstore" message

/-- How an optional path field is shown. -/
def pathField : Option Path → String
  | some p => "Some(" ++ Quoted.quotePath p.bytes ++ ")"
  | none => "None"

/-- The log line of a note. -/
def noteLine : Note → String
  | .diagnostic d =>
    logLine .warn "varstore::diagnostics"
      (d.detail ++ " operation=" ++ Quoted.quote d.operation ++ " kind=" ++ d.kind.text ++
        " path=" ++ pathField d.path)
  | .copyFailed op e =>
    logLine .error "varstore::store"
      ("persistence mirror failed mid-copy operation=" ++ Quoted.quote op ++ " error=" ++
        e.message)

end Cli

end FirmwareVars
