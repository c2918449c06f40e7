import FirmwareVars.Fs.Path

/-!
# Diagnostics

Sub-steps that may fail without changing an operation's result (restoring a flag word, removing
a file after a failed create, the persistence copy, the probe) report what went wrong as a
diagnostic: the operation that was running, the kind of sub-step, the path if there is one, and
a detail text.
-/

namespace FirmwareVars

/-- The kind of sub-step that failed. -/
inductive DiagnosticKind where
  /-- The root is not usable: its filesystem type is wrong or cannot be read. -/
  | probeFailed
  /-- Reading a file's flag word failed. -/
  | queryFailed
  /-- Clearing the immutable bit was refused. -/
  | clearFailed
  /-- Putting the saved flag word back was refused. -/
  | restoreFailed
  /-- A file left by a failed create could not be removed. -/
  | rollbackFailed
  /-- The persistence copy was skipped. -/
  | persistSkipped
  deriving DecidableEq

/-- How a kind is named. -/
def DiagnosticKind.text : DiagnosticKind → String
  | .probeFailed => "probe failed"
  | .queryFailed => "immutable query failed"
  | .clearFailed => "immutable clear failed"
  | .restoreFailed => "immutable restore failed"
  | .rollbackFailed => "rollback failed"
  | .persistSkipped => "mirror unavailable"

/-- One failed sub-step. -/
structure Diagnostic where
  operation : String
  kind : DiagnosticKind
  path : Option Path
  detail : String
  deriving DecidableEq

/-- `{operation}: {kind}`, then ` ({path})` when there is one, then `: {detail}`. -/
def Diagnostic.text (d : Diagnostic) : String :=
  let place := match d.path with
    | some p => " (" ++ p.display ++ ")"
    | none => ""
  d.operation ++ ": " ++ d.kind.text ++ place ++ ": " ++ d.detail

end FirmwareVars
