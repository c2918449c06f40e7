import FirmwareVars.Config
import FirmwareVars.Record
import FirmwareVars.Sys.Basic

/-!
# Stores

A store is a configuration and two things it keeps on its own: whether its root is the variable
filesystem itself, decided the first time a write needs to know and kept from then on, and how
many staging names it has handed out, so that each new one carries a number of its own.

Store operations are programs of system calls that may fail with a `StoreError` and that carry
the store along (`StoreM`); a failure keeps what the store learnt before it. This module holds
the plumbing every operation shares: lifting a call whose error becomes a store error, running a
part and catching its error, reporting a diagnostic, and the path of a variable's file.
-/

namespace FirmwareVars

/-- A store: its configuration, the process number and the count of staging names handed out so
far (together they make every staging name unique), and whether its root is the variable
filesystem, once it has asked. -/
structure Store where
  config : Config
  process : Nat := 0
  stagingCount : Nat := 0
  varfsRoot : Option Bool := none

/-- A store operation: a program of system calls that carries the store and may fail. -/
abbrev StoreM := ExceptT StoreError (StateT Store Sys)

namespace StoreM

/-- Lifts a system call; its error becomes the store error for operation `op` on `p`. -/
def call {α : Type} (op : String) (p : Path) (x : Sys (Except OsError α)) : StoreM α := do
  match ← (x : StoreM (Except OsError α)) with
  | .ok a => pure a
  | .error e => throw (.ofOs op p e)

/-- Runs `x` and hands back its outcome instead of failing. -/
def attempt {α : Type} (x : StoreM α) : StoreM (Except StoreError α) :=
  ExceptT.lift x.run

/-- Reports a diagnostic. -/
def report (d : Diagnostic) : StoreM Unit :=
  (Sys.note (.diagnostic d) : StoreM Unit)

/-- The store's configuration. -/
def config : StoreM Config := do
  return (← get).config

/-- The path of a variable's file. -/
def buildPath (k : VarKey) : StoreM Path := do
  MonadExcept.ofExcept ((← config).buildPath k)

end StoreM

end FirmwareVars
