import FirmwareVars.Store.Basic

/-!
# Probing the root

The store can be used when its root is the variable filesystem (its type is the configured
magic), or when the root was named explicitly, which lets other directories stand in for it.
Anything else is reported as the reason for a negative answer; the probe itself never fails.
-/

namespace FirmwareVars

namespace Store

open StoreM

/-- The name of this kind of store. -/
def backendName : String := "efivarfs"

/-- The directory the store keeps its variables in. -/
def root : StoreM Path := do
  return (← StoreM.config).root

/-- Whether the store can be used at its root. -/
def probe : StoreM Bool := do
  let c ← StoreM.config
  let root := c.root
  match ← (Sys.statfs root : StoreM _) with
  | .ok m =>
    if m == c.fsMagic then pure true
    else if c.isOverrideRoot then pure true
    else
      report ⟨"probe", .probeFailed, some root,
        "bad fs type 0x" ++ m.hex ++ " (expected 0x" ++ c.fsMagic.hex ++ ")"⟩
      pure false
  | .error e =>
    report ⟨"probe", .probeFailed, some root, "statfs failed: " ++ e.message⟩
    pure false

end Store

end FirmwareVars
