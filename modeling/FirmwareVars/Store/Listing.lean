import FirmwareVars.Store.Basic

/-!
# Listing variables

The keys of a store are the names in its root that read back as keys (`VarKey.ofFileName?`);
names that are not UTF-8, staging files and anything else are passed over. They are listed in
the byte order of their file names, where a GUID is always written in lowercase. The key after
another is the first one listed whose file name is strictly greater.

-/

namespace FirmwareVars

namespace VarKey

/-- The bytes of a key's file name, the order keys are listed in. -/
def orderKey (k : VarKey) : Bytes := Utf8.encode k.fileName

/-- Whether `a` is listed no later than `b`. -/
def listedBefore (a b : VarKey) : Bool := Bytes.lexLe a.orderKey b.orderKey

end VarKey

/-- The keys a directory's names stand for, in listing order. -/
def keysOfNames (names : List Bytes) : List VarKey :=
  let keys := names.filterMap fun n =>
    match Utf8.decode n with
    | .ok s => VarKey.ofFileName? s
    | .error _ => none
  keys.mergeSort VarKey.listedBefore

/-- The key listed after `after`, or the first key when there is none. -/
def nextKey (keys : List VarKey) : Option VarKey → Option VarKey
  | none => keys.head?
  | some a => keys.find? fun k => !k.listedBefore a

namespace Store

open StoreM

/-- Every key in the store, in listing order. -/
def keys : StoreM (List VarKey) := do
  let root := (← StoreM.config).root
  let names ← call "read_dir" root (Sys.readDir root)
  pure (keysOfNames names)

/-- The key after `after` (the first key for none), or none at the end. -/
def next (after : Option VarKey) : StoreM (Option VarKey) := do
  return nextKey (← keys) after

/-- Repeats `next` from `after`, at most `fuel` times, and lists what it found. -/
def walkFrom : Nat → Option VarKey → StoreM (List VarKey)
  | 0, _ => pure []
  | fuel + 1, after => do
    match ← next after with
    | none => pure []
    | some k => return k :: (← walkFrom fuel (some k))

/-- Every key, found by repeating `next` from the start until it finds none. Each step lists
the root again; one step more than there are keys is always enough. -/
def walk : StoreM (List VarKey) := do
  let n := (← keys).length
  walkFrom (n + 1) none

/-- Every key in the store, listed once. -/
def names : StoreM (List VarKey) := keys

end Store

end FirmwareVars
