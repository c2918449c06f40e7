import FirmwareVars.Key
import FirmwareVars.Fs.Tree

/-!
# Store configuration

A store is told where its variables live (an explicit root that overrides a default one), which
filesystem magic marks the real variable filesystem, how long a path may be, how reads are
paced, which mode an appending create uses, and where the persistence copy goes.

The root is the override if there is one, else the default. A variable's path is the root
joined with its file name, and it must be shorter than the path limit, which counts the
terminating NUL of the system call.

Main statement: `buildPath_ok_iff`, a path is built exactly when it fits under the limit.
-/

namespace FirmwareVars

/-- Where the persistence copy reads and writes: the namespace of its two control variables,
their names, the mount points searched in order, and the longest target name. -/
structure PersistSpec where
  space : Guid
  fileNameVar : String
  payloadVar : String
  mountPoints : List Path
  maxFileNameLen : Nat

namespace PersistSpec

/-- The namespace of the two control variables. -/
def defaultSpace : Guid :=
  Guid.ofFields 0xb2ac5fc9 0x92b7 0x4acd [0xae, 0xac, 0x11, 0xe8, 0x18, 0xc3, 0x13, 0x0c]

/-- The usual control variables, the conventional ESP mount points, and a name limit of a
quarter of the system path limit. -/
def default : PersistSpec where
  space := defaultSpace
  fileNameVar := "RTStorageVolatile"
  payloadVar := "VarToFile"
  mountPoints := ["/boot/efi/", "/boot/", "/efi/"]
  maxFileNameLen := 1024

/-- The variable whose payload names the target file. -/
def fileNameKey (p : PersistSpec) : VarKey := ⟨p.space, p.fileNameVar⟩

/-- The variable whose payload is copied. -/
def payloadKey (p : PersistSpec) : VarKey := ⟨p.space, p.payloadVar⟩

end PersistSpec

/-- How reads are paced: by privilege, always by a fixed delay in milliseconds, or never. -/
inductive Pacing where
  | auto
  | fixed (ms : Nat)
  | disabled
  deriving DecidableEq

/-- The delay before one read, in milliseconds; only an unprivileged caller waits under
`auto`, and a fixed delay of zero is no delay. -/
def Pacing.delay (privileged : Bool) : Pacing → Option Nat
  | .auto => if privileged then none else some 10
  | .fixed 0 => none
  | .fixed ms => some ms
  | .disabled => none

/-- Everything a store is told when it is built. -/
structure Config where
  rootOverride : Option Path
  defaultRoot : Path
  fsMagic : FsMagic
  pathMax : Nat
  pacing : Pacing
  appendMode : Nat
  persist : Option PersistSpec

namespace Config

/-- The magic the variable filesystem reports. -/
def varfsMagic : FsMagic := .word 0xde5e81e4

/-- No override, the usual mount root, the system path limit, paced reads, appends created
with mode 0644, and the persistence copy on. -/
def default : Config where
  rootOverride := none
  defaultRoot := "/sys/firmware/efi/efivars/"
  fsMagic := varfsMagic
  pathMax := 4096
  pacing := .auto
  appendMode := 0o644
  persist := some PersistSpec.default

/-- The defaults with the override taken from the environment's value, if it is set. -/
def fromEnv (env : Option String) : Config :=
  { default with rootOverride := env.map Path.ofString }

/-- The root: the override if there is one, else the default. -/
def root (c : Config) : Path := c.rootOverride.getD c.defaultRoot

/-- Whether the override names the root, that is, whether there is an override. -/
def isOverrideRoot (c : Config) : Bool := c.rootOverride.isSome

/-- The path of a variable's file, refused when it does not fit under the limit. -/
def buildPath (c : Config) (k : VarKey) : Except StoreError Path :=
  let p := c.root.join (Path.ofString k.fileName)
  if p.bytes.length ≥ c.pathMax then .error (.pathTooLong p.bytes.length (c.pathMax - 1))
  else .ok p

theorem buildPath_ok_iff (c : Config) (k : VarKey) (p : Path) :
    c.buildPath k = .ok p ↔
      p = c.root.join (Path.ofString k.fileName) ∧ p.bytes.length < c.pathMax := by
  simp only [buildPath]
  by_cases h : (c.root.join (Path.ofString k.fileName)).bytes.length ≥ c.pathMax
  · simp only [h, if_true]
    constructor
    · intro e; cases e
    · rintro ⟨rfl, h'⟩; omega
  · simp only [h, if_false]
    constructor
    · intro e; cases e; exact ⟨rfl, by omega⟩
    · rintro ⟨rfl, _⟩; rfl

end Config

end FirmwareVars
