import FirmwareVars.Guid
import FirmwareVars.Error
import FirmwareVars.Text.Utf8

/-!
# Variable keys

A variable is addressed by its namespace GUID and its name. Its file is called
`{name}-{guid}`, the GUID in lowercase hyphenated text. A name may hold any character, hyphens
and slashes included, and at most 1024 bytes.

A file name reads back as a key when it ends in a hyphen and a hyphenated GUID (37 ASCII
characters, either case) after a non-empty name.
-/

namespace FirmwareVars

/-- The address of a variable: a namespace and a name. -/
structure VarKey where
  guid : Guid
  name : String
  deriving DecidableEq

namespace VarKey

/-- The longest name, in bytes. -/
def maxNameLen : Nat := 1024

/-- The file name `{name}-{guid}`. -/
def fileName (k : VarKey) : String := k.name ++ "-" ++ k.guid.text

instance : ToString VarKey := ⟨fileName⟩

/-- Refuses a name over 1024 bytes. -/
def validate (k : VarKey) : Except StoreError Unit :=
  let n := Utf8.size k.name
  if n > maxNameLen then .error (.invalidArgument (.nameTooLong n)) else .ok ()

/-- The key named `name` in the namespace written as `guid`, the zero namespace when none is
written; a text that is not a GUID is an invalid argument. -/
def ofParts (name : String) (guid : Option String) : Except StoreError VarKey :=
  match guid with
  | none => .ok ⟨.zero, name⟩
  | some t =>
    match Guid.parse t with
    | .ok g => .ok ⟨g, name⟩
    | .error e => .error (.invalidArgument (.guid e))

/-- The key a file name stands for, if it is `{name}-{guid}` with a non-empty name. -/
def ofFileName? (s : String) : Option VarKey :=
  let cs := s.toList
  if cs.length < 37 then none
  else
    let name := cs.take (cs.length - 37)
    match cs.drop (cs.length - 37) with
    | '-' :: guid =>
      if name.isEmpty then none
      else (Guid.ofHyphenated? guid).map fun g => ⟨g, String.ofList name⟩
    | _ => none

end VarKey

end FirmwareVars
