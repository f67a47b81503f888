import HostStatus.Text.Utf8

/-!
# The environment

An environment is a list of entries, each of which has the name of a variable in front of an
equals sign and its value behind. A variable is looked up by its name and that sign at the start of
an entry, and the first entry counts, so a name that itself has an equals sign finds the rest of a
value. Values are bytes, and one whose bytes are not text reads as if it were unset.
-/

namespace HostStatus

structure Environment where
  entries : List Text.Bytes

namespace Environment

/-- What the entries of a variable begin with. -/
def start (name : String) : Text.Bytes :=
  Text.toUtf8 (name ++ "=")

def entry (name : String) (value : Text.Bytes) : Text.Bytes :=
  start name ++ value

/-- What stands in an entry behind the name; no variable has an empty one. -/
def valueIn? (name : String) (entry : Text.Bytes) : Option Text.Bytes :=
  if name ≠ "" ∧ (start name).isPrefixOf entry = true then
    some (entry.drop (start name).length)
  else none

def bytes? (env : Environment) (name : String) : Option Text.Bytes :=
  env.entries.findSome? (valueIn? name)

def get? (env : Environment) (name : String) : Option String :=
  (env.bytes? name).bind Text.ofUtf8?

/-- Replaces the first entry of a variable, or adds one. -/
def set (env : Environment) (name value : String) : Environment :=
  let new := entry name (Text.toUtf8 value)
  match env.entries.span (fun e => (valueIn? name e).isNone) with
  | (entries, []) => ⟨entries ++ [new]⟩
  | (before, _ :: after) => ⟨before ++ new :: after⟩

/-- Leaves a variable alone that reads as set. -/
def setUnset (env : Environment) (name value : String) : Environment :=
  if (env.get? name).isSome then env else env.set name value

end Environment

end HostStatus
