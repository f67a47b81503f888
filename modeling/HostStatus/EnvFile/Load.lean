import HostStatus.EnvFile.Line
import HostStatus.EnvFile.Value
import HostStatus.Environment

/-!
# Loading an environment file

The assignments of a file are made one after the other, each seen by those after it, up to the
first line that is not well formed. A variable that is already set keeps its value, so of several
assignments the first counts.
-/

namespace HostStatus.EnvFile

inductive Statement where
  | nothing
  | assign (name value : String)
  | malformed
  deriving DecidableEq

def isNameStart (c : Char) : Bool :=
  c.isAlpha || c = '_'

def isNameChar (c : Char) : Bool :=
  c.isAlphanum || c = '_' || c = '.'

/-- A name and what follows it and its white space. -/
def takeName? (cs : List Char) : Option (List Char × List Char) :=
  match cs with
  | [] => none
  | c :: _ =>
    if isNameStart c then some (cs.takeWhile isNameChar, Text.trimStart (cs.dropWhile isNameChar))
    else none

def takeEquals? (cs : List Char) : Option (List Char) :=
  match cs with
  | '=' :: cs => some cs
  | _ => none

/-- The name that is assigned to, behind the word `export` or not, and what follows the sign. The
word is itself a name where the sign follows it. -/
def takeTarget? (cs : List Char) : Option (List Char × List Char) := do
  let (name, rest) ← takeName? cs
  match takeEquals? rest with
  | some rest => pure (name, rest)
  | none =>
    if name = "export".toList then
      let (name, rest) ← takeName? rest
      pure (name, ← takeEquals? rest)
    else none

def Statement.ofLine (lookup : String → Option String) (line : List Char) : Statement :=
  let isOver (cs : List Char) : Bool := cs.isEmpty || cs.head? = some '#'
  let line := Text.trimStart (Text.trimEnd line)
  if isOver line then nothing
  else
    match takeTarget? line with
    | none => malformed
    | some (name, rest) =>
      let rest := Text.trimStart rest
      if isOver rest then assign (String.ofList name) ""
      else
        match Value.read? lookup rest with
        | some value => assign (String.ofList name) value
        | none => malformed

def loadLines (env : Environment) : List Line → Environment
  | [] => env
  | .unfinished :: _ => env
  | .text line :: lines =>
    match Statement.ofLine env.get? line with
    | .nothing => loadLines env lines
    | .assign name value => loadLines (env.setUnset name value) lines
    | .malformed => env

/-- The first assignment that is made with a value no entry can hold, since a zero ends it. -/
def unfit? (env : Environment) : List Line → Option (String × String)
  | [] => none
  | .unfinished :: _ => none
  | .text line :: lines =>
    match Statement.ofLine env.get? line with
    | .nothing => unfit? env lines
    | .assign name value =>
      if env.get? name = none ∧ '\x00' ∈ value.toList then some (name, value)
      else unfit? (env.setUnset name value) lines
    | .malformed => none

def load (text : String) (env : Environment) : Environment :=
  loadLines env (lines text)

end HostStatus.EnvFile
