import HostStatus.Text.Alphanumeric

/-!
# Values in an environment file

A value is text, some of it quoted. In single quotation marks everything stands for itself.
Elsewhere a backslash escapes a few characters, and a dollar sign stands before the name of a
variable, which is replaced by its value; the name ends before the first character that is not
alphanumeric, or is enclosed in braces. White space outside quotations ends the value.
-/

namespace HostStatus.EnvFile.Value

/-- Where the reading of a value stands; `quoted` says whether double quotation marks are open. -/
inductive Mode where
  | plain (quoted : Bool)
  | escape (quoted : Bool)
  | strong
  | name (quoted : Bool) (name : List Char)
  | braced (quoted : Bool) (name : List Char)
  | ended

def escaped? : Char → Option Char
  | '\\' => some '\\'
  | '\'' => some '\''
  | '"' => some '"'
  | '$' => some '$'
  | ' ' => some ' '
  | 'n' => some '\n'
  | _ => none

variable (lookup : String → Option String)

/-- The value of a variable; one that is not set is empty. -/
def substitute (name : List Char) : List Char :=
  ((lookup (String.ofList name)).getD "").toList

/-- Puts characters in front of a value that was read. -/
def before (cs : List Char) : Option (List Char) → Option (List Char) :=
  Option.map (cs ++ ·)

/-- The value in what follows. -/
def readFrom : Mode → List Char → Option (List Char)
  | .plain quoted, [] | .escape quoted, [] => if quoted then none else some []
  | .name quoted name, [] => if quoted then none else some (substitute lookup name)
  | .strong, [] | .braced _ _, [] => none
  | .ended, [] => some []
  | .plain quoted, c :: cs =>
    if c = '$' then readFrom (.name quoted []) cs
    else if c = '\\' then readFrom (.escape quoted) cs
    else if c = '"' then readFrom (.plain !quoted) cs
    else if quoted then before [c] (readFrom (.plain true) cs)
    else if c = '\'' then readFrom .strong cs
    else if c = ' ' ∨ c = '\t' then readFrom .ended cs
    else before [c] (readFrom (.plain false) cs)
  | .escape quoted, c :: cs =>
    match escaped? c with
    | some e => before [e] (readFrom (.plain quoted) cs)
    | none => none
  | .strong, c :: cs =>
    if c = '\'' then readFrom (.plain false) cs else before [c] (readFrom .strong cs)
  | .name quoted name, c :: cs =>
    if Text.isAlphanumeric c then readFrom (.name quoted (name ++ [c])) cs
    else if c = '{' ∧ name = [] then readFrom (.braced quoted []) cs
    else if c = '$' then before (substitute lookup name) (readFrom (.name quoted []) cs)
    else before (substitute lookup name ++ [c]) (readFrom (.plain quoted) cs)
  | .braced quoted name, c :: cs =>
    if c = '}' then before (substitute lookup name) (readFrom (.plain quoted) cs)
    else readFrom (.braced quoted (name ++ [c])) cs
  | .ended, c :: cs =>
    if c = ' ' ∨ c = '\t' then readFrom .ended cs
    else if c = '#' then some []
    else none

def read? (cs : List Char) : Option String :=
  (readFrom lookup (.plain false) cs).map String.ofList

end HostStatus.EnvFile.Value
