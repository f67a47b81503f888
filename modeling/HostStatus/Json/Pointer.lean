import HostStatus.Json.Basic

/-!
# Pointers into JSON values

A pointer is empty or a list of steps, each behind a slash. A step is a key of an object or a
position in an array; in it `~1` stands for a slash and `~0` for a tilde.
-/

namespace HostStatus.Json

def unescapeStep : List Char → List Char
  | '~' :: '1' :: cs => '/' :: unescapeStep cs
  | '~' :: '0' :: cs => '~' :: unescapeStep cs
  | c :: cs => c :: unescapeStep cs
  | [] => []

/-- Positions have no superfluous zeros. -/
def position? (step : List Char) : Option Nat :=
  match step with
  | [] => none
  | ['0'] => some 0
  | '0' :: _ => none
  | cs => if cs.all Char.isDigit then some (Nat.ofDigitChars 10 cs 0) else none

def child? (j : Json) (step : List Char) : Option Json :=
  match j with
  | object members => members.lookup (String.ofList step)
  | array items => (position? step).bind (items[·]?)
  | _ => none

/-- The steps of a pointer. -/
def steps? (pointer : String) : Option (List (List Char)) :=
  match pointer.toList with
  | [] => some []
  | '/' :: cs => some ((cs.splitOn '/').map unescapeStep)
  | _ => none

def at? (j : Json) (pointer : String) : Option Json := do
  (← steps? pointer).foldlM child? j

end HostStatus.Json
