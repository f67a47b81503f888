import HostStatus.Json.Scan

/-!
# Passing over a JSON value

A value that nobody asks for is passed over, however deep it is; only its form is checked. A
numeral may be beyond all numbers, and one that breaks off is malformed.
-/

namespace HostStatus.Json

def skipNumeral (cs : List Char) : Except ReadError (List Char) :=
  match scanNumeral cs with
  | .ok (_, rest) => .ok rest
  | .error _ => .error .malformed

/-- What follows the colon after a key. -/
def skipColon (cs : List Char) : Except ReadError (List Char) :=
  match skipBlank cs with
  | [] => .error .unfinished
  | ':' :: rest => .ok rest
  | _ => .error .malformed

mutual

/-- Looks no deeper than `fuel`. -/
def skipValueTo : (fuel : Nat) → List Char → Except ReadError (List Char)
  | 0, _ => .error .malformed
  | fuel + 1, cs =>
    match skipBlank cs with
    | [] => .error .unfinished
    | 'n' :: rest => scanWord "ull".toList rest
    | 't' :: rest => scanWord "rue".toList rest
    | 'f' :: rest => scanWord "alse".toList rest
    | '"' :: rest => skipString rest
    | '[' :: rest =>
      match skipBlank rest with
      | [] => .error .unfinished
      | ']' :: rest => .ok rest
      | rest => skipItems fuel rest
    | '{' :: rest =>
      match skipBlank rest with
      | [] => .error .unfinished
      | '}' :: rest => .ok rest
      | rest => skipMembers fuel rest
    | c :: rest => if c = '-' ∨ c.isDigit then skipNumeral (c :: rest) else .error .malformed

/-- At least one item, and the closing bracket. -/
def skipItems : (fuel : Nat) → List Char → Except ReadError (List Char)
  | 0, _ => .error .malformed
  | fuel + 1, cs => do
    let cs ← skipValueTo fuel cs
    match skipBlank cs with
    | [] => .error .unfinished
    | ']' :: rest => .ok rest
    | ',' :: rest => skipItems fuel rest
    | _ => .error .malformed

/-- At least one member, and the closing brace. -/
def skipMembers : (fuel : Nat) → List Char → Except ReadError (List Char)
  | 0, _ => .error .malformed
  | fuel + 1, cs =>
    match skipBlank cs with
    | [] => .error .unfinished
    | '"' :: rest => do
      let cs ← skipString rest
      let cs ← skipColon cs
      let cs ← skipValueTo fuel cs
      match skipBlank cs with
      | [] => .error .unfinished
      | '}' :: rest => .ok rest
      | ',' :: rest => skipMembers fuel rest
      | _ => .error .malformed
    | _ => .error .malformed

end

/-- No text is deeper than twice its length. -/
def skipValue (cs : List Char) : Except ReadError (List Char) :=
  skipValueTo (2 * cs.length + 2) cs

end HostStatus.Json
