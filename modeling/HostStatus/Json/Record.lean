import HostStatus.Json.Number
import HostStatus.Json.Skip

/-!
# Reading records

A record is read from an object, whose members may come in any order and among others, or from an
array of its fields in order of declaration. Fields are gathered in a draft. A member that names a
filled field is refused before its value is looked at; missing fields are found only at the end.
-/

namespace HostStatus.Json

/-- What stands at the front of a text. Arrays and objects are not looked into. -/
def scanFound (cs : List Char) : Except ReadError Found :=
  match cs with
  | 'n' :: rest => (scanWord "ull".toList rest).map fun _ => .null
  | 't' :: rest => (scanWord "rue".toList rest).map fun _ => .boolean true
  | 'f' :: rest => (scanWord "alse".toList rest).map fun _ => .boolean false
  | '"' :: rest => (scanString rest).map fun (s, _) => .string (String.ofList s)
  | '[' :: _ => .ok .array
  | '{' :: _ => .ok .object
  | c :: rest =>
    if c = '-' ∨ c.isDigit then (scanNumber (c :: rest)).map fun (n, _) => n.found
    else .error .malformed
  | [] => .error .unfinished

def refuse {α : Type} (expected : Expected) (cs : List Char) : Except ReadError α := do
  let found ← scanFound cs
  throw (.unfit (.wrongKind found expected))

def readString (cs : List Char) : Except ReadError (Scanned String) :=
  match skipBlank cs with
  | '"' :: rest => (scanString rest).map fun (s, rest) => (String.ofList s, rest)
  | cs => refuse .string cs

def readSingle (cs : List Char) : Except ReadError (Scanned Single) :=
  match skipBlank cs with
  | c :: rest =>
    if c = '-' ∨ c.isDigit then (scanNumber (c :: rest)).map fun (n, rest) => (n.toSingle, rest)
    else refuse .single (c :: rest)
  | [] => .error .unfinished

/-- How one field of a record is read into a draft `δ`. -/
structure FieldReader (δ : Type) where
  key : String
  isFilled : δ → Bool
  read : δ → List Char → Except ReadError (Scanned δ)

/-- The reader of a field that the draft holds as an option. -/
def FieldReader.ofOption {δ β : Type} (key : String) (get : δ → Option β) (fill : δ → β → δ)
    (read : List Char → Except ReadError (Scanned β)) : FieldReader δ where
  key := key
  isFilled draft := (get draft).isSome
  read draft cs := (read cs).map fun (value, rest) => (fill draft value, rest)

structure RecordReader (δ α : Type) where
  name : String
  empty : δ
  /-- In order of declaration. -/
  fields : List (FieldReader δ)
  complete? : δ → Option α

namespace RecordReader

variable {δ α : Type} (r : RecordReader δ α)

/-- The fields as items of an array, of which `count` were read. -/
def readItems (count : Nat) : List (FieldReader δ) → δ → List Char → Except ReadError (Scanned δ)
  | [], draft, cs =>
    match skipBlank cs with
    | [] => .error .unfinished
    | ']' :: rest => .ok (draft, rest)
    | _ => .error .malformed
  | field :: fields, draft, cs =>
    match skipBlank cs with
    | [] => .error .unfinished
    | ']' :: _ => .error (.unfit (.tooFewItems count r.name r.fields.length))
    | c :: rest =>
      if count = 0 then do
        let (draft, cs) ← field.read draft (c :: rest)
        readItems (count + 1) fields draft cs
      else if c = ',' then
        match skipBlank rest with
        | [] => .error .unfinished
        | ']' :: _ => .error .malformed
        | rest => do
          let (draft, cs) ← field.read draft rest
          readItems (count + 1) fields draft cs
      else .error .malformed

/-- One member whose key was taken. -/
def readMember (key : String) (draft : δ) (cs : List Char) : Except ReadError (Scanned δ) :=
  match r.fields.find? (·.key = key) with
  | some field =>
    if field.isFilled draft then .error (.unfit (.duplicateField key))
    else do field.read draft (← skipColon cs)
  | none => do
    let cs ← skipColon cs
    let cs ← skipValue cs
    pure (draft, cs)

/-- Where the key of a member begins, behind a comma unless it is the first. -/
def atKey (first : Bool) (cs : List Char) : Except ReadError (List Char) :=
  let key (cs : List Char) : Except ReadError (List Char) :=
    match cs with
    | [] => .error .unfinished
    | '"' :: rest => .ok rest
    | _ => .error .malformed
  if first then key cs
  else
    match cs with
    | ',' :: rest => key (skipBlank rest)
    | _ => .error .malformed

/-- At most `fuel` members, and the closing brace. -/
def readMembers : (fuel : Nat) → (first : Bool) → δ → List Char → Except ReadError (Scanned δ)
  | 0, _, _, _ => .error .malformed
  | fuel + 1, first, draft, cs =>
    match skipBlank cs with
    | [] => .error .unfinished
    | '}' :: rest => .ok (draft, rest)
    | cs => do
      let cs ← atKey first cs
      let (key, cs) ← scanString cs
      let (draft, cs) ← r.readMember (String.ofList key) draft cs
      readMembers fuel false draft cs

def finish (draft : δ) : Except ReadError α :=
  match r.fields.find? (!·.isFilled draft), r.complete? draft with
  | none, some value => .ok value
  | some field, _ => .error (.unfit (.missingField field.key))
  | none, none => .error .malformed

def read (cs : List Char) : Except ReadError (Scanned α) :=
  match skipBlank cs with
  | '[' :: rest => do
    let (draft, cs) ← r.readItems 0 r.fields r.empty rest
    pure (← r.finish draft, cs)
  | '{' :: rest => do
    let (draft, cs) ← r.readMembers (rest.length + 1) true r.empty rest
    pure (← r.finish draft, cs)
  | cs => refuse (.record r.name) cs

/-- Reads a whole text, behind which only white space may stand. -/
def readText (text : String) : Except ReadError α := do
  let (value, rest) ← r.read text.toList
  match skipBlank rest with
  | [] => pure value
  | _ => throw .malformed

end RecordReader

end HostStatus.Json
