import HostStatus.Log.Entry
import HostStatus.Log.Pattern
import HostStatus.Text.Utf8

/-!
# Log filters

A filter is a list of directives between commas. A directive names a level, a target, or both, and
may be narrowed to spans of a name or to events with a field, or with a value of it. Of the
directives that fit an event, the one with the longest target decides, then one with a field, and
of equals the last.

The parts of a directive are cut out by position. Positions count the bytes of UTF-8 from its
first character that is not white space, but the parts are cut out of the text with its white
space; a part that begins or ends within a character makes the directive malformed.
-/

namespace HostStatus

/-- How much a level lets through, from nothing at zero to everything at five. -/
def LogLevel.verbosity : LogLevel → Nat
  | error => 1
  | warn => 2
  | info => 3
  | debug => 4
  | trace => 5

namespace LogFilter

structure Field where
  name : String
  hasValue : Bool
  deriving DecidableEq

structure Directive where
  verbosity : Nat := LogLevel.trace.verbosity
  target : Option String := none
  span : Option String := none
  field : Option Field := none
  deriving DecidableEq

/-- A number, or the name of a level in letters of either case. -/
def verbosity? (cs : List Char) : Option Nat :=
  let digits := match cs with
    | '+' :: cs => cs
    | cs => cs
  if digits ≠ [] ∧ digits.all Char.isDigit = true then
    let n := Nat.ofDigitChars 10 digits 0
    if n ≤ 5 then some n else none
  else
    match String.ofList (cs.map Char.toLower) with
    | "off" => some 0
    | "error" => some 1
    | "warn" => some 2
    | "info" => some 3
    | "debug" => some 4
    | "trace" => some 5
    | _ => none

/-- What is being read, with the position it began at. -/
inductive Part where
  | start
  | word (first : Nat)
  | span (first : Nat)
  | field (first : Nat)
  | fieldEnd
  | spanEnd
  | level (first : Nat)

def isStart (c : Char) : Bool :=
  c = '-' || c = ':' || c = '_' || Text.isAlphanumeric c

section Reading

variable (text : List Char)

def after? (first : Nat) : Option (List Char) :=
  (Text.splitAtByte? text first).map Prod.snd

def between? (first last : Nat) : Option (List Char) := do
  let rest ← after? text first
  (Text.splitAtByte? rest (last - first)).map Prod.fst

/-- A name, and the value it must have, as far as another equals sign. -/
def Field.ofChars? (cs : List Char) : Option Field :=
  let name := String.ofList (cs.takeWhile (· ≠ '='))
  match cs.dropWhile (· ≠ '=') with
  | [] => some ⟨name, false⟩
  | _ :: value => if Pattern.isValue (value.takeWhile (· ≠ '=')) then some ⟨name, true⟩ else none

/-- The part after the character at a position, and the directive so far. The characters that
divide parts have one byte. -/
def step? (d : Directive) (part : Part) (position : Nat) (c : Char) : Option (Directive × Part) :=
  match part with
  | .start =>
    if c = '[' then some (d, .span (position + 1))
    else if isStart c then some (d, .word position)
    else none
  | .word first =>
    if c = '=' ∨ c = '[' then
      (between? text first position).map fun cs =>
        ({ d with target := String.ofList cs },
          if c = '=' then .level (position + 1) else .span (position + 1))
    else some (d, .word first)
  | .span first =>
    if c = ']' then
      (between? text first position).map fun cs => ({ d with span := String.ofList cs }, .spanEnd)
    else if c = '{' then
      (between? text first position).map fun cs =>
        ({ d with span := if cs = [] then none else some (String.ofList cs) },
          .field (position + 1))
    else some (d, .span first)
  | .field first =>
    if c = '}' then do
      let cs ← between? text first position
      if cs = [] then none
      else (Field.ofChars? cs).map fun field => ({ d with field := some field }, .fieldEnd)
    else some (d, .field first)
  | .fieldEnd => if c = ']' then some (d, .spanEnd) else none
  | .spanEnd => if c = '=' then some (d, .level (position + 1)) else none
  | .level first => some (d, .level first)

def stepAll? (d : Directive) (part : Part) (position : Nat) :
    List Char → Option (Directive × Part)
  | [] => some (d, part)
  | c :: cs => do
    let (d, part) ← step? text d part position c
    stepAll? d part (position + c.utf8Size) cs

/-- A word alone is a level if it can be, and else a target of which everything is let through. -/
def finish? (d : Directive) (part : Part) : Option Directive :=
  match part with
  | .word first =>
    (after? text first).map fun cs =>
      match verbosity? cs with
      | some verbosity => { d with verbosity := verbosity }
      | none => { d with target := String.ofList cs }
  | .level first => do
    let cs ← after? text first
    if cs = [] then some d
    else (verbosity? cs).map fun verbosity => { d with verbosity := verbosity }
  | .spanEnd => some d
  | _ => none

end Reading

def Directive.parse? (text : List Char) : Option Directive := do
  let (d, part) ← stepAll? text {} .start 0 (Text.trim text)
  finish? text d part

/-- Directives about spans or about values of fields have no say about single events. -/
def Directive.isStatic (d : Directive) : Bool :=
  d.span.isNone && !d.field.any (·.hasValue)

def Directive.fits (d : Directive) (target : String) (fields : List String) : Bool :=
  d.isStatic && d.target.all (fun t => t.toList.isPrefixOf target.toList) &&
    d.field.all (fun f => fields.contains f.name)

/-- Whether the second directive decides where both fit. -/
def Directive.yields (d e : Directive) : Bool :=
  let size (d : Directive) : Nat := d.target.elim 0 (·.length + 1)
  let name (d : Directive) : String := d.field.elim "" (·.name)
  if size d ≠ size e then size d < size e else name d ≤ name e

end LogFilter

structure LogFilter where
  directives : List LogFilter.Directive

namespace LogFilter

/-- Without any directive only errors are let through. -/
def ofDirectives (directives : List Directive) : LogFilter :=
  ⟨if directives.isEmpty then [{ verbosity := LogLevel.error.verbosity }] else directives⟩

def parse? (text : String) : Option LogFilter :=
  (((text.toList.splitOn ',').filter (· ≠ [])).mapM Directive.parse?).map ofDirectives

/-- What is let through where nothing else is asked for. -/
def standard : LogFilter :=
  ⟨[{ verbosity := LogLevel.info.verbosity }]⟩

def decisive? (f : LogFilter) (target : String) (fields : List String) : Option Directive :=
  (f.directives.filter (·.fits target fields)).foldl
    (fun best d =>
      match best with
      | none => some d
      | some b => some (if b.yields d then d else b))
    none

def enables (f : LogFilter) (level : LogLevel) (target : String) (fields : List String) : Bool :=
  (f.decisive? target fields).any (fun d => level.verbosity ≤ d.verbosity)

end LogFilter

end HostStatus
