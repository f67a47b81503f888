import HostStatus.Text.Alphanumeric
import HostStatus.Text.Blank
import HostStatus.Text.Hexadecimal

/-!
# Values that a directive can ask for

A log directive can ask for a field of some value, which it gives by a number or by a pattern, a
regular expression. No event depends on the value, but what is neither number nor pattern makes
the directive malformed, and `isValue` says what is either.

Patterns are for UTF-8 text and are compiled without any table of Unicode. In Unicode mode, where
each pattern starts, nothing is allowed that needs one: classes of digits, spaces and letters,
boundaries of words, and characters whose case does not count. Outside of Unicode mode nothing is
allowed that could match a part of a character. A closing brace ends the field before the pattern
could have one, so what needs one, such as a count of repetitions, is never well formed.

A pattern is read from left to right, with the groups around the present place kept aside. Of what
was read only the height of its syntax tree is kept, which is bounded.
-/

namespace HostStatus.LogFilter.Pattern

/-! ## Modes -/

structure Mode where
  unicode : Bool := true
  ignoreCase : Bool := false
  /-- White space and comments do not count. -/
  verbose : Bool := false

def skipBlank : (comment : Bool) → List Char → List Char
  | _, [] => []
  | true, c :: cs => skipBlank (c ≠ '\n') cs
  | false, c :: cs =>
    if Text.isBlank c then skipBlank false cs
    else if c = '#' then skipBlank true cs
    else c :: cs

namespace Mode

variable (m : Mode)

def skip (cs : List Char) : List Char :=
  if m.verbose then skipBlank false cs else cs

/-- The next character that counts, where the sign of a comment counts for nothing by itself. -/
def peek? (cs : List Char) : Option Char :=
  if m.verbose then
    match Text.trimStart cs with
    | '#' :: cs => (Text.trimStart cs).head?
    | cs => cs.head?
  else cs.head?

/-- Sets the modes whose letters are given, and unsets those behind a hyphen. -/
def apply (letters : List Char) : Mode :=
  let state (letter : Char) (old : Bool) : Bool :=
    (letters.takeWhile (· ≠ '-')).contains letter || (!letters.contains letter && old)
  ⟨state 'u' m.unicode, state 'i' m.ignoreCase, state 'x' m.verbose⟩

end Mode

/-- The letters of modes up to a colon or a closing parenthesis, which one, and the rest. -/
def readModes (seen : List Char) : List Char → Option (List Char × Char × List Char)
  | [] => none
  | c :: cs =>
    if c = ':' ∨ c = ')' then
      if seen.head? = some '-' then none else some (seen.reverse, c, cs)
    else if "-imsUuRx".toList.contains c && !seen.contains c then readModes (c :: seen) cs
    else none

/-! ## Single characters -/

inductive Atom where
  /-- A byte is written by two hexadecimal digits. -/
  | literal (c : Char) (isByte : Bool)
  | charClass (negated : Bool)
  | boundary (ofWord : Bool)

def Mode.allows (m : Mode) : Atom → Bool
  | .literal c isByte => if m.unicode then !m.ignoreCase else !isByte || c.toNat ≤ 0x7f
  | .charClass negated => !m.unicode && !negated
  | .boundary ofWord => !m.unicode || !ofWord

/-- Whether a bracket may have the character for a member. -/
def Mode.allowsMember (m : Mode) (c : Char) : Bool :=
  if m.unicode then !m.ignoreCase else c.toNat ≤ 0x7f

def readHexadecimal (m : Mode) :
    (digits : Nat) → (value : Nat) → List Char → Option (Nat × List Char)
  | 0, value, cs => some (value, cs)
  | _ + 1, _, [] => none
  | digits + 1, value, c :: cs => do
    readHexadecimal m digits (16 * value + (← Text.hexValue? c)) (m.skip cs)

def readCodePoint (m : Mode) (digits : Nat) (cs : List Char) : Option (Atom × List Char) := do
  let (value, rest) ← readHexadecimal m digits 0 (m.skip cs)
  if value.isValidChar then pure (.literal (Char.ofNat value) (digits = 2), rest) else none

/-- What follows a backslash. Punctuation stands for itself there, but for the two signs that mark
the ends of words. -/
def readEscape (m : Mode) : List Char → Option (Atom × List Char)
  | [] => none
  | c :: cs =>
    match c with
    | 'x' => readCodePoint m 2 cs
    | 'u' => readCodePoint m 4 cs
    | 'U' => readCodePoint m 8 cs
    | 'd' | 's' | 'w' => some (.charClass false, cs)
    | 'D' | 'S' | 'W' => some (.charClass true, cs)
    | 'a' => some (.literal '\x07' false, cs)
    | 'f' => some (.literal '\x0c' false, cs)
    | 'n' => some (.literal '\n' false, cs)
    | 'r' => some (.literal '\r' false, cs)
    | 't' => some (.literal '\t' false, cs)
    | 'v' => some (.literal '\x0b' false, cs)
    | 'A' | 'z' => some (.boundary false, cs)
    | 'b' | 'B' | '<' | '>' => some (.boundary true, cs)
    | c => if c.toNat < 0x80 ∧ c.isAlphanum = false then some (.literal c false, cs) else none

/-! ## Heights -/

/-- The height of parts put together, which takes a node only for several of them. -/
def together : List Nat → Nat
  | [] => 0
  | [height] => height
  | heights => heights.foldr max 0 + 1

def maxHeight : Nat := 250

/-! ## Brackets -/

/-- An open bracket, with the heights of the members of its last operand. -/
structure Bracket where
  /-- Only hyphens were read so far. -/
  opening : Bool := true
  members : List Nat := []
  left : Option Nat := none

namespace Bracket

def push (b : Bracket) (height : Nat) : Bracket :=
  { b with members := height :: b.members }

def height (b : Bracket) : Nat :=
  match b.left with
  | none => together b.members
  | some left => max left (together b.members) + 1

/-- Goes on with the next operand. -/
def operate (b : Bracket) : Bracket :=
  ⟨false, [], some b.height⟩

end Bracket

def readMember (m : Mode) : List Char → Option (Atom × List Char)
  | [] => none
  | '\\' :: cs => readEscape m cs
  | c :: cs => some (.literal c false, cs)

/-- A single member that is allowed. -/
def Mode.allowsSingle (m : Mode) : Atom → Bool
  | .literal c _ => m.allowsMember c
  | .charClass negated => m.allows (.charClass negated)
  | .boundary _ => false

/-- What follows a member or a range of members. -/
def passMember (m : Mode) (cs : List Char) : Option (List Char) := do
  let (first, rest) ← readMember m cs
  let single (rest : List Char) : Option (List Char) :=
    if m.allowsSingle first then some rest else none
  match m.skip rest with
  | '-' :: rest =>
    if m.peek? rest = some ']' ∨ m.peek? rest = some '-' then single ('-' :: rest)
    else
      match first, ← readMember m (m.skip rest) with
      | .literal a _, (.literal z _, rest) =>
        if m.allowsMember a && m.allowsMember z && a ≤ z then some rest else none
      | _, _ => none
  | rest => single rest

def classNames : List String :=
  ["alnum", "alpha", "ascii", "blank", "cntrl", "digit", "graph", "lower", "print", "punct",
    "space", "upper", "word", "xdigit"]

/-- A class named between colons, given what follows the bracket: whether it is negated, and the
rest. -/
def readNamedClass (cs : List Char) : Option (Bool × List Char) :=
  let named (negated : Bool) (cs : List Char) : Option (Bool × List Char) :=
    match cs.dropWhile (· ≠ ':') with
    | ':' :: ']' :: rest =>
      if classNames.contains (String.ofList (cs.takeWhile (· ≠ ':'))) then some (negated, rest)
      else none
    | _ => none
  match cs with
  | ':' :: '^' :: cs => named true cs
  | ':' :: cs => named false cs
  | _ => none

/-- What is left behind an opening bracket and the sign of negation. -/
def openBracket (m : Mode) (cs : List Char) : Option (List Char) :=
  match m.skip cs with
  | '^' :: cs => if m.unicode then some cs else none
  | cs => some cs

/-- Reads on to the end of the outermost bracket, and gives its height and the rest. -/
def readBracket (m : Mode) :
    (fuel : Nat) → Bracket → (outer : List Bracket) → List Char → Option (Nat × List Char)
  | 0, _, _, _ => none
  | fuel + 1, b, outer, cs => do
    let cs := m.skip cs
    let isMember : Bool :=
      b.opening && (cs.head? = some '-' || (cs.head? = some ']' && b.members.isEmpty))
    if isMember then
      if m.allowsMember '-' then
        readBracket m fuel { b.push 0 with opening := cs.head? = some '-' } outer cs.tail
      else none
    else
      let b := { b with opening := false }
      match cs with
      | [] => none
      | '[' :: cs =>
        match readNamedClass cs with
        | some (negated, rest) =>
          if if m.unicode then !m.ignoreCase else !negated then
            readBracket m fuel (b.push 0) outer rest
          else none
        | none => readBracket m fuel {} (b :: outer) (← openBracket m cs)
      | ']' :: cs =>
        match outer with
        | [] => some (b.height + 1, cs)
        | o :: outer => readBracket m fuel (o.push (b.height + 1)) outer cs
      | '&' :: '&' :: cs | '-' :: '-' :: cs | '~' :: '~' :: cs =>
        readBracket m fuel b.operate outer cs
      | cs => readBracket m fuel (b.push 0) outer (← passMember m cs)

/-! ## Groups -/

inductive Item where
  /-- A change of modes, which cannot be repeated. -/
  | change
  | part (height : Nat)

def Item.height : Item → Nat
  | change => 0
  | part height => height

/-- An open group, with what was read of its last alternative and the heights of the others. -/
structure Group where
  mode : Mode := {}
  items : List Item := []
  alternatives : List Nat := []

namespace Group

def push (g : Group) (item : Item) : Group :=
  { g with items := item :: g.items }

/-- Goes on with the next alternative. -/
def alternate (g : Group) : Group :=
  ⟨g.mode, [], together (g.items.map Item.height) :: g.alternatives⟩

def height (g : Group) : Nat :=
  together g.alternate.alternatives

end Group

/-- What an opening parenthesis can begin. -/
inductive Opening where
  | change (m : Mode)
  | group (m : Mode) (name : Option (List Char))

def isNameStart (c : Char) : Bool :=
  c = '_' || Text.isAlphabetic c

def isNameChar (c : Char) : Bool :=
  c = '_' || c = '.' || c = '[' || c = ']' || Text.isAlphanumeric c

def readName (m : Mode) (cs : List Char) : Option (Opening × List Char) :=
  match cs.takeWhile (· ≠ '>'), cs.dropWhile (· ≠ '>') with
  | c :: name, _ :: rest =>
    if isNameStart c && name.all isNameChar then some (.group m (some (c :: name)), rest) else none
  | _, _ => none

/-- What follows an opening parenthesis; looking ahead or back is not supported. -/
def readOpening (m : Mode) (cs : List Char) : Option (Opening × List Char) :=
  match m.skip cs with
  | '?' :: '<' :: '=' :: _ | '?' :: '<' :: '!' :: _ => none
  | '?' :: '<' :: cs | '?' :: 'P' :: '<' :: cs => readName m cs
  | '?' :: cs =>
    match readModes [] cs with
    | none | some ([], ')', _) => none
    | some (letters, ')', rest) => some (.change (m.apply letters), rest)
    | some (letters, _, rest) => some (.group (m.apply letters) none, rest)
  | cs => some (.group m none, cs)

/-- Reads to the end, and says whether all of it is well formed. Names are given to groups once. -/
def readAll :
    (fuel : Nat) → (names : List (List Char)) → Group → (outer : List Group) → List Char → Bool
  | 0, _, _, _, _ => false
  | fuel + 1, names, g, outer, cs =>
    let m := g.mode
    match m.skip cs with
    | [] => outer.isEmpty && g.height ≤ maxHeight
    | '(' :: cs =>
      match readOpening m cs with
      | none => false
      | some (.change m, rest) =>
        readAll fuel names { g.push .change with mode := m } outer rest
      | some (.group m name, rest) =>
        !name.any names.contains &&
          readAll fuel (name.toList ++ names) { mode := m } (g :: outer) rest
    | ')' :: cs =>
      match outer with
      | [] => false
      | o :: outer => readAll fuel names (o.push (.part (g.height + 1))) outer cs
    | '|' :: cs => readAll fuel names g.alternate outer cs
    | '[' :: cs =>
      match (openBracket m cs).bind (readBracket m fuel {} []) with
      | none => false
      | some (height, rest) => readAll fuel names (g.push (.part height)) outer rest
    | '{' :: _ => false
    | '.' :: cs => m.unicode && readAll fuel names (g.push (.part 0)) outer cs
    | '\\' :: cs =>
      match readEscape m cs with
      | none => false
      | some (atom, rest) => m.allows atom && readAll fuel names (g.push (.part 0)) outer rest
    | c :: cs =>
      if c = '?' ∨ c = '*' ∨ c = '+' then
        match g.items with
        | .part height :: items =>
          let rest := if cs.head? = some '?' then cs.tail else cs
          readAll fuel names { g with items := .part (height + 1) :: items } outer rest
        | _ => false
      else
        (c = '^' || c = '$' || m.allows (.literal c false)) &&
          readAll fuel names (g.push (.part 0)) outer cs

def isPattern (cs : List Char) : Bool :=
  readAll (cs.length + 1) [] {} [] cs

/-! ## Numbers -/

/-- Nothing, or a letter for the exponent and a whole number. -/
def isExponent (cs : List Char) : Bool :=
  match cs with
  | [] => true
  | c :: cs =>
    let digits := match cs with
      | '+' :: cs | '-' :: cs => cs
      | cs => cs
    (c = 'e' || c = 'E') && !digits.isEmpty && digits.all Char.isDigit

/-- A decimal number, which has a digit before or behind the point, or a word for one that is not
finite. -/
def isMagnitude (cs : List Char) : Bool :=
  let whole := cs.takeWhile Char.isDigit
  ["inf", "infinity", "nan"].contains (String.ofList (cs.map Char.toLower)) ||
  match cs.dropWhile Char.isDigit with
  | '.' :: cs =>
    let fraction := cs.takeWhile Char.isDigit
    !(whole.isEmpty && fraction.isEmpty) && isExponent (cs.dropWhile Char.isDigit)
  | cs => !whole.isEmpty && isExponent cs

def isNumber (cs : List Char) : Bool :=
  match cs with
  | '+' :: cs | '-' :: cs => isMagnitude cs
  | cs => isMagnitude cs

def isValue (cs : List Char) : Bool :=
  isNumber cs || isPattern cs

end HostStatus.LogFilter.Pattern
