import HostStatus.Json.ReadError
import HostStatus.Text.Hexadecimal

/-!
# Scanning the leaves of a JSON text

Scanners take a leaf off the front of a text and give back what follows. A string that is read
must pair its surrogate escapes; one that is only passed over need not. A numeral is scanned into
its parts, before anything is said about its value.
-/

namespace HostStatus.Json

/-- A leaf and what follows it. -/
abbrev Scanned (α : Type) := α × List Char

def isBlank (c : Char) : Bool :=
  c = ' ' || c = '\n' || c = '\t' || c = '\r'

def skipBlank (cs : List Char) : List Char :=
  cs.dropWhile isBlank

/-- The rest of a word whose first letter was taken. -/
def scanWord : List Char → List Char → Except ReadError (List Char)
  | [], cs => .ok cs
  | _ :: _, [] => .error .unfinished
  | w :: word, c :: cs => if c = w then scanWord word cs else .error .malformed

/-! ## Strings -/

def hexQuad? (a b c d : Char) : Option Nat := do
  let digits ← [a, b, c, d].mapM Text.hexValue?
  pure (digits.foldl (16 * · + ·) 0)

/-- What is wrong where four hexadecimal digits should be and fewer characters are left: the text is
unfinished only if it has fewer than four bytes. -/
def shortQuad (cs : List Char) : ReadError :=
  if (String.ofList cs).utf8ByteSize < 4 then .unfinished else .malformed

def isLeading (n : Nat) : Bool :=
  0xd800 ≤ n && n < 0xdc00

def isTrailing (n : Nat) : Bool :=
  0xdc00 ≤ n && n < 0xe000

def simpleEscape? : Char → Option Char
  | '"' => some '"'
  | '\\' => some '\\'
  | '/' => some '/'
  | 'b' => some '\x08'
  | 'f' => some '\x0c'
  | 'n' => some '\n'
  | 'r' => some '\r'
  | 't' => some '\t'
  | _ => none

/-- Puts a character in front of what is scanned. -/
def consChar (c : Char) :
    Except ReadError (Scanned (List Char)) → Except ReadError (Scanned (List Char))
  | .ok (cs, rest) => .ok (c :: cs, rest)
  | .error e => .error e

/-- The characters of a string whose opening quotation mark was taken. -/
def scanString : List Char → Except ReadError (Scanned (List Char))
  | [] => .error .unfinished
  | '"' :: cs => .ok ([], cs)
  | ['\\'] => .error .unfinished
  | '\\' :: 'u' :: a :: b :: c :: d :: cs =>
    match hexQuad? a b c d with
    | none => .error .malformed
    | some n =>
      if isTrailing n then .error .malformed
      else if isLeading n then
        match cs with
        | [] | ['\\'] => .error .unfinished
        | '\\' :: 'u' :: e :: f :: g :: h :: cs =>
          match hexQuad? e f g h with
          | none => .error .malformed
          | some m =>
            if isTrailing m then
              consChar (Char.ofNat (0x10000 + (n - 0xd800) * 0x400 + (m - 0xdc00))) (scanString cs)
            else .error .malformed
        | '\\' :: 'u' :: cs => .error (shortQuad cs)
        | _ => .error .malformed
      else consChar (Char.ofNat n) (scanString cs)
  | '\\' :: 'u' :: cs => .error (shortQuad cs)
  | '\\' :: c :: cs =>
    match simpleEscape? c with
    | some e => consChar e (scanString cs)
    | none => .error .malformed
  | c :: cs => if c.toNat < 0x20 then .error .malformed else consChar c (scanString cs)

/-- What follows a string whose opening quotation mark was taken. -/
def skipString : List Char → Except ReadError (List Char)
  | [] => .error .unfinished
  | '"' :: cs => .ok cs
  | ['\\'] => .error .unfinished
  | '\\' :: 'u' :: a :: b :: c :: d :: cs =>
    if (hexQuad? a b c d).isSome then skipString cs else .error .malformed
  | '\\' :: 'u' :: cs => .error (shortQuad cs)
  | '\\' :: c :: cs => if (simpleEscape? c).isSome then skipString cs else .error .malformed
  | c :: cs => if c.toNat < 0x20 then .error .malformed else skipString cs

/-! ## Numerals -/

structure Exponent where
  negative : Bool
  digits : List Char

structure Numeral where
  negative : Bool
  whole : List Char
  /-- No digits where there is no point. -/
  fraction : List Char
  exponent : Option Exponent

def scanDigits (cs : List Char) : List Char × List Char :=
  (cs.takeWhile Char.isDigit, cs.dropWhile Char.isDigit)

/-- At least one digit. -/
def scanSomeDigits (cs : List Char) : Except ReadError (Scanned (List Char)) :=
  match cs with
  | [] => .error .unfinished
  | c :: _ => if c.isDigit then .ok (scanDigits cs) else .error .malformed

/-- A zero stands alone. -/
def scanWhole (cs : List Char) : Except ReadError (Scanned (List Char)) :=
  match cs with
  | '0' :: c :: rest => if c.isDigit then .error .malformed else .ok (['0'], c :: rest)
  | cs => scanSomeDigits cs

def scanFraction (cs : List Char) : Except ReadError (Scanned (List Char)) :=
  match cs with
  | '.' :: cs => scanSomeDigits cs
  | cs => .ok ([], cs)

def scanExponent (cs : List Char) : Except ReadError (Scanned (Option Exponent)) :=
  let signed (cs : List Char) : Bool × List Char :=
    match cs with
    | '+' :: cs => (false, cs)
    | '-' :: cs => (true, cs)
    | cs => (false, cs)
  match cs with
  | c :: cs =>
    if c = 'e' ∨ c = 'E' then do
      let (digits, rest) ← scanSomeDigits (signed cs).2
      pure (some ⟨(signed cs).1, digits⟩, rest)
    else pure (none, c :: cs)
  | [] => pure (none, [])

def scanMagnitude (negative : Bool) (cs : List Char) : Except ReadError (Scanned Numeral) := do
  let (whole, cs) ← scanWhole cs
  let (fraction, cs) ← scanFraction cs
  let (exponent, cs) ← scanExponent cs
  pure (⟨negative, whole, fraction, exponent⟩, cs)

def scanNumeral (cs : List Char) : Except ReadError (Scanned Numeral) :=
  match cs with
  | '-' :: cs => scanMagnitude true cs
  | cs => scanMagnitude false cs

end HostStatus.Json
