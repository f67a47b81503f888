/-!
# Text in bytes

Bytes are read as UTF-8 one character at a time. Where no character can be read, the longest run
of bytes that starts one is passed over, or a single byte if none does, and counts as one failure.
A character is never read from more bytes than it needs, and surrogates are not characters.
-/

namespace HostStatus.Text

abbrev Bytes := List UInt8

namespace Utf8

/-- A character of which some bytes are still to come. -/
structure Pending where
  missing : Nat
  /-- Bounds of the next byte. -/
  least : UInt8 := 0x80
  greatest : UInt8 := 0xbf
  /-- What the bytes so far stand for. -/
  value : Nat

inductive Start where
  | character (c : Char)
  | pending (p : Pending)
  | none

def start (b : UInt8) : Start :=
  let n := b.toNat
  if n < 0x80 then .character (Char.ofNat n)
  else if n < 0xc2 then .none
  else if n < 0xe0 then .pending ⟨1, 0x80, 0xbf, n - 0xc0⟩
  else if n = 0xe0 then .pending ⟨2, 0xa0, 0xbf, 0⟩
  else if n = 0xed then .pending ⟨2, 0x80, 0x9f, 0xd⟩
  else if n < 0xf0 then .pending ⟨2, 0x80, 0xbf, n - 0xe0⟩
  else if n = 0xf0 then .pending ⟨3, 0x90, 0xbf, 0⟩
  else if n < 0xf4 then .pending ⟨3, 0x80, 0xbf, n - 0xf0⟩
  else if n = 0xf4 then .pending ⟨3, 0x80, 0x8f, 4⟩
  else .none

/-- The characters and failures, in order. -/
def scan : Option Pending → Bytes → List (Option Char)
  | none, [] => []
  | some _, [] => [none]
  | none, b :: bytes =>
    match start b with
    | .character c => some c :: scan none bytes
    | .pending p => scan (some p) bytes
    | .none => none :: scan none bytes
  | some p, b :: bytes =>
    if p.least ≤ b ∧ b ≤ p.greatest then
      let value := 64 * p.value + (b.toNat - 0x80)
      if p.missing = 1 then some (Char.ofNat value) :: scan none bytes
      else scan (some ⟨p.missing - 1, 0x80, 0xbf, value⟩) bytes
    else
      none :: match start b with
        | .character c => some c :: scan none bytes
        | .pending p => scan (some p) bytes
        | .none => none :: scan none bytes

end Utf8

def ofUtf8? (bytes : Bytes) : Option String :=
  ((Utf8.scan none bytes).mapM id).map String.ofList

/-- Every failure becomes the replacement character. -/
def ofUtf8Lossy (bytes : Bytes) : String :=
  String.ofList ((Utf8.scan none bytes).map (·.getD '\uFFFD'))

def toUtf8 (s : String) : Bytes :=
  s.toUTF8.toList

/-- The text in two, the first with so many bytes, unless that would divide a character. -/
def splitAtByte? : List Char → Nat → Option (List Char × List Char)
  | cs, 0 => some ([], cs)
  | [], _ + 1 => none
  | c :: cs, n + 1 =>
    if c.utf8Size ≤ n + 1 then
      (splitAtByte? cs (n + 1 - c.utf8Size)).map fun (left, right) => (c :: left, right)
    else none

end HostStatus.Text
