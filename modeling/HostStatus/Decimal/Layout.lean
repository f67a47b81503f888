import HostStatus.Decimal.Fixed
import HostStatus.Decimal.Shortest

/-!
# Layouts of shortest decimals

A layout says how the shortest decimal of a number is written: in which range of magnitudes
without an exponent, whether a whole number keeps a point, and what stands for infinities and for
what is not a number.
-/

namespace HostStatus.Decimal

structure Layout where
  tie : Tie
  /-- Exponents of the leading digit that are written positionally, from the first below the second;
  without bounds, all are. -/
  positional : Option (Int × Int)
  /-- Whether whole numbers without an exponent end in `.0`. -/
  keepsPoint : Bool
  nan : String
  infinity : Bool → String

/-- Every digit written out, the way numbers appear in messages. -/
def Layout.plain : Layout where
  tie := .up
  positional := none
  keepsPoint := false
  nan := "NaN"
  infinity negative := if negative then "-inf" else "inf"

namespace Scaled

/-- The exponent of the leading digit. -/
def magnitude (d : Scaled) : Int :=
  d.exponent + (Nat.toDigits 10 d.coefficient).length - 1

def positionalChars (d : Scaled) (keepsPoint : Bool) : List Char :=
  match d.exponent with
  | .ofNat e =>
    Nat.toDigits 10 (d.coefficient * Nat.pow 10 e) ++ if keepsPoint then ['.', '0'] else []
  | .negSucc e => (⟨false, d.coefficient⟩ : Fixed (e + 1)).toChars

def exponentChars (e : Int) : List Char :=
  match e with
  | .ofNat n => 'e' :: '+' :: Nat.toDigits 10 n
  | .negSucc n => 'e' :: '-' :: Nat.toDigits 10 (n + 1)

/-- One digit, the others behind a point if there are any, and the exponent with its sign. -/
def scientificChars (d : Scaled) : List Char :=
  match Nat.toDigits 10 d.coefficient with
  | [] => []
  | [c] => c :: exponentChars d.magnitude
  | c :: cs => c :: '.' :: cs ++ exponentChars d.magnitude

end Scaled

namespace Layout

variable (L : Layout)

def isPositional (magnitude : Int) : Bool :=
  match L.positional with
  | none => true
  | some (first, last) => first ≤ magnitude && magnitude < last

/-- Zero is written positionally. -/
def magnitudeChars (F : Format) (q : Nat) : List Char :=
  if q = 0 then Scaled.positionalChars ⟨0, 0⟩ L.keepsPoint
  else
    let d := shortest F L.tie q
    if L.isPositional d.magnitude then d.positionalChars L.keepsPoint else d.scientificChars

def toChars {F : Format} : Binary F → List Char
  | .nan _ _ _ => L.nan.toList
  | .infinite negative => (L.infinity negative).toList
  | .finite negative quanta _ =>
    (if negative then ['-'] else []) ++ L.magnitudeChars F quanta

def toText {F : Format} (x : Binary F) : String :=
  String.ofList (L.toChars x)

end Layout

end HostStatus.Decimal
