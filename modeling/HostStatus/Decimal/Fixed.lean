import HostStatus.Binary.Basic

/-!
# Numbers with a fixed count of decimal places

`Fixed n` holds a sign and a count of units of the `n`-th place. A finite binary number is rounded
to it from its exact value, once, and a half goes to the even neighbour. The sign survives
rounding, so what rounds to zero from below keeps its minus.
-/

namespace HostStatus.Decimal

structure Fixed (places : Nat) where
  negative : Bool
  units : Nat
  deriving DecidableEq

namespace Fixed

variable {places : Nat}

def ofQuanta (F : Format) (negative : Bool) (quanta : Nat) : Fixed places :=
  ⟨negative, Nearest.halfEven (quanta * Nat.pow 10 places) F.one⟩

/-- Digits of the whole part, a point, and exactly `places` digits. -/
def toChars (x : Fixed places) : List Char :=
  (if x.negative then ['-'] else []) ++ Nat.toDigits 10 (x.units / Nat.pow 10 places) ++
    '.' :: List.leftpad places '0' (Nat.toDigits 10 (x.units % Nat.pow 10 places))

def toText (x : Fixed places) : String :=
  String.ofList x.toChars

end Fixed

/-- The text of any binary number to so many places. -/
def fixedText {F : Format} (places : Nat) (x : Binary F) : String :=
  match x with
  | .nan _ _ _ => "NaN"
  | .infinite negative => if negative then "-inf" else "inf"
  | .finite negative quanta _ =>
    (Fixed.ofQuanta F negative quanta : Fixed places).toText

end HostStatus.Decimal
