import HostStatus.Binary.Basic

/-!
# The shortest decimal that reads back

Among the decimals that round to a given magnitude, the shortest has the fewest digits, and it is
the nearest of those. A decimal with the fewest digits lies on the coarsest grid of multiples of a
power of ten that holds one at all, so the grids are tried from coarse to fine. If a point of a
grid reads back then so does one of the two points around the magnitude. On the grid of
`10 ^ (-scale)` the magnitude is itself a point, where the search ends.
-/

namespace HostStatus.Decimal

/-- `coefficient * 10 ^ exponent`. -/
structure Scaled where
  coefficient : Nat
  exponent : Int
  deriving DecidableEq

/-- Where two shortest decimals are equally near. -/
inductive Tie where
  | up
  | even
  deriving DecidableEq

/-- Numerator and denominator of `coefficient * 10 ^ exponent`. -/
def Scaled.fraction (d : Scaled) : Nat × Nat :=
  match d.exponent with
  | .ofNat e => (d.coefficient * Nat.pow 10 e, 1)
  | .negSucc e => (d.coefficient, Nat.pow 10 (e + 1))

/-- The magnitude of the format nearest to a decimal, in quanta. -/
def Scaled.nearest (F : Format) (d : Scaled) : Nat :=
  F.round (d.fraction.1 * F.one) d.fraction.2

namespace Shortest

variable (F : Format) (tie : Tie) (q : Nat)

/-- Of the grid points `below` and `below + 1`, the one nearer to `below + rest / den`. -/
def nearer (below rest den : Nat) : Nat :=
  if 2 * rest < den then below
  else if den < 2 * rest then below + 1
  else match tie with
    | .up => below + 1
    | .even => if below % 2 = 0 then below else below + 1

/-- The multiple of `10 ^ exponent` that stands for `q` quanta, if one reads back. -/
def onGrid? (exponent : Int) : Option Scaled :=
  let grid := Scaled.fraction ⟨1, exponent⟩
  let num := q * grid.2
  let den := F.one * grid.1
  let below := num / den
  match decide (Scaled.nearest F ⟨below, exponent⟩ = q),
      decide (Scaled.nearest F ⟨below + 1, exponent⟩ = q) with
  | true, true => some ⟨nearer tie below (num % den) den, exponent⟩
  | true, false => some ⟨below, exponent⟩
  | false, true => some ⟨below + 1, exponent⟩
  | false, false => none

/-- Tries the grids of `10 ^ (steps - scale)` and finer. -/
def search : Nat → Scaled
  | 0 => ⟨q * Nat.pow 5 F.scale, -(F.scale : Int)⟩
  | steps + 1 =>
    match onGrid? F tie q (steps + 1 - F.scale) with
    | some d => d
    | none => search steps

end Shortest

/-- The shortest decimal for a positive number of quanta. -/
def shortest (F : Format) (tie : Tie) (q : Nat) : Scaled :=
  Shortest.search F tie q ((Nat.toDigits 10 (q / F.one)).length + F.scale)

end HostStatus.Decimal
