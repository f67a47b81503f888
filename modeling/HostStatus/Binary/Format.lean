import HostStatus.Nearest

/-!
# Binary floating-point formats

A format counts magnitudes in its *quantum*, the smallest positive number it holds, so that a
finite magnitude is a natural number of quanta. Numbers of the size of `q` quanta lie
`2 ^ spacing q` quanta apart, and `round` takes an exact quotient to the nearest of them, a half
going to the even one. The exponent range matters only for what is too large: `limit` is the least
magnitude left out.
-/

namespace HostStatus

structure Format where
  /-- Binary digits of a significand, the leading one included. -/
  precision : Nat
  exponentBits : Nat
  two_le_precision : 2 ≤ precision := by decide
  two_le_exponentBits : 2 ≤ exponentBits := by decide

namespace Format

def binary32 : Format where
  precision := 24
  exponentBits := 8

def binary64 : Format where
  precision := 53
  exponentBits := 11

variable (F : Format)

/-- One is `2 ^ scale` quanta. -/
def scale : Nat :=
  Nat.pow 2 (F.exponentBits - 1) - 1 + F.precision - 2

def one : Nat :=
  Nat.pow 2 F.scale

/-- Significands with the hidden digit set start here. -/
def hidden : Nat :=
  Nat.pow 2 (F.precision - 1)

/-- The exponent field of infinities and of what is not a number. -/
def lastField : Nat :=
  Nat.pow 2 F.exponentBits - 1

def limit : Nat :=
  Nat.pow 2 (F.precision + F.lastField - 2)

def spacing (q : Nat) : Nat :=
  q.log2 + 1 - F.precision

def Representable (q : Nat) : Prop :=
  q < F.limit ∧ q % Nat.pow 2 (F.spacing q) = 0

instance (q : Nat) : Decidable (F.Representable q) :=
  inferInstanceAs (Decidable (_ ∧ _))

/-- The magnitude nearest to `num / den` quanta, as if there were no largest one. -/
def round (num den : Nat) : Nat :=
  let step := Nat.pow 2 (F.spacing (num / den))
  Nearest.halfEven num (den * step) * step

theorem one_lt_hidden : 1 < F.hidden := by
  have hp := F.two_le_precision
  exact Nat.one_lt_two_pow (by omega)

theorem spacing_of_lt {q : Nat} (h : q < Nat.pow 2 F.precision) : F.spacing q = 0 := by
  have hp := F.two_le_precision
  unfold spacing
  rcases Nat.eq_zero_or_pos q with rfl | hq
  · simp; omega
  · have := (Nat.log2_lt (Nat.ne_of_gt hq)).2 h
    omega

/-- Whole numbers of at most `precision` digits are on the grid. -/
theorem round_of_lt {q : Nat} (h : q < Nat.pow 2 F.precision) : F.round q 1 = q := by
  simp [round, F.spacing_of_lt h, Nearest.halfEven_of_dvd (Nat.mod_one q)]

end Format

end HostStatus
