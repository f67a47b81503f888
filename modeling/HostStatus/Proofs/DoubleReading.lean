import HostStatus.Json.Number
import HostStatus.Proofs.RelativeError
import HostStatus.Proofs.Shortest
import Mathlib.Algebra.Order.Field.Power

/-!
# Decimals as the reader evaluates them

The reader multiplies or divides a whole number by a power of ten, both in double precision, and so
rounds up to twice. `Scaled.read` is the outcome in quanta. It is off by no more than three relative
errors, and where the power of ten is exact it is the nearest double.
-/

namespace HostStatus

open Format Decimal

attribute [local irreducible] Format.one Format.limit

namespace Decimal

/-- A power of ten in double precision, in quanta. -/
def tenPower (n : ℕ) : ℕ :=
  binary64.round (Nat.pow 10 n * binary64.one) 1

theorem one_le_tenPower (n : ℕ) : binary64.one ≤ tenPower n := by
  apply le_round Nat.one_pos binary64.onGrid_one
  rw [Nat.mul_one]
  exact Nat.le_mul_of_pos_left _ (Nat.pow_pos (by norm_num))

theorem tenPower_le (n : ℕ) : tenPower n ≤ 2 ^ (4 * n) * binary64.one := by
  have hpow : Nat.pow 10 n ≤ 2 ^ (4 * n) := by
    rw [pow_mul]
    exact Nat.pow_le_pow_left (by norm_num) n
  rw [one_eq, ← pow_add]
  apply round_le Nat.one_pos (onGrid_two_pow _)
  rw [pow_add, Nat.mul_one, ← one_eq]
  exact Nat.mul_le_mul_right _ hpow

/-- Powers of five of no more than 53 binary digits make powers of ten that need no rounding. -/
theorem tenPower_eq {n : ℕ} (hn : n ≤ 22) : tenPower n = Nat.pow 10 n * binary64.one := by
  have hgrid : binary64.OnGrid (Nat.pow 10 n * binary64.one) := by
    have hfive : 5 ^ n < 2 ^ binary64.precision :=
      (Nat.pow_le_pow_right (by norm_num) hn).trans_lt (by decide)
    have hten : Nat.pow 10 n * binary64.one = 5 ^ n * 2 ^ (n + binary64.scale) := by
      rw [Nat.pow_eq, show (10 : ℕ) = 5 * 2 from rfl, mul_pow, one_eq, pow_add, mul_assoc]
    rw [hten]
    exact onGrid_mul_two_pow hfive _
  have hround := round_mul_self Nat.one_pos hgrid
  rwa [Nat.mul_one] at hround

theorem two_pow_mul_one_lt_limit {k : ℕ} (hk : k < 1024) :
    2 ^ k * binary64.one < binary64.limit := by
  have hscale := binary64_scale
  have hlimit : binary64.limit = 2 ^ (binary64.precision + binary64.lastField - 2) := by
    rw [limit, Nat.pow_eq]
  have hexponent : binary64.precision + binary64.lastField - 2 = 2098 := by decide
  rw [one_eq, ← pow_add, hlimit]
  exact Nat.pow_lt_pow_right (by norm_num) (by omega)

theorem powerOfTen_hasQuanta {n : ℕ} (hn : n ≤ 150) :
    (Json.Number.powerOfTen n).HasQuanta (tenPower n) :=
  Binary.ofNat_hasQuanta ((tenPower_le n).trans_lt (two_pow_mul_one_lt_limit (by omega)))

namespace Scaled

/-- What the reader makes of a decimal, in quanta of double precision. -/
def read (d : Scaled) : ℕ :=
  match d.exponent with
  | .ofNat e => binary64.round (d.coefficient * binary64.one * tenPower e) binary64.one
  | .negSucc e => binary64.round (d.coefficient * binary64.one * binary64.one) (tenPower (e + 1))

def value (d : Scaled) : ℚ :=
  d.coefficient * 10 ^ d.exponent

theorem fraction_div (d : Scaled) : (d.fraction.1 : ℚ) / d.fraction.2 = d.value := by
  obtain ⟨c, e⟩ := d
  cases e with
  | ofNat e => simp [fraction, value]
  | negSucc e => simp [fraction, value, zpow_negSucc, div_eq_mul_inv]

/-- The quotient that is rounded to the nearest number of a format. -/
theorem value_mul_one (F : Format) (d : Scaled) :
    ((d.fraction.1 * F.one : ℕ) : ℚ) / d.fraction.2 = d.value * F.one := by
  rw [← fraction_div]
  push_cast
  ring

theorem unit_eq (e : ℤ) :
    ((fraction ⟨1, e⟩).1 : ℚ) = 10 ^ e * (fraction ⟨1, e⟩).2 := by
  have hden : (0 : ℚ) < (fraction ⟨1, e⟩).2 := by exact_mod_cast fraction_den_pos _
  have hvalue := fraction_div ⟨1, e⟩
  rwa [div_eq_iff hden.ne', value, Nat.cast_one, one_mul] at hvalue

theorem value_nonneg (d : Scaled) : 0 ≤ d.value := by
  unfold value
  positivity

/-- Exact powers of ten leave a single rounding. -/
theorem read_eq_nearest {d : Scaled} (h : d.exponent.natAbs ≤ 22) :
    d.read = d.nearest binary64 := by
  obtain ⟨c, e⟩ := d
  have hone := binary64.one_pos
  cases e with
  | ofNat e =>
    have he : e ≤ 22 := h
    simp only [read, nearest, fraction, tenPower_eq he]
    exact round_congr hone Nat.one_pos (by ring)
  | negSucc e =>
    have he : e + 1 ≤ 22 := h
    have hpow : 0 < Nat.pow 10 (e + 1) := Nat.pow_pos (by norm_num)
    simp only [read, nearest, fraction, tenPower_eq he]
    exact round_congr (Nat.mul_pos hpow hone) hpow (by ring)

end Scaled

end Decimal

namespace Json.Number

variable {c : ℕ}

theorem powerOfTen_close {n : ℕ} (hn : n ≤ 150) : Close 1 (powerOfTen n).value (10 ^ n) := by
  have hclose := ofNat_close (powerOfTen_hasQuanta hn)
  rwa [Nat.pow_eq, Nat.cast_pow, Nat.cast_ofNat] at hclose

theorem scaleUp?_close (hc : c < 2 ^ 53) {n : ℕ} (hn : n ≤ 150) :
    ∃ y, scaleUp? (.ofNat c) n = some y ∧ y.HasQuanta (Scaled.read ⟨c, n⟩) ∧
      Close 2 y.value (c * 10 ^ n) := by
  have hx := Binary.ofNat_hasQuanta_of_lt hc
  have hp := powerOfTen_hasQuanta hn
  have hle : binary64.round (c * binary64.one * tenPower n) binary64.one ≤
      2 ^ (53 + 4 * n) * binary64.one := by
    rw [one_eq, ← pow_add]
    apply round_le (Nat.two_pow_pos _) (onGrid_two_pow _)
    rw [pow_add, ← one_eq]
    calc c * binary64.one * tenPower n
        ≤ 2 ^ 53 * binary64.one * (2 ^ (4 * n) * binary64.one) :=
          Nat.mul_le_mul (Nat.mul_le_mul_right _ hc.le) (tenPower_le n)
      _ = 2 ^ (53 + 4 * n) * binary64.one * binary64.one := by ring
  have hy := hx.mul hp (hle.trans_lt (two_pow_mul_one_lt_limit (by omega)))
  have hnormal : c * binary64.one * tenPower n = 0 ∨
      2 ^ 52 * binary64.one ≤ c * binary64.one * tenPower n := by
    rcases Nat.eq_zero_or_pos c with rfl | hpos
    · exact .inl (by simp)
    · have hfull : 2 ^ 52 ≤ binary64.one := by decide +kernel
      right
      calc 2 ^ 52 * binary64.one ≤ binary64.one * tenPower n :=
            Nat.mul_le_mul hfull (one_le_tenPower n)
        _ ≤ c * binary64.one * tenPower n :=
            Nat.mul_le_mul_right _ (Nat.le_mul_of_pos_left _ hpos)
  have hexact : ((c * binary64.one * tenPower n : ℕ) : ℚ) / binary64.one / binary64.one =
      (powerOfTen n).value * c := by
    have hone := binary64.cast_one_pos
    rw [hp.value_eq]
    push_cast
    field_simp
  have herror := value_error binary64.one_pos hy hnormal
  rw [hexact] at herror
  refine ⟨_, ?_, hy, ?_⟩
  · rw [scaleUp?, if_pos (hn.trans (by decide))]
    exact if_pos hy.isFinite
  · rw [mul_comm]
    exact ((powerOfTen_close hn).mul (Nat.cast_nonneg c)).succ herror

theorem scaleDown_close (hc : c < 2 ^ 53) {n : ℕ} (hn : n + 1 ≤ 150) :
    (scaleDown (.ofNat c) (n + 1)).HasQuanta (Scaled.read ⟨c, .negSucc n⟩) ∧
      Close 3 (scaleDown (.ofNat c) (n + 1)).value (c / 10 ^ (n + 1)) := by
  have hone := binary64.one_pos
  have hx := Binary.ofNat_hasQuanta_of_lt hc
  have hp := powerOfTen_hasQuanta hn
  have hpos : 0 < tenPower (n + 1) := hone.trans_le (one_le_tenPower _)
  have hle : binary64.round (c * binary64.one * binary64.one) (tenPower (n + 1)) ≤
      c * binary64.one := by
    apply round_le hpos (onGrid_mul_one hc)
    exact Nat.mul_le_mul_left _ (one_le_tenPower _)
  have hy := hx.div hp hpos (hle.trans_lt hx.lt_limit)
  have hnormal : c * binary64.one * binary64.one = 0 ∨
      2 ^ 52 * tenPower (n + 1) ≤ c * binary64.one * binary64.one := by
    rcases Nat.eq_zero_or_pos c with rfl | hc0
    · exact .inl (by simp)
    · have hroom : 2 ^ (52 + 4 * (n + 1)) ≤ binary64.one := by
        have hscale := binary64_scale
        rw [one_eq]
        exact Nat.pow_le_pow_right (by norm_num) (by omega)
      right
      calc 2 ^ 52 * tenPower (n + 1) ≤ 2 ^ 52 * (2 ^ (4 * (n + 1)) * binary64.one) :=
            Nat.mul_le_mul_left _ (tenPower_le _)
        _ = 2 ^ (52 + 4 * (n + 1)) * binary64.one := by rw [pow_add]; ring
        _ ≤ binary64.one * binary64.one := Nat.mul_le_mul_right _ hroom
        _ ≤ c * binary64.one * binary64.one :=
            Nat.mul_le_mul_right _ (Nat.le_mul_of_pos_left _ hc0)
  have hexact : ((c * binary64.one * binary64.one : ℕ) : ℚ) / tenPower (n + 1) / binary64.one =
      c / (powerOfTen (n + 1)).value := by
    have honeQ := binary64.cast_one_pos
    have hposQ : (0 : ℚ) < tenPower (n + 1) := by exact_mod_cast hpos
    rw [hp.value_eq]
    push_cast
    field_simp
  have herror := value_error hpos hy hnormal
  rw [hexact] at herror
  have hdown : scaleDown (.ofNat c) (n + 1) = (Binary.ofNat c).div (powerOfTen (n + 1)) := by
    rw [scaleDown, if_pos (hn.trans (by decide))]
  rw [hdown]
  exact ⟨hy, ((powerOfTen_close hn).const_div (Nat.cast_nonneg c) (by positivity)).succ herror⟩

/-- The reader's double for a decimal is off by less than two units in its last place. -/
theorem scaled?_read {d : Scaled} (hc : d.coefficient < 2 ^ 53) (he : d.exponent.natAbs ≤ 150) :
    ∃ y, scaled? d.coefficient d.exponent = some y ∧ y.HasQuanta d.read ∧
      |y.value - d.value| ≤ 25 / 2 ^ 56 * d.value := by
  obtain ⟨c, e⟩ := d
  cases e with
  | ofNat n =>
    obtain ⟨y, hy, hquanta, hclose⟩ := scaleUp?_close (c := c) hc (n := n) he
    have hnonneg : 0 ≤ y.value := by
      rw [hquanta.value_eq]
      positivity
    have hvalue : Scaled.value ⟨c, .ofNat n⟩ = c * 10 ^ n := by
      rw [Scaled.value, Int.ofNat_eq_natCast, zpow_natCast]
    rw [← hvalue] at hclose
    exact ⟨y, hy, hquanta, (hclose.weaken hnonneg).relative_of_three (Scaled.value_nonneg _)⟩
  | negSucc n =>
    obtain ⟨hquanta, hclose⟩ := scaleDown_close (c := c) hc (n := n) he
    have hvalue : Scaled.value ⟨c, .negSucc n⟩ = c / 10 ^ (n + 1) := by
      rw [Scaled.value, zpow_negSucc, div_eq_mul_inv]
    rw [← hvalue] at hclose
    exact ⟨_, rfl, hquanta, hclose.relative_of_three (Scaled.value_nonneg _)⟩

end Json.Number

end HostStatus
