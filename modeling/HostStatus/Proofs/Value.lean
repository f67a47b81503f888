import HostStatus.Binary.Arithmetic
import HostStatus.Proofs.Rounding
import Mathlib.Algebra.Order.Field.Basic
import Mathlib.Algebra.Order.AbsoluteValue.Basic
import Mathlib.Data.Rat.Cast.Order
import Mathlib.Tactic.FieldSimp
import Mathlib.Tactic.GCongr
import Mathlib.Tactic.Linarith
import Mathlib.Tactic.NormNum
import Mathlib.Tactic.Positivity
import Mathlib.Tactic.Ring

/-!
# Binary numbers as rational numbers

`RoundsToEven` and `IsNearest` say what correct rounding is without a word on how it is done:
the first for whole numbers, the second for the numbers of a format. `Nearest.halfEven` and
`Format.round` meet them. `HasQuanta` names the finite numbers without a minus sign, on which each
operation is one rounding of an exact quotient, and `HasMagnitude` those of either sign.
-/

namespace HostStatus

/-- `n` is a whole number nearest to `r`, the even one of two. -/
def RoundsToEven (r : ℚ) (n : ℕ) : Prop :=
  |r - n| ≤ 1 / 2 ∧ (|r - n| = 1 / 2 → Even n)

/-- Whole numbers are at least one apart. -/
theorem eq_of_abs_sub_lt_one {m n : ℕ} (h : |(m : ℚ) - n| < 1) : m = n := by
  have hint : |(m : ℤ) - n| < 1 := by exact_mod_cast h
  rw [Int.abs_lt_one_iff] at hint
  omega

namespace Nearest

theorem halfEven_error (num : ℕ) {den : ℕ} (hden : 0 < den) :
    |(halfEven num den : ℚ) - num / den| ≤ 1 / 2 := by
  have hpos : (0 : ℚ) < den := by exact_mod_cast hden
  have hupper : (2 * (halfEven num den * den) : ℚ) ≤ 2 * num + den := by
    exact_mod_cast halfEven_le num den
  have hlower : (2 * num : ℚ) ≤ 2 * (halfEven num den * den) + den := by
    exact_mod_cast le_halfEven num hden
  have hdiff : (halfEven num den : ℚ) - num / den = (halfEven num den * den - num) / den := by
    field_simp
  rw [hdiff, abs_le, le_div_iff₀ hpos, div_le_iff₀ hpos]
  exact ⟨by linarith, by linarith⟩

theorem halfEven_nearest (num : ℕ) {den : ℕ} (hden : 0 < den) (k : ℕ) :
    |(halfEven num den : ℚ) - num / den| ≤ |(k : ℚ) - num / den| := by
  have herr := halfEven_error num hden
  rcases eq_or_ne k (halfEven num den) with rfl | hne
  · exact le_rfl
  · have hone : (1 : ℚ) ≤ |(k : ℚ) - halfEven num den| := by
      have hint : (1 : ℤ) ≤ |(k : ℤ) - halfEven num den| := by
        exact Int.one_le_abs (by omega)
      exact_mod_cast hint
    have htri := abs_sub_le (k : ℚ) (num / den) (halfEven num den)
    rw [abs_sub_comm ((num : ℚ) / den)] at htri
    linarith

/-- On an exact half the rounding is even, whichever neighbour it is. -/
theorem halfEven_even_of_half {num den : ℕ} (hden : 0 < den)
    (h : 2 * num = 2 * (halfEven num den * den) + den ∨
      2 * (halfEven num den * den) = 2 * num + den) : Even (halfEven num den) := by
  have hdiv := Nat.div_add_mod num den
  have hmod := Nat.mod_lt num hden
  rw [Nat.mul_comm] at hdiv
  rw [Nat.even_iff]
  unfold halfEven at h ⊢
  dsimp only at h ⊢
  split_ifs at h ⊢ with hlow
  · rcases hlow with hlt | ⟨_, heven⟩
    · exfalso; omega
    · exact heven
  · rw [Nat.add_mul] at h
    have hhalf : 2 * (num % den) = den := by omega
    omega

theorem halfEven_roundsToEven (num : ℕ) {den : ℕ} (hden : 0 < den) :
    RoundsToEven (num / den) (halfEven num den) := by
  refine ⟨by rw [abs_sub_comm]; exact halfEven_error num hden, fun hhalf => ?_⟩
  apply halfEven_even_of_half hden
  have hpos : (0 : ℚ) < den := by exact_mod_cast hden
  rcases abs_eq (by norm_num : (0 : ℚ) ≤ 1 / 2) |>.1 hhalf with habove | hbelow
  · left
    have : (2 * num : ℚ) = 2 * (halfEven num den * den) + den := by
      rw [sub_eq_iff_eq_add, div_eq_iff hpos.ne'] at habove
      linarith
    exact_mod_cast this
  · right
    have : (2 * (halfEven num den * den) : ℚ) = 2 * num + den := by
      rw [sub_eq_iff_eq_add, div_eq_iff hpos.ne'] at hbelow
      linarith
    exact_mod_cast this

end Nearest

namespace Format

variable {F : Format}

theorem cast_one_pos (F : Format) : (0 : ℚ) < F.one := by
  exact_mod_cast F.one_pos

/-- No number of the format is nearer to an exact value than what it is rounded to. -/
theorem round_nearest (num : ℕ) {y den : ℕ} (hden : 0 < den) (hy : F.OnGrid y) :
    |(F.round num den : ℚ) - num / den| ≤ |(y : ℚ) - num / den| := by
  have hpos : (0 : ℚ) < den := by exact_mod_cast hden
  have hsteps {z : ℕ} (hz : 2 ^ F.spacing (num / den) ∣ z) :
      |(F.round num den : ℚ) - num / den| ≤ |(z : ℚ) - num / den| := by
    obtain ⟨k, rfl⟩ := hz
    rw [round_eq]
    generalize F.spacing (num / den) = s
    have hstep : (0 : ℚ) < 2 ^ s := by positivity
    have hscale (m : ℚ) : m * 2 ^ s - num / den = (m - num / (den * 2 ^ s)) * 2 ^ s := by
      field_simp
    have hk := Nearest.halfEven_nearest num (Nat.mul_pos hden (Nat.two_pow_pos s)) k
    push_cast at hk ⊢
    rw [mul_comm (2 ^ s : ℚ) k, hscale, hscale, abs_mul, abs_mul]
    exact mul_le_mul_of_nonneg_right hk (abs_nonneg _)
  by_cases hsp : F.spacing (num / den) ≤ F.spacing y
  · exact hsteps ((Nat.pow_dvd_pow 2 hsp).trans hy)
  · -- Below the binade of the exact value, its least number is nearer than `y`.
    have hp := F.two_le_precision
    obtain ⟨hlow, _⟩ := F.binade_bounds (q := num / den) (by omega)
    have hyb := lt_two_pow_of_spacing_lt (Nat.lt_of_not_le hsp)
    have hbx := (Nat.le_div_iff_mul_le hden).1 hlow
    have hstep := hsteps (Nat.pow_dvd_pow 2
      (by omega : F.spacing (num / den) ≤ F.spacing (num / den) + F.precision - 1))
    generalize 2 ^ (F.spacing (num / den) + F.precision - 1) = b at hyb hbx hstep
    have hyb' : (y : ℚ) ≤ b := by exact_mod_cast hyb.le
    have hbx' : (b : ℚ) ≤ num / den := by
      rw [le_div_iff₀ hpos]
      exact_mod_cast hbx
    rw [abs_of_nonpos (by linarith : (b : ℚ) - num / den ≤ 0)] at hstep
    rw [abs_of_nonpos (by linarith : (y : ℚ) - num / den ≤ 0)]
    linarith

/-- Half the spacing of the exact value's own size. -/
theorem round_error_le_spacing (F : Format) (num : ℕ) {den : ℕ} (hden : 0 < den) :
    |(F.round num den : ℚ) - num / den| ≤ 2 ^ F.spacing (num / den) / 2 := by
  have hpos : (0 : ℚ) < den := by exact_mod_cast hden
  rw [round_eq]
  generalize F.spacing (num / den) = s
  have hhalf := Nearest.halfEven_error num (Nat.mul_pos hden (Nat.two_pow_pos s))
  have hscale (m : ℚ) : m * 2 ^ s - num / den = (m - num / (den * 2 ^ s)) * 2 ^ s := by
    field_simp
  push_cast at hhalf ⊢
  rw [hscale, abs_mul, abs_of_pos (by positivity : (0 : ℚ) < 2 ^ s)]
  calc |(Nearest.halfEven num (den * 2 ^ s) : ℚ) - num / (den * 2 ^ s)| * 2 ^ s
      ≤ 1 / 2 * 2 ^ s := mul_le_mul_of_nonneg_right hhalf (by positivity)
    _ = 2 ^ s / 2 := by ring

/-- From the least number with all its digits on, one rounding is off by at most half a unit of the
last digit. -/
theorem round_error {num den : ℕ} (hden : 0 < den)
    (h : num = 0 ∨ 2 ^ (F.precision - 1) * den ≤ num) :
    |(F.round num den : ℚ) - num / den| ≤ num / den / 2 ^ F.precision := by
  have hpos : (0 : ℚ) < den := by exact_mod_cast hden
  have hp := F.two_le_precision
  rcases h with rfl | h
  · simp [F.round_zero hden]
  have hnormal : 2 ^ (F.precision - 1) ≤ num / den := (Nat.le_div_iff_mul_le hden).2 h
  have hbinade : 2 ^ (F.spacing (num / den) + F.precision - 1) ≤ num / den := by
    by_cases hz : F.spacing (num / den) = 0
    · rwa [hz, Nat.zero_add]
    · exact (F.binade_bounds hz).1
  have hexact : (2 : ℚ) ^ (F.spacing (num / den) + F.precision - 1) ≤ num / den := by
    rw [le_div_iff₀ hpos]
    exact_mod_cast (Nat.le_div_iff_mul_le hden).1 hbinade
  have hhalf := F.round_error_le_spacing num hden
  generalize F.spacing (num / den) = s at hexact hhalf
  calc |(F.round num den : ℚ) - num / den| ≤ 2 ^ s / 2 := hhalf
    _ = 2 ^ (s + F.precision - 1) / 2 ^ F.precision := by
        obtain ⟨p, hprec⟩ : ∃ p, F.precision = p + 1 := ⟨F.precision - 1, by omega⟩
        rw [hprec, show s + (p + 1) - 1 = s + p by omega, pow_add, pow_succ]
        field_simp
    _ ≤ num / den / 2 ^ F.precision := by gcongr

end Format

namespace Binary

variable {F : Format}

/-- The number that `x` stands for, if it is finite. -/
def value : Binary F → ℚ
  | finite negative quanta _ => (signed negative quanta : ℚ) / F.one
  | _ => 0

/-- `x` is finite, and no finite number of the format is nearer to `v`. -/
structure IsNearest (v : ℚ) (x : Binary F) : Prop where
  finite : x.isFinite = true
  nearest : ∀ y : Binary F, y.isFinite = true → |x.value - v| ≤ |y.value - v|

/-- `x` is `q` quanta, of either sign. -/
def HasMagnitude (x : Binary F) (q : ℕ) : Prop :=
  ∃ negative, ∃ h : F.Representable q, x = finite negative q h

/-- `x` is `q` quanta, without a minus sign. -/
def HasQuanta (x : Binary F) (q : ℕ) : Prop :=
  ∃ h : F.Representable q, x = finite false q h

namespace HasQuanta

variable {x y : Binary F} {a b : ℕ}

theorem value_eq (hx : x.HasQuanta a) : x.value = (a : ℚ) / F.one := by
  obtain ⟨_, rfl⟩ := hx
  simp [value, signed]

theorem isFinite (hx : x.HasQuanta a) : x.isFinite = true := by
  obtain ⟨_, rfl⟩ := hx
  rfl

theorem isNegative (hx : x.HasQuanta a) : x.isNegative = false := by
  obtain ⟨_, rfl⟩ := hx
  rfl

theorem hasMagnitude (hx : x.HasQuanta a) : x.HasMagnitude a := by
  obtain ⟨h, rfl⟩ := hx
  exact ⟨false, h, rfl⟩

theorem onGrid (hx : x.HasQuanta a) : F.OnGrid a := by
  obtain ⟨h, _⟩ := hx
  exact (Format.representable_iff.1 h).2

theorem lt_limit (hx : x.HasQuanta a) : a < F.limit := by
  obtain ⟨h, _⟩ := hx
  exact h.1

theorem eq (hx : x.HasQuanta a) (hx' : x.HasQuanta b) : a = b := by
  obtain ⟨_, rfl⟩ := hx
  obtain ⟨_, heq⟩ := hx'
  exact (Binary.finite.inj heq).2

end HasQuanta

theorem hasMagnitude_of_value_eq {x : Binary F} {a : ℕ} (hx : x.isFinite = true)
    (h : x.value = (a : ℚ) / F.one) : x.HasMagnitude a := by
  cases x with
  | nan s p hp => cases hx
  | infinite s => cases hx
  | finite s q hq =>
    have hsigned : (signed s q : ℚ) = a := (div_left_inj' F.cast_one_pos.ne').1 h
    have hsigned : signed s q = a := by exact_mod_cast hsigned
    obtain rfl : q = a := by
      unfold signed at hsigned
      split at hsigned <;> omega
    exact ⟨s, hq, rfl⟩

/-- A number is told by its sign and its value. -/
theorem eq_of_value_eq {x y : Binary F} (hx : x.isFinite = true) (hy : y.isFinite = true)
    (hsign : x.isNegative = y.isNegative) (h : x.value = y.value) : x = y := by
  cases x with
  | nan s p hp => cases hx
  | infinite s => cases hx
  | finite s q hq =>
    cases y with
    | nan t p hp => cases hy
    | infinite t => cases hy
    | finite t r hr =>
      obtain rfl : s = t := hsign
      have hsigned : (signed s q : ℚ) = signed s r := (div_left_inj' F.cast_one_pos.ne').1 h
      have hsigned : signed s q = signed s r := by exact_mod_cast hsigned
      obtain rfl : q = r := by
        unfold signed at hsigned
        split at hsigned <;> omega
      rfl

/-- Only one number below no zero has a minus sign. -/
theorem hasQuanta_or_minus_zero {x : Binary F} (hx : x.isFinite = true) (h : 0 ≤ x.value) :
    (∃ q, x.HasQuanta q) ∨ ∃ hzero, x = finite true 0 hzero := by
  cases x with
  | nan s p hp => cases hx
  | infinite s => cases hx
  | finite s q hq =>
    cases s with
    | false => exact .inl ⟨q, hq, rfl⟩
    | true =>
      rw [value, signed, if_pos rfl, le_div_iff₀ F.cast_one_pos, zero_mul] at h
      have hq0 : q = 0 := by
        have : (0 : ℤ) ≤ -q := by exact_mod_cast h
        omega
      subst hq0
      exact .inr ⟨hq, rfl⟩

theorem ofQuotient_hasQuanta {num den : ℕ} (hden : 0 < den) (h : F.round num den < F.limit) :
    (ofQuotient false num den : Binary F).HasQuanta (F.round num den) := by
  have hrep : F.Representable (F.round num den) :=
    Format.representable_iff.2 ⟨h, F.round_onGrid num hden⟩
  exact ⟨hrep, dif_pos hrep⟩

theorem ofNat_hasQuanta {n : ℕ} (h : F.round (n * F.one) 1 < F.limit) :
    (ofNat n : Binary F).HasQuanta (F.round (n * F.one) 1) :=
  ofQuotient_hasQuanta Nat.one_pos h

namespace HasQuanta

variable {x y : Binary F} {a b : ℕ}

theorem mul (hx : x.HasQuanta a) (hy : y.HasQuanta b) (h : F.round (a * b) F.one < F.limit) :
    (x.mul y).HasQuanta (F.round (a * b) F.one) := by
  obtain ⟨_, rfl⟩ := hx
  obtain ⟨_, rfl⟩ := hy
  exact ofQuotient_hasQuanta F.one_pos h

theorem div (hx : x.HasQuanta a) (hy : y.HasQuanta b) (hb : 0 < b)
    (h : F.round (a * F.one) b < F.limit) : (x.div y).HasQuanta (F.round (a * F.one) b) := by
  obtain ⟨_, rfl⟩ := hx
  obtain ⟨_, rfl⟩ := hy
  rw [Binary.div, if_neg hb.ne']
  exact ofQuotient_hasQuanta hb h

theorem roundToWhole (hx : x.HasQuanta a)
    (h : F.Representable (Nearest.halfUp a F.one * F.one)) :
    x.roundToWhole.HasQuanta (Nearest.halfUp a F.one * F.one) := by
  obtain ⟨_, rfl⟩ := hx
  exact ⟨h, dif_pos h⟩

theorem convert {G : Format} (hx : x.HasQuanta a) (h : G.round (a * G.one) F.one < G.limit) :
    (x.convert G).HasQuanta (G.round (a * G.one) F.one) := by
  obtain ⟨_, rfl⟩ := hx
  exact ofQuotient_hasQuanta F.one_pos h

theorem less_eq (hx : x.HasQuanta a) (hy : y.HasQuanta b) : x.less y = decide (a < b) := by
  obtain ⟨_, rfl⟩ := hx
  obtain ⟨_, rfl⟩ := hy
  simp [less, signed]

end HasQuanta

/-- What is rounded once is nearest, also among the numbers with a minus sign. -/
theorem HasQuanta.isNearest {x : Binary F} {num den : ℕ} (hden : 0 < den)
    (hx : x.HasQuanta (F.round num den)) : x.IsNearest (num / den / F.one) := by
  refine ⟨hx.isFinite, fun y hy => ?_⟩
  have hone := F.cast_one_pos
  cases y with
  | nan s p hp => cases hy
  | infinite s => cases hy
  | finite s b hb =>
    have hnearest := F.round_nearest num hden (Format.representable_iff.1 hb).2
    have hsigned : |(b : ℚ) - num / den| ≤ |(signed s b : ℚ) - num / den| := by
      cases s with
      | false => simp [signed]
      | true =>
        have hb0 : (0 : ℚ) ≤ b := Nat.cast_nonneg b
        have hv : (0 : ℚ) ≤ num / den := by positivity
        simp only [signed, if_true]
        push_cast
        rw [abs_of_nonpos (by linarith : -(b : ℚ) - num / den ≤ 0), abs_le]
        exact ⟨by linarith, by linarith⟩
    rw [hx.value_eq, value, ← sub_div, ← sub_div, abs_div, abs_div]
    exact div_le_div_of_nonneg_right (hnearest.trans hsigned) (abs_nonneg _)

/-- A whole number is held exactly if it has no more digits than the format. -/
theorem ofNat_hasQuanta_of_onGrid {n : ℕ} (h : F.OnGrid (n * F.one))
    (hlimit : n * F.one < F.limit) : (ofNat n : Binary F).HasQuanta (n * F.one) := by
  have hround : F.round (n * F.one) 1 = n * F.one := Format.round_self h
  have hnat : (ofNat n : Binary F).HasQuanta (F.round (n * F.one) 1) :=
    ofNat_hasQuanta (by rwa [hround])
  rwa [hround] at hnat

/-- Whole numbers of at most 53 binary digits are doubles. -/
theorem ofNat_hasQuanta_of_lt {n : ℕ} (h : n < 2 ^ 53) :
    (ofNat n : Double).HasQuanta (n * Format.binary64.one) :=
  ofNat_hasQuanta_of_onGrid (Format.onGrid_mul_one h)
    (Format.lt_limit_of_le_mul_one (by omega) le_rfl)

/-- Numbers of 64 bits are rounded, but not past the power of two above them. -/
theorem round_ofNat_le {n : ℕ} (h : n < 2 ^ 64) :
    Format.binary64.round (n * Format.binary64.one) 1 ≤ 2 ^ 64 * Format.binary64.one := by
  rw [Format.one_eq, ← pow_add]
  apply Format.round_le Nat.one_pos (Format.onGrid_two_pow _)
  rw [pow_add, Nat.mul_one]
  exact Nat.mul_le_mul_right _ h.le

theorem ofNat_hasQuanta_of_lt_two_pow {n : ℕ} (h : n < 2 ^ 64) :
    (ofNat n : Double).HasQuanta (Format.binary64.round (n * Format.binary64.one) 1) :=
  ofNat_hasQuanta (Format.lt_limit_of_le_mul_one le_rfl (round_ofNat_le h))

end Binary

end HostStatus
