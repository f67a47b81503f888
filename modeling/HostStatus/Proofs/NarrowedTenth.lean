import HostStatus.Proofs.Halfway
import HostStatus.Proofs.KeptOrder

/-!
# Tenths in two precisions

A number of quanta is rounded to `wholeTenths` of it, and these are divided by ten in double
precision and narrowed, `narrowedTenth`. To do the same to the outcome changes nothing, for a reason
that depends on its size. Below `2 ^ 20` singles are at most a sixteenth apart, so that the outcome
is less than half a tenth away from the tenths it came from, and they are found again. From there on
singles are at least an eighth apart, and the whole number of tenths may be another one; but it is
at most a twentieth away from the single, which is less than half of an eighth. That argument needs
neighbours as far away on both sides, and it bears the error of double precision for a while only.
What it leaves out, `2 ^ 20` itself and all from `2 ^ 22` on, are multiples of a half, which are
tenths as they are.
-/

namespace HostStatus

open Format

attribute [local irreducible] Format.one Format.limit

/-! ## Close to one number of a format -/

namespace Nearest

theorem halfUp_eq_of_near {num den n : ℕ} (hden : 0 < den) (h : |(num : ℚ) / den - n| < 1 / 2) :
    halfUp num den = n := by
  have herror := halfUp_error num hden
  have htri := abs_sub_le (halfUp num den : ℚ) (num / den) n
  exact eq_of_abs_sub_lt_one (by linarith)

theorem halfUp_mul_le (num den : ℕ) : halfUp num den * den ≤ num + den := by
  have hle : halfUp num den * (2 * den) ≤ 2 * num + den := Nat.div_mul_le_self _ _
  have hdouble : halfUp num den * (2 * den) = 2 * (halfUp num den * den) := by ring
  omega

end Nearest

namespace Format

variable {F : Format} {q low num den : ℕ}

/-- Below a power of two the error is at most half a spacing of the last binade. -/
theorem round_error_of_lt (hden : 0 < den) {s : ℕ} (h : F.round num den < 2 ^ (s + F.precision)) :
    |(F.round num den : ℚ) - num / den| ≤ 2 ^ s / 2 := by
  have hfloor : num / den < 2 ^ (s + F.precision) := by
    by_contra! hge
    have hround := le_round hden (F.onGrid_two_pow _) ((Nat.le_div_iff_mul_le hden).1 hge)
    exact absurd hround (Nat.not_le_of_lt h)
  have hspacing : F.spacing (num / den) ≤ s := by
    by_contra! hlt
    have hlow := (F.binade_bounds (q := num / den) (by omega)).1
    have hle : 2 ^ (s + F.precision) ≤ 2 ^ (F.spacing (num / den) + F.precision - 1) :=
      Nat.pow_le_pow_right Nat.two_pos (by omega)
    omega
  refine (F.round_error_le_spacing num hden).trans ?_
  gcongr
  norm_num

/-- What is nearer to `q` than half a spacing is rounded to `q`, if the grid is nowhere finer. -/
theorem round_eq_of_near (hden : 0 < den) (hq : F.OnGrid q) (hlow : F.OnGrid low) (hlt : low < q)
    (h : |(num : ℚ) / den - q| < 2 ^ F.spacing low / 2) : F.round num den = q := by
  have hpos : (0 : ℚ) < den := by exact_mod_cast hden
  have hnext : ((low : ℚ) + 2 ^ F.spacing low) ≤ q := by
    exact_mod_cast hlow.add_spacing_le hq hlt
  have hstep : (0 : ℚ) < 2 ^ F.spacing low := by positivity
  have hle : low ≤ F.round num den := by
    apply le_round hden hlow
    have hexact : (low : ℚ) ≤ num / den := by linarith [(abs_lt.1 h).1]
    rw [le_div_iff₀ hpos] at hexact
    exact_mod_cast hexact
  have hnearest := F.round_nearest num hden hq
  obtain ⟨k, hk⟩ := (F.round_onGrid num hden).dvd_of_le hle
  obtain ⟨l, hl⟩ := hq.dvd_of_le hlt.le
  have hdistance : |(F.round num den : ℚ) - q| < 2 ^ F.spacing low := by
    have htri := abs_sub_le (F.round num den : ℚ) (num / den) q
    rw [abs_sub_comm (q : ℚ)] at hnearest
    linarith
  -- Both are multiples of the spacing, and less than one spacing apart.
  rw [hk, hl]
  rw [hk, hl] at hdistance
  push_cast at hdistance
  rw [← mul_sub, abs_mul, abs_of_pos hstep, mul_lt_iff_lt_one_right hstep] at hdistance
  rw [eq_of_abs_sub_lt_one hdistance]

/-- A single times a small number is a double. -/
theorem OnGrid.widen (hq : binary32.OnGrid q) {c : ℕ} (hc : c ≤ 2 ^ 29) (k : ℕ) :
    binary64.OnGrid (c * q * 2 ^ k) := by
  obtain ⟨m, hm, heq⟩ := hq.exists_eq_mul_two_pow
  generalize binary32.spacing q = s at heq
  subst heq
  have hfew : c * m < 2 ^ binary64.precision := by
    calc c * m ≤ 2 ^ 29 * m := Nat.mul_le_mul_right m hc
      _ < 2 ^ 29 * 2 ^ 24 := Nat.mul_lt_mul_of_pos_left hm (by norm_num)
      _ = 2 ^ binary64.precision := by decide
  have hsplit : c * (m * 2 ^ s) * 2 ^ k = c * m * 2 ^ (s + k) := by
    rw [pow_add]
    ring
  rw [hsplit]
  exact onGrid_mul_two_pow hfew _

end Format

/-! ## From a number to its tenths -/

/-- Ten times `a` quanta, in double precision, to the nearest whole number. -/
def wholeTenths (a : ℕ) : ℕ :=
  Nearest.halfUp (binary64.round (a * (10 * binary64.one)) binary64.one) binary64.one

/-- `m` tenths, rounded to double precision and then to single precision, in quanta. -/
def narrowedTenth (m : ℕ) : ℕ :=
  binary32.round (binary64.round (m * binary64.one) 10 * binary32.one) binary64.one

theorem tenfold_ratio (F : Format) (q : ℕ) :
    ((10 * q : ℕ) : ℚ) / F.one = 10 * (q / F.one) := by
  push_cast
  ring

/-- Small products are exact, and all others have their digits. -/
theorem round_tenfold_error (a : ℕ) :
    |(binary64.round (a * (10 * binary64.one)) binary64.one : ℚ) / binary64.one -
      10 * (a / binary64.one)| ≤ 10 * (a / binary64.one) / 2 ^ 53 := by
  have hone := binary64.cast_one_pos
  have hproduct : binary64.round (a * (10 * binary64.one)) binary64.one =
      binary64.round (10 * a) 1 :=
    round_congr binary64.one_pos Nat.one_pos (by ring)
  rw [hproduct, ← tenfold_ratio]
  rcases Nat.lt_or_ge (10 * a) (2 ^ 53) with hsmall | hlarge
  · rw [binary64.round_of_lt hsmall, sub_self, abs_zero]
    positivity
  · have hnormal : 2 ^ (binary64.precision - 1) * 1 ≤ 10 * a := by
      have hdigits : 2 ^ (binary64.precision - 1) * 1 ≤ 2 ^ 53 := by decide
      exact hdigits.trans hlarge
    have herror := round_error_in_ones Nat.one_pos (.inr hnormal)
    rw [Nat.cast_one, div_one] at herror
    exact herror

theorem wholeTenths_error (a : ℕ) :
    |(wholeTenths a : ℚ) - 10 * (a / binary64.one)| ≤
      1 / 2 + 10 * (a / binary64.one) / 2 ^ 53 :=
  (abs_sub_le _ _ _).trans
    (add_le_add (Nearest.halfUp_error _ binary64.one_pos) (round_tenfold_error a))

theorem narrowedTenth_onGrid (m : ℕ) : binary32.OnGrid (narrowedTenth m) :=
  round_onGrid _ _ binary64.one_pos

/-- Singles are doubles, and ten times the largest is still one. -/
theorem exists_widening :
    ∃ k, binary64.one = binary32.one * 2 ^ k ∧ 16 * binary32.limit * 2 ^ k ≤ binary64.limit :=
  ⟨925, by decide +kernel, by decide +kernel⟩

/-- A single whose tenfold is whole is that many tenths. -/
theorem narrowedTenth_exact {m q : ℕ} (hq : binary32.OnGrid q)
    (h : m * binary32.one = 10 * q) : narrowedTenth m = q := by
  obtain ⟨k, hk, -⟩ := exists_widening
  have hwide : binary64.OnGrid (q * 2 ^ k) := by
    simpa only [Nat.one_mul] using hq.widen (c := 1) (by norm_num) k
  have htenth : binary64.round (m * binary64.one) 10 = q * 2 ^ k := by
    have hten : m * binary64.one = q * 2 ^ k * 10 := by
      calc m * binary64.one = m * binary32.one * 2 ^ k := by rw [hk, Nat.mul_assoc]
        _ = q * 2 ^ k * 10 := by rw [h]; ring
    rw [hten]
    exact round_mul_self (by norm_num) hwide
  have hnarrow : q * 2 ^ k * binary32.one = q * binary64.one := by
    rw [hk]
    ring
  rw [narrowedTenth, htenth, hnarrow]
  exact round_mul_self binary64.one_pos hq

theorem round_tenth_error (m : ℕ) :
    |(binary64.round (m * binary64.one) 10 : ℚ) / binary64.one - m / 10| ≤ m / 10 / 2 ^ 53 := by
  have herror := round_ratio_error (F := binary64) m (by norm_num : 0 < 10) (by decide +kernel)
  rw [Nat.cast_ofNat] at herror
  exact herror

/-- The exact value that is narrowed, in ones instead of quanta. -/
theorem narrowed_quotient (r : ℕ) :
    ((r * binary32.one : ℕ) : ℚ) / binary64.one / binary32.one = r / binary64.one := by
  have hone := binary32.cast_one_pos
  push_cast
  field_simp

/-- A tenth keeps its digits when it is narrowed. -/
theorem one_le_round_tenth {m : ℕ} (hm : 0 < m) :
    binary64.one ≤ 16 * binary64.round (m * binary64.one) 10 := by
  have hone := binary64.cast_one_pos
  have hmQ : (1 : ℚ) ≤ m := by exact_mod_cast hm
  have hlow : (1 : ℚ) / 16 ≤ binary64.round (m * binary64.one) 10 / binary64.one := by
    linarith [(abs_le.1 (round_tenth_error m)).1]
  rw [div_le_div_iff₀ (by norm_num) hone] at hlow
  have hscaled : (binary64.one : ℚ) ≤ 16 * binary64.round (m * binary64.one) 10 := by linarith
  exact_mod_cast hscaled

theorem narrowedTenth_error (m : ℕ) :
    |(narrowedTenth m : ℚ) / binary32.one - m / 10| ≤ m / 10 / 2 ^ 23 := by
  have hnormal : binary64.round (m * binary64.one) 10 * binary32.one = 0 ∨
      2 ^ (binary32.precision - 1) * binary64.one ≤
        binary64.round (m * binary64.one) 10 * binary32.one := by
    rcases Nat.eq_zero_or_pos m with rfl | hm
    · left
      rw [Nat.zero_mul, round_zero _ (by norm_num), Nat.zero_mul]
    · right
      have hroom : 2 ^ (binary32.precision - 1) * 16 ≤ binary32.one := by decide +kernel
      calc 2 ^ (binary32.precision - 1) * binary64.one
          ≤ 2 ^ (binary32.precision - 1) * (16 * binary64.round (m * binary64.one) 10) :=
            Nat.mul_le_mul_left _ (one_le_round_tenth hm)
        _ = binary64.round (m * binary64.one) 10 * (2 ^ (binary32.precision - 1) * 16) := by ring
        _ ≤ binary64.round (m * binary64.one) 10 * binary32.one := Nat.mul_le_mul_left _ hroom
  have hnarrow := round_error_in_ones (F := binary32) binary64.one_pos hnormal
  have hprecision : binary32.precision = 24 := rfl
  rw [narrowed_quotient, hprecision] at hnarrow
  have hnonneg : (0 : ℚ) ≤ m / 10 := by positivity
  have htenth := abs_le.1 (round_tenth_error m)
  have hnarrow := abs_le.1 hnarrow
  rw [narrowedTenth, abs_le]
  exact ⟨by linarith [htenth.1, hnarrow.1], by linarith [htenth.2, hnarrow.2]⟩

/-! ## Once more -/

/-- Below `2 ^ 20` narrowing is off by half a sixteenth. -/
theorem narrow_error_of_lt {m : ℕ} (h : narrowedTenth m < 2 ^ 20 * binary32.one) :
    |(narrowedTenth m : ℚ) / binary32.one -
      binary64.round (m * binary64.one) 10 / binary64.one| ≤ 1 / 32 := by
  have hone := binary32.cast_one_pos
  have hlast : 2 ^ 20 * binary32.one = 2 ^ (145 + binary32.precision) := by
    rw [binary32_one]
    decide +kernel
  rw [hlast] at h
  have herror := round_error_of_lt binary64.one_pos h
  rw [← narrowed_quotient, ← sub_div, abs_div, abs_of_pos hone, div_le_iff₀ hone]
  refine herror.trans (le_of_eq ?_)
  rw [binary32_one]
  norm_num

/-- That is less than half a tenth, so that the tenths are found again. -/
theorem halfUp_narrowedTenth {m : ℕ} (h : narrowedTenth m < 2 ^ 20 * binary32.one) :
    Nearest.halfUp (10 * narrowedTenth m) binary32.one = m := by
  have hone := binary32.cast_one_pos
  have hbound : (narrowedTenth m : ℚ) / binary32.one < 2 ^ 20 := by
    rw [div_lt_iff₀ hone]
    exact_mod_cast h
  have htenth := abs_le.1 (round_tenth_error m)
  have hnarrow := abs_le.1 (narrow_error_of_lt h)
  have hm : (m : ℚ) / 10 ≤ 2 ^ 21 := by linarith [htenth.1, hnarrow.1]
  apply Nearest.halfUp_eq_of_near binary32.one_pos
  have hfactor : 10 * ((narrowedTenth m : ℚ) / binary32.one) - m =
      10 * ((narrowedTenth m : ℚ) / binary32.one - m / 10) := by ring
  rw [tenfold_ratio, hfactor, abs_lt]
  exact ⟨by linarith [htenth.1, hnarrow.1], by linarith [htenth.2, hnarrow.2]⟩

/-- The tenths nearest to a single are at most a twentieth away from it. -/
theorem tenth_halfUp_close {q : ℕ} (h : q < 2 ^ 22 * binary32.one) :
    |(binary64.round (Nearest.halfUp (10 * q) binary32.one * binary64.one) 10 : ℚ) / binary64.one -
      q / binary32.one| < 1 / 16 := by
  have hbound : (q : ℚ) / binary32.one ≤ 2 ^ 22 := by
    rw [div_le_iff₀ binary32.cast_one_pos]
    exact_mod_cast h.le
  have hhalf := Nearest.halfUp_error (10 * q) binary32.one_pos
  have htenth := round_tenth_error (Nearest.halfUp (10 * q) binary32.one)
  rw [tenfold_ratio] at hhalf
  have hhalf := abs_le.1 hhalf
  have htenth := abs_le.1 htenth
  rw [abs_lt]
  exact ⟨by linarith [hhalf.1, hhalf.2, htenth.1], by linarith [hhalf.1, hhalf.2, htenth.2]⟩

/-- Where singles are an eighth apart, that is less than half of it. -/
theorem narrowedTenth_halfUp_of_lt {q : ℕ} (hq : binary32.OnGrid q)
    (hlow : 2 ^ 20 * binary32.one < q)
    (hhigh : q < 2 ^ 22 * binary32.one) :
    narrowedTenth (Nearest.halfUp (10 * q) binary32.one) = q := by
  have hone := binary32.cast_one_pos
  have hpow : 2 ^ 20 * binary32.one = 2 ^ 169 := by
    rw [binary32_one]
    norm_num
  rw [hpow] at hlow
  have hspacing : binary32.spacing (2 ^ 169) = 146 := by decide +kernel
  apply round_eq_of_near binary64.one_pos hq (onGrid_two_pow 169) hlow
  have hclose := tenth_halfUp_close hhigh
  rw [← narrowed_quotient, ← sub_div, abs_div, abs_of_pos hone, div_lt_iff₀ hone] at hclose
  refine hclose.trans_le (le_of_eq ?_)
  rw [hspacing, binary32_one]
  norm_num

/-- Multiples of a half are whole numbers of tenths. -/
theorem narrowedTenth_halfUp_of_dvd {q : ℕ} (hq : binary32.OnGrid q) (h : 2 ^ 148 ∣ q) :
    narrowedTenth (Nearest.halfUp (10 * q) binary32.one) = q := by
  obtain ⟨k, rfl⟩ := h
  have hten : 10 * (2 ^ 148 * k) = 5 * k * binary32.one := by
    rw [binary32_one]
    ring
  rw [hten, Nearest.halfUp_mul_self binary32.one_pos]
  exact narrowedTenth_exact hq hten.symm

/-- What came from a whole number of tenths is left where it is. -/
theorem narrowedTenth_halfUp (m : ℕ) :
    narrowedTenth (Nearest.halfUp (10 * narrowedTenth m) binary32.one) = narrowedTenth m := by
  have hq := narrowedTenth_onGrid m
  rcases Nat.lt_trichotomy (narrowedTenth m) (2 ^ 20 * binary32.one) with hsmall | hfirst | hlarge
  · rw [halfUp_narrowedTenth hsmall]
  · -- Its neighbour below is too near for the argument of those above it.
    apply narrowedTenth_halfUp_of_dvd hq
    rw [hfirst, binary32_one]
    exact Dvd.intro (2 ^ 21) (by norm_num)
  · rcases Nat.lt_or_ge (narrowedTenth m) (2 ^ 22 * binary32.one) with hlt | hge
    · exact narrowedTenth_halfUp_of_lt hq hlarge hlt
    · apply narrowedTenth_halfUp_of_dvd hq
      have hspacing : binary32.spacing (2 ^ 22 * binary32.one) = 148 := by decide +kernel
      rw [← hspacing]
      exact hq.dvd_of_le hge

end HostStatus
