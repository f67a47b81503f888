import HostStatus.Binary.Format
import Mathlib.Tactic.Ring
import Mathlib.Tactic.Linarith

/-!
# Laws of rounding to a format

`Nearest.halfEven` never passes a whole number on its way, and it is monotone in the exact quotient.
Both carry over to `Format.round`, whose grid becomes coarser as magnitudes grow: a point of the
grid of its own size is a point of every finer grid, so it bounds the rounding of all that it
bounds. From this follow monotonicity, that the result lies on the grid, and that grid points stay
where they are.
-/

namespace HostStatus

namespace Nearest

theorem le_halfEven_of_mul_le {k num den : ℕ} (hden : 0 < den) (h : k * den ≤ num) :
    k ≤ halfEven num den := by
  have hk : k ≤ num / den := (Nat.le_div_iff_mul_le hden).2 h
  rcases halfEven_cases num den with ⟨heq, _⟩ | ⟨heq, _⟩ <;> omega

theorem halfEven_le_of_le_mul {k num den : ℕ} (hden : 0 < den) (h : num ≤ k * den) :
    halfEven num den ≤ k := by
  have herr := halfEven_le num den
  by_contra! hlt
  have hstep : (k + 1) * den ≤ halfEven num den * den := Nat.mul_le_mul_right den hlt
  have hexact : num = k * den := by nlinarith
  have heq := halfEven_of_dvd (show num % den = 0 by rw [hexact, Nat.mul_mod_left])
  rw [hexact, Nat.mul_div_cancel k hden] at heq
  rw [hexact] at hlt
  omega

/-- Two quotients with the same floor are rounded in their order. -/
theorem halfEven_mono {num den num' den' : ℕ} (hden : 0 < den) (hden' : 0 < den')
    (h : num * den' ≤ num' * den) : halfEven num den ≤ halfEven num' den' := by
  have hfloor : num / den ≤ num' / den' := by
    rw [Nat.le_div_iff_mul_le hden']
    have hle : num / den * den ≤ num := Nat.div_mul_le_self num den
    have : num / den * den' * den ≤ num' * den := by nlinarith
    exact Nat.le_of_mul_le_mul_right this hden
  rcases Nat.lt_or_eq_of_le hfloor with hlt | heq
  · have hup : halfEven num den ≤ num / den + 1 := by
      rcases halfEven_cases num den with ⟨he, _⟩ | ⟨he, _⟩ <;> omega
    have hdown : num' / den' ≤ halfEven num' den' := by
      rcases halfEven_cases num' den' with ⟨he, _⟩ | ⟨he, _⟩ <;> omega
    omega
  · have hn := Nat.div_add_mod num den
    have hn' := Nat.div_add_mod num' den'
    rw [← heq] at hn'
    have hrest : num % den * den' ≤ num' % den' * den := by
      rw [← hn, ← hn'] at h
      nlinarith
    -- The remainders decide, and a half goes the same way under both.
    unfold halfEven
    dsimp only
    rw [← heq]
    split_ifs with hlow hlow' hlow'
    · exact le_rfl
    · exact Nat.le_succ _
    · rcases hlow' with hlt' | ⟨heq', heven⟩
      · have hge : den ≤ 2 * (num % den) := by omega
        exfalso; nlinarith
      · have hgt : den < 2 * (num % den) := by omega
        exfalso; nlinarith
    · exact le_rfl

theorem halfEven_congr {num den num' den' : ℕ} (hden : 0 < den) (hden' : 0 < den')
    (h : num * den' = num' * den) : halfEven num den = halfEven num' den' :=
  Nat.le_antisymm (halfEven_mono hden hden' h.le) (halfEven_mono hden' hden h.ge)

end Nearest

namespace Format

open Nearest

variable {F : Format}

/-- Multiples of the spacing that belongs to their size. -/
def OnGrid (F : Format) (q : ℕ) : Prop :=
  2 ^ F.spacing q ∣ q

theorem representable_iff {q : ℕ} : F.Representable q ↔ q < F.limit ∧ F.OnGrid q := by
  rw [OnGrid, Nat.dvd_iff_mod_eq_zero]
  rfl

theorem log2_mono {q r : ℕ} (h : q ≤ r) : q.log2 ≤ r.log2 := by
  rcases Nat.eq_zero_or_pos q with rfl | hq
  · simp
  · exact (Nat.le_log2 (by omega)).2 ((Nat.log2_self_le (by omega)).trans h)

theorem spacing_mono {q r : ℕ} (h : q ≤ r) : F.spacing q ≤ F.spacing r := by
  have := log2_mono h
  unfold spacing
  omega

/-- A grid point is also a point of the grids of smaller magnitudes. -/
theorem OnGrid.dvd_of_le {q r : ℕ} (hr : F.OnGrid r) (h : q ≤ r) : 2 ^ F.spacing q ∣ r :=
  (Nat.pow_dvd_pow 2 (spacing_mono h)).trans hr

/-- At most `precision` digits, followed by any number of zeros. -/
theorem onGrid_mul_two_pow {m : ℕ} (hm : m < 2 ^ F.precision) (k : ℕ) : F.OnGrid (m * 2 ^ k) := by
  rcases Nat.eq_zero_or_pos m with rfl | hpos
  · simp [OnGrid]
  · have hlt : m * 2 ^ k < 2 ^ (F.precision + k) := by
      rw [pow_add]
      exact Nat.mul_lt_mul_of_pos_right hm (Nat.two_pow_pos k)
    have hlog := (Nat.log2_lt (Nat.mul_ne_zero (by omega) (Nat.two_pow_pos k).ne')).2 hlt
    apply Dvd.dvd.mul_left (Nat.pow_dvd_pow 2 _)
    unfold spacing
    omega

/-- Every grid point is of that form. -/
theorem OnGrid.exists_eq_mul_two_pow {q : ℕ} (hq : F.OnGrid q) :
    ∃ m < 2 ^ F.precision, q = m * 2 ^ F.spacing q := by
  obtain ⟨m, hm⟩ := hq
  refine ⟨m, ?_, by rwa [Nat.mul_comm]⟩
  rcases Nat.eq_zero_or_pos q with rfl | hpos
  · rcases Nat.mul_eq_zero.1 hm.symm with hz | rfl
    · exact absurd hz (Nat.two_pow_pos _).ne'
    · exact Nat.two_pow_pos _
  · have hlt : q < 2 ^ (F.spacing q + F.precision) := by
      rw [← Nat.log2_lt hpos.ne']
      unfold spacing
      omega
    rw [pow_add] at hlt
    exact Nat.lt_of_mul_lt_mul_left (hm.symm.trans_lt hlt)

theorem onGrid_two_pow (k : ℕ) : F.OnGrid (2 ^ k) := by
  have hp := F.two_le_precision
  simpa using F.onGrid_mul_two_pow (m := 1) (Nat.one_lt_two_pow (by omega)) k

theorem one_pos (F : Format) : 0 < F.one :=
  Nat.two_pow_pos F.scale

theorem one_eq (F : Format) : F.one = 2 ^ F.scale := rfl

theorem binary32_one : binary32.one = 2 ^ 149 := rfl

theorem binary64_scale : binary64.scale = 1074 := by decide

theorem onGrid_one (F : Format) : F.OnGrid F.one :=
  onGrid_two_pow F.scale

/-- Whole numbers of few digits are numbers of the format. -/
theorem onGrid_mul_one {m : ℕ} (hm : m < 2 ^ F.precision) : F.OnGrid (m * F.one) :=
  onGrid_mul_two_pow hm F.scale

theorem onGrid_zero (F : Format) : F.OnGrid 0 := by
  simp [OnGrid]

theorem round_eq (num den : ℕ) :
    F.round num den =
      halfEven num (den * 2 ^ F.spacing (num / den)) * 2 ^ F.spacing (num / den) := rfl

/-- Where the grid is coarser than whole quanta, the spacing tells the binade. -/
theorem binade_bounds {q : ℕ} (h : F.spacing q ≠ 0) :
    2 ^ (F.spacing q + F.precision - 1) ≤ q ∧ q < 2 ^ (F.spacing q + F.precision) := by
  have hq : q ≠ 0 := by
    rintro rfl
    have hp := F.two_le_precision
    simp only [spacing, Nat.log2_zero] at h
    omega
  have hs : F.spacing q + F.precision = q.log2 + 1 := by
    unfold spacing at h ⊢
    omega
  rw [hs]
  exact ⟨Nat.log2_self_le hq, Nat.lt_log2_self⟩

/-- What has a finer grid than `q` lies below the binade of `q`. -/
theorem lt_two_pow_of_spacing_lt {y q : ℕ} (h : F.spacing y < F.spacing q) :
    y < 2 ^ (F.spacing q + F.precision - 1) := by
  rcases Nat.eq_zero_or_pos y with rfl | hy
  · exact Nat.two_pow_pos _
  · rw [← Nat.log2_lt hy.ne']
    unfold spacing at h ⊢
    omega

theorem le_round {y num den : ℕ} (hden : 0 < den) (hy : F.OnGrid y) (h : y * den ≤ num) :
    y ≤ F.round num den := by
  have hfloor : y ≤ num / den := (Nat.le_div_iff_mul_le hden).2 h
  have hsteps {z : ℕ} (hz : 2 ^ F.spacing (num / den) ∣ z) (hzn : z ≤ num / den) :
      z ≤ F.round num den := by
    obtain ⟨k, rfl⟩ := hz
    rw [round_eq, Nat.mul_comm]
    apply Nat.mul_le_mul_right
    apply le_halfEven_of_mul_le (Nat.mul_pos hden (Nat.two_pow_pos _))
    calc k * (den * 2 ^ F.spacing (num / den)) = 2 ^ F.spacing (num / den) * k * den := by ring
      _ ≤ num := (Nat.le_div_iff_mul_le hden).1 hzn
  by_cases hsp : F.spacing (num / den) ≤ F.spacing y
  · exact hsteps ((Nat.pow_dvd_pow 2 hsp).trans hy) hfloor
  · -- The binade of the exact value starts between the two.
    have hp := F.two_le_precision
    obtain ⟨hlow, _⟩ := F.binade_bounds (q := num / den) (by omega)
    have hbetween := lt_two_pow_of_spacing_lt (Nat.lt_of_not_le hsp)
    exact hbetween.le.trans (hsteps (Nat.pow_dvd_pow 2 (by omega)) hlow)

theorem round_le {y num den : ℕ} (hden : 0 < den) (hy : F.OnGrid y) (h : num ≤ y * den) :
    F.round num den ≤ y := by
  have hfloor : num / den ≤ y := Nat.div_le_of_le_mul (by rwa [Nat.mul_comm] at h)
  obtain ⟨k, hk⟩ := hy.dvd_of_le hfloor
  rw [round_eq]
  generalize F.spacing (num / den) = s at hk ⊢
  subst hk
  rw [Nat.mul_comm (2 ^ s) k]
  apply Nat.mul_le_mul_right
  apply halfEven_le_of_le_mul (Nat.mul_pos hden (Nat.two_pow_pos _))
  calc num ≤ 2 ^ s * k * den := h
    _ = k * (den * 2 ^ s) := by ring

/-- Numbers of the format are where rounding leaves them. -/
theorem round_mul_self {q den : ℕ} (hden : 0 < den) (hq : F.OnGrid q) :
    F.round (q * den) den = q :=
  Nat.le_antisymm (round_le hden hq le_rfl) (le_round hden hq le_rfl)

theorem round_self {q : ℕ} (hq : F.OnGrid q) : F.round q 1 = q := by
  simpa only [Nat.mul_one] using round_mul_self Nat.one_pos hq

theorem round_zero (F : Format) {den : ℕ} (hden : 0 < den) : F.round 0 den = 0 := by
  simpa using round_mul_self hden F.onGrid_zero

theorem round_mono {num den num' den' : ℕ} (hden : 0 < den) (hden' : 0 < den')
    (h : num * den' ≤ num' * den) : F.round num den ≤ F.round num' den' := by
  have hfloor : num / den ≤ num' / den' := by
    rw [Nat.le_div_iff_mul_le hden']
    have hle : num / den * den ≤ num := Nat.div_mul_le_self num den
    exact Nat.le_of_mul_le_mul_right (by nlinarith : num / den * den' * den ≤ num' * den) hden
  rcases Nat.lt_or_eq_of_le (F.spacing_mono hfloor) with hlt | heq
  · -- A power of two lies between the two exact values, and it is a number of the format.
    have hp := F.two_le_precision
    obtain ⟨hlow', _⟩ := F.binade_bounds (q := num' / den') (by omega)
    have hhigh := lt_two_pow_of_spacing_lt hlt
    calc F.round num den ≤ 2 ^ (F.spacing (num' / den') + F.precision - 1) := by
          apply round_le hden (onGrid_two_pow _)
          exact ((Nat.div_lt_iff_lt_mul hden).1 hhigh).le
      _ ≤ F.round num' den' :=
          le_round hden' (onGrid_two_pow _) ((Nat.le_div_iff_mul_le hden').1 hlow')
  · rw [round_eq, round_eq, heq]
    apply Nat.mul_le_mul_right
    apply halfEven_mono (Nat.mul_pos hden (Nat.two_pow_pos _))
      (Nat.mul_pos hden' (Nat.two_pow_pos _))
    nlinarith [Nat.two_pow_pos (F.spacing (num' / den'))]

theorem round_congr {num den num' den' : ℕ} (hden : 0 < den) (hden' : 0 < den')
    (h : num * den' = num' * den) : F.round num den = F.round num' den' :=
  Nat.le_antisymm (round_mono hden hden' h.le) (round_mono hden' hden h.ge)

/-- Rounding up may reach the next power of two, whose grid is coarser but holds it. -/
theorem round_onGrid (F : Format) (num : ℕ) {den : ℕ} (hden : 0 < den) :
    F.OnGrid (F.round num den) := by
  have hdvd : 2 ^ F.spacing (num / den) ∣ F.round num den := Dvd.intro_left _ rfl
  by_cases hs : F.spacing (F.round num den) ≤ F.spacing (num / den)
  · exact (Nat.pow_dvd_pow 2 hs).trans hdvd
  · have hhigh : F.round num den ≤ 2 ^ (F.spacing (num / den) + F.precision) := by
      apply round_le hden (onGrid_two_pow _)
      apply ((Nat.div_lt_iff_lt_mul hden).1 _).le
      by_cases hz : F.spacing (num / den) = 0
      · rw [hz, Nat.zero_add]
        by_contra! hge
        have hp := Nat.two_pow_pos F.precision
        have hlog := (Nat.le_log2 (by omega)).2 hge
        unfold spacing at hz
        omega
      · exact (F.binade_bounds hz).2
    have hlow : 2 ^ (F.spacing (num / den) + F.precision) ≤ F.round num den := by
      by_contra! hlt
      rcases Nat.eq_zero_or_pos (F.round num den) with hz | hpos
      · rw [hz] at hs
        exact hs (spacing_mono (Nat.zero_le _))
      · have hlog := (Nat.log2_lt (by omega)).2 hlt
        apply hs
        have : F.spacing (F.round num den) = (F.round num den).log2 + 1 - F.precision := rfl
        omega
    rw [Nat.le_antisymm hhigh hlow]
    exact onGrid_two_pow _

theorem lt_limit_of_le_mul_one {m q : ℕ} (hm : m ≤ 2 ^ 64) (hq : q ≤ m * binary64.one) :
    q < binary64.limit := by
  have hlimit : 2 ^ 64 * binary64.one < binary64.limit := by decide +kernel
  exact (hq.trans (Nat.mul_le_mul_right _ hm)).trans_lt hlimit

end Format

end HostStatus
