import HostStatus.Proofs.DoubleReading
import HostStatus.Proofs.Halfway
import HostStatus.Proofs.SimplestFraction
import Mathlib.Tactic.LinearCombination

/-!
# Decimals read in double precision and narrowed

Between the reader's double and the single that it is narrowed to stands a rounding of its own, and
for a decimal next to a point halfway between two singles this may take the wrong one of them. It
does not depend on sizes which decimals these are, but on how well powers of ten are approximated by
powers of two. A decimal so near to a halfway point, written with few digits, is a fraction near to
the quotient of a power of ten and half a spacing. For each of the 254 spacings at most one such
fraction has a small enough numerator, and it is found by `simplest`. There is none for most of
them; for some the two are equal, where the reader is exact; and the few that are left are
evaluated.
-/

namespace HostStatus

open Format Decimal

/-- How far singles that are `2 ^ s` quanta apart are from the points halfway between them. -/
def halfSpacing (s : ℕ) : ℚ :=
  2 ^ s / 2 ^ 150

/-- The least power of ten that is not well below half a spacing has this exponent. The factor is
the decimal logarithm of two. -/
def leastExponent (s : ℕ) : ℤ :=
  (10 * s - 1501) * 30103 / 1000000 + 1

/-- That power of ten is `gridNum s / gridDen s` halves of a spacing. -/
def gridNum (s : ℕ) : ℕ :=
  (Scaled.fraction ⟨1, leastExponent s⟩).1 * 2 ^ 150

def gridDen (s : ℕ) : ℕ :=
  (Scaled.fraction ⟨1, leastExponent s⟩).2 * 2 ^ s

/-- The ends of the interval around that quotient that the reader's error allows for. -/
def lowEnd (s : ℕ) : ℕ :=
  gridNum s * (2 ^ 56 - 25)

def highEnd (s : ℕ) : ℕ :=
  gridNum s * (2 ^ 56 + 25)

def endDen (s : ℕ) : ℕ :=
  gridDen s * 2 ^ 56

/-- The reader may take `m` times the power of ten for `n` halves of a spacing. -/
def Near (s n m : ℕ) : Prop :=
  lowEnd s * m ≤ n * endDen s ∧ n * endDen s ≤ highEnd s * m

instance (s n m : ℕ) : Decidable (Near s n m) :=
  inferInstanceAs (Decidable (_ ∧ _))

def suspect (s : ℕ) : ℕ × ℕ :=
  simplest 100 (lowEnd s) (endDen s) (highEnd s) (endDen s)

/-- What the reader's double is narrowed to, in quanta. -/
def Decimal.Scaled.narrowed (d : Scaled) : ℕ :=
  binary32.round (d.read * binary32.one) binary64.one

/-- The suspect has a large numerator, or it is the quotient itself, or it has been looked into. -/
def Settled (s : ℕ) : Prop :=
  2 ^ 25 ≤ (suspect s).1 ∨
    (Near s (suspect s).1 (suspect s).2 ∧ 0 < (suspect s).2 ∧
      ((suspect s).1 * gridDen s = (suspect s).2 * gridNum s ∧ (leastExponent s).natAbs ≤ 10 ∨
        (suspect s).1.Coprime (suspect s).2 ∧ 2 ^ 25 ≤ 2 * (suspect s).1 ∧
          ¬ 10 ∣ (suspect s).2 ∧
          Scaled.narrowed ⟨(suspect s).2, leastExponent s⟩ =
            Scaled.nearest binary32 ⟨(suspect s).2, leastExponent s⟩))

instance (s : ℕ) : Decidable (Settled s) :=
  inferInstanceAs (Decidable (_ ∨ _))

theorem settled : ∀ s < 254, Settled s := by
  decide +kernel

theorem narrow_ends : ∀ s < 254,
    (highEnd s - lowEnd s) * (2 ^ 25) ^ 2 * endDen s < lowEnd s ^ 2 := by
  decide +kernel

theorem gridDen_le : ∀ s < 254, gridDen s ≤ 2 * gridNum s := by
  decide +kernel

theorem halfSpacing_pos (s : ℕ) : 0 < halfSpacing s := by
  unfold halfSpacing
  positivity

theorem halfSpacing_mul_one (s : ℕ) : halfSpacing s * binary32.one = 2 ^ s / 2 := by
  rw [halfSpacing, binary32_one]
  push_cast
  field_simp
  ring

theorem gridDen_pos (s : ℕ) : 0 < gridDen s :=
  Nat.mul_pos (Scaled.fraction_den_pos _) (Nat.two_pow_pos s)

theorem endDen_pos (s : ℕ) : 0 < endDen s :=
  Nat.mul_pos (gridDen_pos s) (Nat.two_pow_pos 56)

theorem gridNum_eq (s : ℕ) :
    (gridNum s : ℚ) * halfSpacing s = 10 ^ leastExponent s * gridDen s := by
  unfold gridNum gridDen halfSpacing
  push_cast
  rw [Scaled.unit_eq]
  ring

/-- The next smaller power of ten is below half a spacing. -/
theorem pow_pred_leastExponent_lt {s : ℕ} (hs : s < 254) :
    (10 : ℚ) ^ (leastExponent s - 1) < 15 / 16 * halfSpacing s := by
  have hbelow : ∀ s < 254, 16 * ((Scaled.fraction ⟨1, leastExponent s - 1⟩).1 * 2 ^ 150) <
      15 * ((Scaled.fraction ⟨1, leastExponent s - 1⟩).2 * 2 ^ s) := by
    decide +kernel
  have hden : (0 : ℚ) < (Scaled.fraction ⟨1, leastExponent s - 1⟩).2 := by
    exact_mod_cast Scaled.fraction_den_pos _
  have hbelowQ : (16 * ((Scaled.fraction ⟨1, leastExponent s - 1⟩).1 * 2 ^ 150) : ℚ) <
      15 * ((Scaled.fraction ⟨1, leastExponent s - 1⟩).2 * 2 ^ s) := by
    exact_mod_cast hbelow s hs
  rw [Scaled.unit_eq] at hbelowQ
  rw [halfSpacing, ← mul_lt_mul_iff_left₀ hden]
  linarith

theorem leastExponent_le {s : ℕ} (hs : s < 254) {e : ℤ} (h : 15 / 16 * halfSpacing s ≤ 10 ^ e) :
    leastExponent s ≤ e := by
  by_contra! hlt
  have hle : (10 : ℚ) ^ e ≤ 10 ^ (leastExponent s - 1) :=
    zpow_le_zpow_right₀ (by norm_num) (by omega)
  exact absurd (h.trans hle) (not_le.2 (pow_pred_leastExponent_lt hs))

/-- That power itself is at least a quarter of a spacing. -/
theorem halfSpacing_le {s : ℕ} (hs : s < 254) : halfSpacing s ≤ 2 * 10 ^ leastExponent s := by
  have hden : (0 : ℚ) < gridDen s := by exact_mod_cast gridDen_pos s
  have hratio : (gridDen s : ℚ) ≤ 2 * gridNum s := by exact_mod_cast gridDen_le s hs
  have hhalf := halfSpacing_pos s
  rw [← mul_le_mul_iff_left₀ hden]
  calc halfSpacing s * gridDen s ≤ halfSpacing s * (2 * gridNum s) := by gcongr
    _ = 2 * 10 ^ leastExponent s * gridDen s := by linear_combination 2 * gridNum_eq s

theorem near_of_error {s n m : ℕ}
    (h : |n * halfSpacing s - m * 10 ^ leastExponent s| ≤
      25 / 2 ^ 56 * (m * 10 ^ leastExponent s)) : Near s n m := by
  have hhalf := halfSpacing_pos s
  have hgrid := gridNum_eq s
  have hden : (0 : ℚ) < gridDen s := by exact_mod_cast gridDen_pos s
  have hscaled : |(n : ℚ) * gridDen s - m * gridNum s| ≤ 25 / 2 ^ 56 * (m * gridNum s) := by
    have hleft : (n * gridDen s - m * gridNum s) * halfSpacing s =
        (n * halfSpacing s - m * 10 ^ leastExponent s) * gridDen s := by
      linear_combination -(m : ℚ) * hgrid
    have hright : 25 / 2 ^ 56 * (m * gridNum s) * halfSpacing s =
        25 / 2 ^ 56 * (m * 10 ^ leastExponent s) * gridDen s := by
      linear_combination 25 / 2 ^ 56 * (m : ℚ) * hgrid
    rw [← mul_le_mul_iff_left₀ hhalf, ← abs_of_pos hhalf, ← abs_mul, abs_of_pos hhalf, hleft,
      hright, abs_mul, abs_of_pos hden]
    exact mul_le_mul_of_nonneg_right h hden.le
  obtain ⟨hlow, hhigh⟩ := abs_le.1 hscaled
  constructor
  · have hcast : (gridNum s * (2 ^ 56 - 25 : ℕ) * m : ℚ) ≤ n * (gridDen s * 2 ^ 56 : ℕ) := by
      push_cast
      norm_num at hlow ⊢
      linarith
    exact_mod_cast hcast
  · have hcast : (n * (gridDen s * 2 ^ 56 : ℕ) : ℚ) ≤ gridNum s * (2 ^ 56 + 25 : ℕ) * m := by
      push_cast
      norm_num at hhigh ⊢
      linarith
    exact_mod_cast hcast

/-- Wherever the reader might be misled, the two are equal or the outcome is known. -/
theorem Near.resolved {s n m : ℕ} (h : Near s n m) (hs : s < 254) (hn : 0 < n) (hn' : n < 2 ^ 25)
    (hm : 0 < m) :
    (n * gridDen s = m * gridNum s ∧ (leastExponent s).natAbs ≤ 10) ∨
      (¬ 10 ∣ m ∧ Scaled.narrowed ⟨m, leastExponent s⟩ =
        Scaled.nearest binary32 ⟨m, leastExponent s⟩) := by
  obtain ⟨hnum, _⟩ := simplest_le 100 (endDen_pos s) (endDen_pos s) hm h.1 h.2
  rcases settled s hs with hlarge | ⟨hnear, hpos, hcase⟩
  · exact absurd (hlarge.trans hnum) (Nat.not_le.2 hn')
  · have hcross : n * (suspect s).2 = (suspect s).1 * m :=
      mul_eq_mul_of_narrow (endDen_pos s) (narrow_ends s hs) hn' (hnum.trans_lt hn') h.1 h.2
        hnear.1 hnear.2
    rcases hcase with ⟨hexact, hexponent⟩ | ⟨hcoprime, htwice, hten, hread⟩
    · left
      refine ⟨Nat.eq_of_mul_eq_mul_left hpos ?_, hexponent⟩
      calc (suspect s).2 * (n * gridDen s) = n * (suspect s).2 * gridDen s := by ring
        _ = (suspect s).1 * gridDen s * m := by rw [hcross]; ring
        _ = (suspect s).2 * (m * gridNum s) := by rw [hexact]; ring
    · right
      obtain ⟨_, rfl⟩ := eq_of_mul_eq_mul_of_coprime hcoprime hn (by omega) hcross
      exact ⟨hten, hread⟩

theorem spacing_lt_of_lt_limit {q : ℕ} (h : q < binary32.limit) : binary32.spacing q < 254 := by
  have hlimit : binary32.limit = 2 ^ (binary32.precision + binary32.lastField - 2) := by
    rw [limit, Nat.pow_eq]
  have hprecision : binary32.precision = 24 := rfl
  have hfield : binary32.lastField = 255 := rfl
  unfold spacing
  rcases Nat.eq_zero_or_pos q with rfl | hpos
  · simp [hprecision]
  · rw [hlimit, ← Nat.log2_lt hpos.ne'] at h
    omega

namespace Decimal.Scaled

variable {d : Scaled}

/-- What is halfway between two singles is a double, and the reader finds it where it is exact. -/
theorem narrowed_of_exact {n s : ℕ} (he : d.exponent.natAbs ≤ 22) (hn : n < 2 ^ 53)
    (h : d.value = n * halfSpacing s) : d.narrowed = d.nearest binary32 := by
  have hden := fraction_den_pos d
  have hdenQ : (0 : ℚ) < d.fraction.2 := by exact_mod_cast hden
  have hfraction : d.fraction.1 * 2 ^ 150 = n * 2 ^ s * d.fraction.2 := by
    have hvalue := fraction_div d
    rw [h, div_eq_iff hdenQ.ne', halfSpacing] at hvalue
    have hcast : (d.fraction.1 * 2 ^ 150 : ℚ) = n * 2 ^ s * d.fraction.2 := by
      rw [hvalue]
      ring
    exact_mod_cast hcast
  obtain ⟨k, hk⟩ : ∃ k, binary64.scale = 150 + k := ⟨924, by decide⟩
  have hexact : d.fraction.1 * binary64.one = n * 2 ^ (s + k) * d.fraction.2 := by
    rw [one_eq, hk, pow_add, ← mul_assoc, hfraction, pow_add]
    ring
  have hread : d.read = n * 2 ^ (s + k) := by
    rw [read_eq_nearest he, nearest, hexact]
    exact round_mul_self hden (onGrid_mul_two_pow hn _)
  rw [narrowed, hread]
  apply round_congr binary64.one_pos hden
  calc n * 2 ^ (s + k) * binary32.one * d.fraction.2
      = n * 2 ^ (s + k) * d.fraction.2 * binary32.one := by ring
    _ = d.fraction.1 * binary32.one * binary64.one := by rw [← hexact]; ring

/-- Between the reader's double and the decimal lies a point halfway between two singles, if they
are not rounded alike. -/
theorem exists_halfway_of_narrowed_ne (hlimit : d.nearest binary32 < binary32.limit)
    (hc : d.coefficient < 2 ^ 53) (he : d.exponent.natAbs ≤ 150)
    (hne : d.narrowed ≠ d.nearest binary32) :
    ∃ s n : ℕ, s < 254 ∧ 0 < n ∧ n < 2 ^ 25 ∧
      |n * halfSpacing s - d.value| ≤ 25 / 2 ^ 56 * d.value ∧
      halfSpacing s ≤ |n * halfSpacing s - d.nearest binary32 / binary32.one| := by
  have hone := binary32.cast_one_pos
  have hdenQ : (0 : ℚ) < d.fraction.2 := by exact_mod_cast fraction_den_pos d
  have honeQ := binary64.cast_one_pos
  obtain ⟨y, -, hread, herror⟩ := Json.Number.scaled?_read hc he
  obtain ⟨q, hq, hle, hnear, hfar⟩ := exists_halfway_of_round_ne (fraction_den_pos d)
    binary64.one_pos hne
  obtain ⟨k, hk, hqk⟩ := hq.exists_eq_mul_two_pow
  have hs := spacing_lt_of_lt_limit (hle.trans_lt hlimit)
  have hprecision : binary32.precision = 24 := rfl
  rw [hprecision] at hk
  have hhalfway : ((q : ℚ) + 2 ^ binary32.spacing q / 2) =
      (2 * k + 1 : ℕ) * halfSpacing (binary32.spacing q) * binary32.one := by
    rw [mul_assoc, halfSpacing_mul_one]
    nth_rewrite 1 [hqk]
    push_cast
    ring
  refine ⟨binary32.spacing q, 2 * k + 1, hs, by omega, by omega, ?_, ?_⟩
  · have hdouble : ((d.read * binary32.one : ℕ) : ℚ) / binary64.one = y.value * binary32.one := by
      rw [hread.value_eq]
      push_cast
      ring
    rw [hhalfway, value_mul_one, hdouble, ← sub_mul, ← sub_mul, abs_mul, abs_mul] at hnear
    exact (le_of_mul_le_mul_right hnear (abs_pos.2 hone.ne')).trans herror
  · have hfactor (x : ℚ) : x * binary32.one - d.nearest binary32 =
        (x - d.nearest binary32 / binary32.one) * binary32.one := by
      field_simp
    rw [hhalfway, ← halfSpacing_mul_one,
      show binary32.round (d.fraction.1 * binary32.one) d.fraction.2 =
      d.nearest binary32 from rfl, hfactor, abs_mul, abs_of_pos hone] at hfar
    exact le_of_mul_le_mul_right hfar hone

/-- The reader is exact where a decimal with few digits is halfway between two singles. -/
theorem narrowed_of_halfway {s n m t : ℕ} (hs : s < 254) (hn : n < 2 ^ 25) (hmpos : 0 < m)
    (hm : m = d.coefficient * 10 ^ t) (hexponent : d.exponent = leastExponent s + t)
    (hvalue : d.value = m * 10 ^ leastExponent s) (hexact : n * gridDen s = m * gridNum s)
    (hleast : (leastExponent s).natAbs ≤ 10) : d.narrowed = d.nearest binary32 := by
  have hden : (0 : ℚ) < gridDen s := by exact_mod_cast gridDen_pos s
  have hspacings : d.value = n * halfSpacing s := by
    have hexactQ : (n * gridDen s : ℚ) = m * gridNum s := by exact_mod_cast hexact
    rw [hvalue]
    apply mul_right_cancel₀ hden.ne'
    linear_combination -(m : ℚ) * gridNum_eq s - halfSpacing s * hexactQ
  have hsmall : m ≤ 2 ^ 26 := by
    have hratio := gridDen_le s hs
    have hnum : 0 < gridNum s := by
      have := gridDen_pos s
      omega
    apply Nat.le_of_mul_le_mul_right _ hnum
    calc m * gridNum s = n * gridDen s := hexact.symm
      _ ≤ 2 ^ 25 * (2 * gridNum s) := Nat.mul_le_mul hn.le hratio
      _ = 2 ^ 26 * gridNum s := by ring
  have hdigits : t < 8 := by
    have hcoefficient : 0 < d.coefficient := Nat.pos_of_mul_pos_right (hm ▸ hmpos)
    have hpow : 10 ^ t ≤ m := hm ▸ Nat.le_mul_of_pos_left _ hcoefficient
    apply (Nat.pow_lt_pow_iff_right (a := 10) (by norm_num)).1
    omega
  exact narrowed_of_exact (by omega) (by omega) hspacings

/-- A decimal within one of its steps of the nearest single is narrowed to it. -/
theorem narrowed_eq_nearest (hlimit : d.nearest binary32 < binary32.limit)
    (hc : d.coefficient < 2 ^ 53) (he : d.exponent.natAbs ≤ 150)
    (hstep : |d.value - d.nearest binary32 / binary32.one| ≤ 10 ^ d.exponent) :
    d.narrowed = d.nearest binary32 := by
  by_contra hne
  obtain ⟨s, n, hs, hn, hn', hnear, hfar⟩ := exists_halfway_of_narrowed_ne hlimit hc he hne
  have hhalf := halfSpacing_pos s
  have hnQ : (n : ℚ) * halfSpacing s ≤ 2 ^ 25 * halfSpacing s := by
    have : (n : ℚ) ≤ 2 ^ 25 := by exact_mod_cast hn'.le
    gcongr
  have hnpos : 0 < (n : ℚ) * halfSpacing s := by positivity
  obtain ⟨hnearlow, hnearhigh⟩ := abs_le.1 hnear
  -- The decimal is nearly half a spacing away from its single, so its steps are no shorter.
  have hroom : 15 / 16 * halfSpacing s ≤ 10 ^ d.exponent := by
    have htriangle := abs_sub_le (n * halfSpacing s) d.value (d.nearest binary32 / binary32.one)
    linarith
  obtain ⟨t, ht⟩ := Int.le.dest (leastExponent_le hs hroom)
  obtain ⟨m, hm⟩ : ∃ m, m = d.coefficient * 10 ^ t := ⟨_, rfl⟩
  have hvalue : d.value = m * 10 ^ leastExponent s := by
    rw [value, ← ht, zpow_add₀ (by norm_num), zpow_natCast, hm]
    push_cast
    ring
  have hmpos : 0 < m := by
    rcases Nat.eq_zero_or_pos m with rfl | hpos
    · rw [hvalue] at hnearhigh
      push_cast at hnearhigh
      linarith
    · exact hpos
  have hresolved := (near_of_error (hvalue ▸ hnear)).resolved hs hn hn' hmpos
  rcases hresolved with ⟨hexact, hleast⟩ | ⟨hten, hread⟩
  · exact hne (narrowed_of_halfway hs hn' hmpos hm ht.symm hvalue hexact hleast)
  · obtain rfl : t = 0 := by
      by_contra hpos
      apply hten
      rw [hm]
      exact (dvd_pow_self 10 hpos).mul_left _
    rw [pow_zero, Nat.mul_one] at hm
    have hd : d = ⟨m, leastExponent s⟩ := by
      rw [hm, ← Int.add_zero (leastExponent s)]
      rw [Nat.cast_zero] at ht
      rw [ht]
    rw [← hd] at hread
    exact hne hread

end Decimal.Scaled

end HostStatus
