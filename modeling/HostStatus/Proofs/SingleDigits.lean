import HostStatus.Proofs.Narrowing

/-!
# The decimal that a single is written as

The shortest decimal of a single is a neighbour of it among the multiples of its last place, and
this place is not far below the spacing of singles, so that the decimal has few digits. Both follow
from how it is searched for.
-/

namespace HostStatus.Decimal

open Format

variable {F : Format} {tie : Tie} {q : ℕ} {e : ℤ} {d : Scaled}

namespace Shortest

theorem onGrid?_coefficient (h : onGrid? F tie q e = some d) :
    d.coefficient = q * (Scaled.fraction ⟨1, e⟩).2 / (F.one * (Scaled.fraction ⟨1, e⟩).1) ∨
      d.coefficient = q * (Scaled.fraction ⟨1, e⟩).2 / (F.one * (Scaled.fraction ⟨1, e⟩).1) +
        1 := by
  unfold onGrid? at h
  dsimp only at h
  split at h
  · obtain rfl := Option.some.inj h
    exact nearer_eq_or _ _ _ _
  · obtain rfl := Option.some.inj h
    exact .inl rfl
  · obtain rfl := Option.some.inj h
    exact .inr rfl
  · cases h

/-- Of the two multiples of `den` around `num`, neither is more than `den` away. -/
theorem abs_mul_sub_le {c num den : ℕ} (hden : 0 < den)
    (hc : c = num / den ∨ c = num / den + 1) : |(c * den : ℚ) - num| ≤ den := by
  have hdiv := Nat.div_add_mod num den
  have hmod := Nat.mod_lt num hden
  generalize num / den = below at *
  generalize num % den = rest at *
  have hdivQ : (den * below + rest : ℚ) = num := by exact_mod_cast hdiv
  have hmodQ : (rest : ℚ) ≤ den := by exact_mod_cast hmod.le
  have hrestQ : (0 : ℚ) ≤ rest := Nat.cast_nonneg rest
  rw [abs_le]
  rcases hc with rfl | rfl
  · exact ⟨by linarith, by linarith⟩
  · push_cast
    exact ⟨by linarith, by linarith⟩

theorem onGrid?_step (h : onGrid? F tie q e = some d) :
    |d.value - q / F.one| ≤ 10 ^ d.exponent := by
  have hone := F.cast_one_pos
  have hunit := Scaled.unit_eq e
  have hdenQ : (0 : ℚ) < (Scaled.fraction ⟨1, e⟩).2 := by
    exact_mod_cast Scaled.fraction_den_pos _
  have hgridQ : (0 : ℚ) < F.one * (Scaled.fraction ⟨1, e⟩).1 := by
    rw [hunit]
    positivity
  have hstep := abs_mul_sub_le (by exact_mod_cast hgridQ) (onGrid?_coefficient h)
  rw [Scaled.value, (onGrid?_eq_some h).1]
  push_cast at hstep
  rw [hunit] at hstep
  have hfactor : (d.coefficient : ℚ) * (F.one * (10 ^ e * (Scaled.fraction ⟨1, e⟩).2)) -
      q * (Scaled.fraction ⟨1, e⟩).2 =
      (d.coefficient * 10 ^ e - q / F.one) * (F.one * (Scaled.fraction ⟨1, e⟩).2) := by
    field_simp
  have hscale : (F.one * (10 ^ e * (Scaled.fraction ⟨1, e⟩).2) : ℚ) =
      10 ^ e * (F.one * (Scaled.fraction ⟨1, e⟩).2) := by ring
  have hpos : (0 : ℚ) < F.one * (Scaled.fraction ⟨1, e⟩).2 := mul_pos hone hdenQ
  rw [hfactor, hscale, abs_mul, abs_of_pos hpos] at hstep
  exact le_of_mul_le_mul_right hstep hpos

theorem search_step (q steps : ℕ) :
    |(search F tie q steps).value - q / F.one| ≤ 10 ^ (search F tie q steps).exponent := by
  induction steps with
  | zero =>
    have hexact : (search F tie q 0).value = q / F.one := by
      have hten : (10 : ℚ) ^ F.scale = 5 ^ F.scale * 2 ^ F.scale := by
        rw [← mul_pow]
        norm_num
      rw [search, Scaled.value, one_eq, zpow_neg, zpow_natCast, hten, Nat.pow_eq]
      push_cast
      field_simp
    rw [hexact, sub_self, abs_zero]
    positivity
  | succ steps ih =>
    unfold search
    split
    · next d hd => exact onGrid?_step hd
    · exact ih

end Shortest

theorem shortest_step (F : Format) (tie : Tie) (q : ℕ) :
    |(shortest F tie q).value - q / F.one| ≤ 10 ^ (shortest F tie q).exponent := by
  unfold shortest
  exact Shortest.search_step q _

theorem Scaled.nearest_eq_zero (h : d.coefficient = 0) : d.nearest F = 0 := by
  obtain ⟨c, e⟩ := d
  obtain rfl : c = 0 := h
  rw [nearest_mk, Nat.zero_mul, Nat.zero_mul, round_zero _ (fraction_den_pos _)]

section Single

variable {q : ℕ}

/-- The first grid below half a spacing holds a decimal for every single. -/
theorem exists_nearest_eq (hq : binary32.OnGrid q) (hlimit : q < binary32.limit) :
    ∃ c, Scaled.nearest binary32 ⟨c, leastExponent (binary32.spacing q) - 1⟩ = q := by
  have hshort := pow_pred_leastExponent_lt (spacing_lt_of_lt_limit hlimit)
  generalize he : leastExponent (binary32.spacing q) - 1 = e at hshort ⊢
  have hone := binary32.cast_one_pos
  have hunit := Scaled.unit_eq e
  have hdenQ : (0 : ℚ) < (Scaled.fraction ⟨1, e⟩).2 := by
    exact_mod_cast Scaled.fraction_den_pos _
  have hgridQ : (0 : ℚ) < binary32.one * (Scaled.fraction ⟨1, e⟩).1 := by
    rw [hunit]
    positivity
  have hgrid : 0 < binary32.one * (Scaled.fraction ⟨1, e⟩).1 := by exact_mod_cast hgridQ
  obtain ⟨c, hc⟩ : ∃ c, c = q * (Scaled.fraction ⟨1, e⟩).2 /
      (binary32.one * (Scaled.fraction ⟨1, e⟩).1) + 1 := ⟨_, rfl⟩
  have hstep := Shortest.abs_mul_sub_le hgrid (.inr hc)
  refine ⟨c, le_antisymm ?_ ?_⟩
  · -- What is rounded up to the next single is at least half a spacing above this one.
    by_contra! hlt
    have hhalfway := halfway_le_of_lt_round (Scaled.fraction_den_pos ⟨c, e⟩) hq hlt
    rw [Scaled.value_mul_one, ← halfSpacing_mul_one] at hhalfway
    have habove : (c : ℚ) * 10 ^ e * binary32.one ≤ q + 10 ^ e * binary32.one := by
      rw [← mul_le_mul_iff_left₀ hdenQ]
      push_cast at hstep
      rw [hunit] at hstep
      linarith [(abs_le.1 hstep).2]
    have hlong := hhalfway.trans habove
    have hlong' := le_of_mul_le_mul_right (le_of_add_le_add_left hlong) hone
    have hhalf := halfSpacing_pos (binary32.spacing q)
    linarith
  · apply Scaled.le_nearest hq
    rw [hc]
    exact ((Nat.div_lt_iff_lt_mul hgrid).1 (Nat.lt_succ_self _)).le

theorem pred_leastExponent_le (tie : Tie) (hq : binary32.OnGrid q) (hlimit : q < binary32.limit) :
    leastExponent (binary32.spacing q) - 1 ≤ (shortest binary32 tie q).exponent := by
  have hs := spacing_lt_of_lt_limit hlimit
  obtain ⟨c, hc⟩ := exists_nearest_eq hq hlimit
  apply le_exponent_shortest hc
  by_contra! hlt
  obtain ⟨k, hk⟩ : ∃ k : ℕ, leastExponent (binary32.spacing q) - 1 = k :=
    Int.eq_ofNat_of_zero_le (by omega)
  have hspacing : binary32.spacing q ≠ 0 := by
    intro hzero
    rw [hzero] at hk
    have : leastExponent 0 - 1 < 0 := by decide
    omega
  have hlow : 2 ^ binary32.spacing q ≤ q :=
    (Nat.pow_le_pow_right (by norm_num) (by have := binary32.two_le_precision; omega)).trans
      (binade_bounds hspacing).1
  have hpow : 10 ^ k ≤ q / binary32.one := by
    rw [Nat.le_div_iff_mul_le binary32.one_pos]
    have hshort := pow_pred_leastExponent_lt hs
    rw [hk, zpow_natCast, ← mul_lt_mul_iff_left₀ binary32.cast_one_pos, mul_assoc,
      halfSpacing_mul_one] at hshort
    have hlowQ : (2 ^ binary32.spacing q : ℚ) ≤ q := by exact_mod_cast hlow
    have hcast : (10 ^ k * binary32.one : ℚ) ≤ q := by
      have : (0 : ℚ) < 2 ^ binary32.spacing q := by positivity
      linarith
    exact_mod_cast hcast
  have hdigits : (Nat.toDigits 10 (q / binary32.one)).length ≤ k := by omega
  have hkpos : 0 < k := lt_of_lt_of_le Nat.length_toDigits_pos hdigits
  have hlarge := (Nat.length_toDigits_le_iff (by norm_num) hkpos).1 hdigits
  omega

theorem value_le_of_nearest (hnearest : d.nearest binary32 = q) (hq : binary32.OnGrid q) :
    d.value ≤ 2 ^ 25 * halfSpacing (binary32.spacing q) := by
  have hone := binary32.cast_one_pos
  obtain ⟨k, hk, hqk⟩ := hq.exists_eq_mul_two_pow
  have hprecision : binary32.precision = 24 := rfl
  rw [hprecision] at hk
  have hhalfway := le_halfway_of_round_eq (Scaled.fraction_den_pos d) hnearest
  rw [Scaled.value_mul_one, ← halfSpacing_mul_one] at hhalfway
  have hquanta : (q : ℚ) = 2 * k * halfSpacing (binary32.spacing q) * binary32.one := by
    rw [mul_assoc, halfSpacing_mul_one]
    nth_rewrite 1 [hqk]
    push_cast
    ring
  have hkQ : (2 * k + 1 : ℚ) ≤ 2 ^ 25 := by exact_mod_cast (by omega : 2 * k + 1 ≤ 2 ^ 25)
  rw [hquanta, ← add_mul, ← add_one_mul] at hhalfway
  exact (le_of_mul_le_mul_right hhalfway hone).trans
    (mul_le_mul_of_nonneg_right hkQ (halfSpacing_pos _).le)

/-- With steps that are not much below half a spacing there are few of them. -/
theorem coefficient_lt {s : ℕ} (hs : s < 254) (hvalue : d.value ≤ 2 ^ 25 * halfSpacing s)
    (hexponent : leastExponent s - 1 ≤ d.exponent) : d.coefficient < 2 ^ 30 := by
  have hpow : (0 : ℚ) < 10 ^ d.exponent := by positivity
  have hstep : halfSpacing s ≤ 20 * 10 ^ d.exponent := by
    have hpred : (10 : ℚ) ^ (leastExponent s - 1) ≤ 10 ^ d.exponent :=
      zpow_le_zpow_right₀ (by norm_num) hexponent
    rw [zpow_sub_one₀ (by norm_num)] at hpred
    linarith [halfSpacing_le hs]
  have hcoefficient : (d.coefficient : ℚ) < 2 ^ 30 := by
    rw [← mul_lt_mul_iff_left₀ hpow]
    calc (d.coefficient : ℚ) * 10 ^ d.exponent ≤ 2 ^ 25 * halfSpacing s := hvalue
      _ ≤ 2 ^ 25 * (20 * 10 ^ d.exponent) := by gcongr
      _ < 2 ^ 30 * 10 ^ d.exponent := by linarith
  exact_mod_cast hcoefficient

theorem exponent_lt {s : ℕ} (hs : s < 254) (hvalue : d.value ≤ 2 ^ 25 * halfSpacing s)
    (hcoefficient : d.coefficient ≠ 0) : d.exponent < 150 := by
  have hcoefficientQ : (1 : ℚ) ≤ d.coefficient := by
    exact_mod_cast Nat.one_le_iff_ne_zero.2 hcoefficient
  have hhalf : halfSpacing s ≤ 2 ^ 254 / 2 ^ 150 := by
    have : (2 : ℚ) ^ s ≤ 2 ^ 254 := pow_le_pow_right₀ (by norm_num) hs.le
    unfold halfSpacing
    gcongr
  by_contra! hlarge
  have hpow : (10 : ℚ) ^ (150 : ℤ) ≤ 10 ^ d.exponent := zpow_le_zpow_right₀ (by norm_num) hlarge
  have hsmall : (10 : ℚ) ^ d.exponent ≤ 2 ^ 25 * (2 ^ 254 / 2 ^ 150) :=
    calc (10 : ℚ) ^ d.exponent ≤ d.coefficient * 10 ^ d.exponent :=
          le_mul_of_one_le_left (by positivity) hcoefficientQ
      _ ≤ 2 ^ 25 * halfSpacing s := hvalue
      _ ≤ 2 ^ 25 * (2 ^ 254 / 2 ^ 150) := by gcongr
  exact absurd (hpow.trans hsmall) (by norm_num)

/-- Few digits, and no exponent that the reader could not take in one step. -/
theorem shortest_small (tie : Tie) (hq : binary32.OnGrid q) (hpos : 0 < q)
    (hlimit : q < binary32.limit) :
    (shortest binary32 tie q).coefficient < 2 ^ 30 ∧
      (shortest binary32 tie q).exponent.natAbs ≤ 150 := by
  have hs := spacing_lt_of_lt_limit hlimit
  have hnearest : (shortest binary32 tie q).nearest binary32 = q := nearest_shortest hq
  have hvalue := value_le_of_nearest hnearest hq
  have hexponent := pred_leastExponent_le tie hq hlimit
  refine ⟨coefficient_lt hs hvalue hexponent, ?_⟩
  have hcoefficient : (shortest binary32 tie q).coefficient ≠ 0 := fun hzero =>
    hpos.ne ((Scaled.nearest_eq_zero hzero).symm.trans hnearest)
  have hhigh := exponent_lt hs hvalue hcoefficient
  have hlow : ∀ s < 254, -150 ≤ leastExponent s - 1 := by decide +kernel
  have := hlow _ hs
  omega

/-- The decimal that a single is written as is read as that single, whatever the reader rounds on
the way. -/
theorem narrowed_shortest (tie : Tie) (hq : binary32.OnGrid q) (hpos : 0 < q)
    (hlimit : q < binary32.limit) : (shortest binary32 tie q).narrowed = q := by
  have hnearest : (shortest binary32 tie q).nearest binary32 = q := nearest_shortest hq
  obtain ⟨hcoefficient, hexponent⟩ := shortest_small tie hq hpos hlimit
  have hstep := shortest_step binary32 tie q
  generalize shortest binary32 tie q = d at *
  subst hnearest
  exact Scaled.narrowed_eq_nearest hlimit (by omega) hexponent hstep

end Single

end HostStatus.Decimal
