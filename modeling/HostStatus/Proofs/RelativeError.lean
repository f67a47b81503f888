import HostStatus.Proofs.Value

/-!
# Counting relative errors

Each operation in double precision brings in a relative error of at most half a unit in the last
place. `Close k x v` keeps count of them: products and quotients add them up, and what a few of them
come to is settled once, at the end.
-/

namespace HostStatus

open Format

/-- `x` is `v` after at most `k` relative errors of half a unit in the last place of a double. -/
def Close (k : ℕ) (x v : ℚ) : Prop :=
  v * (1 - 1 / 2 ^ 53) ^ k ≤ x ∧ x ≤ v * (1 + 1 / 2 ^ 53) ^ k

namespace Close

variable {k : ℕ} {x y u v : ℚ}

theorem succ (h : Close k y v) (herror : |x - y| ≤ y / 2 ^ 53) : Close (k + 1) x v := by
  obtain ⟨hlow, hhigh⟩ := abs_le.1 herror
  constructor
  · calc v * (1 - 1 / 2 ^ 53) ^ (k + 1) = v * (1 - 1 / 2 ^ 53) ^ k * (1 - 1 / 2 ^ 53) := by ring
      _ ≤ y * (1 - 1 / 2 ^ 53) := mul_le_mul_of_nonneg_right h.1 (by norm_num)
      _ ≤ x := by linarith
  · calc x ≤ y * (1 + 1 / 2 ^ 53) := by linarith
      _ ≤ v * (1 + 1 / 2 ^ 53) ^ k * (1 + 1 / 2 ^ 53) :=
        mul_le_mul_of_nonneg_right h.2 (by norm_num)
      _ = v * (1 + 1 / 2 ^ 53) ^ (k + 1) := by ring

theorem weaken (h : Close k x v) (hx : 0 ≤ x) : Close (k + 1) x v := by
  apply h.succ
  rw [sub_self, abs_zero]
  positivity

theorem mul (h : Close k x v) (hy : 0 ≤ y) : Close k (x * y) (v * y) := by
  constructor
  · calc v * y * (1 - 1 / 2 ^ 53) ^ k = v * (1 - 1 / 2 ^ 53) ^ k * y := by ring
      _ ≤ x * y := mul_le_mul_of_nonneg_right h.1 hy
  · calc x * y ≤ v * (1 + 1 / 2 ^ 53) ^ k * y := mul_le_mul_of_nonneg_right h.2 hy
      _ = v * y * (1 + 1 / 2 ^ 53) ^ k := by ring

/-- The error of a divisor counts twice. -/
theorem div (hx : Close 1 x u) (hy : Close 1 y v) (hu : 0 ≤ u) (hv : 0 < v) :
    Close 3 (x / y) (u / v) := by
  obtain ⟨hxlow, hxhigh⟩ := hx
  obtain ⟨hylow, hyhigh⟩ := hy
  rw [pow_one] at hxlow hxhigh hylow hyhigh
  have hypos : 0 < y := lt_of_lt_of_le (by nlinarith) hylow
  constructor
  · rw [le_div_iff₀ hypos]
    calc u / v * (1 - 1 / 2 ^ 53) ^ 3 * y
        ≤ u / v * (1 - 1 / 2 ^ 53) ^ 3 * (v * (1 + 1 / 2 ^ 53)) :=
          mul_le_mul_of_nonneg_left hyhigh (by positivity)
      _ = u * ((1 - 1 / 2 ^ 53) ^ 3 * (1 + 1 / 2 ^ 53)) := by field_simp
      _ ≤ u * (1 - 1 / 2 ^ 53) := mul_le_mul_of_nonneg_left (by norm_num) hu
      _ ≤ x := hxlow
  · rw [div_le_iff₀ hypos]
    calc x ≤ u * (1 + 1 / 2 ^ 53) := hxhigh
      _ ≤ u * ((1 + 1 / 2 ^ 53) ^ 3 * (1 - 1 / 2 ^ 53)) :=
        mul_le_mul_of_nonneg_left (by norm_num) hu
      _ = u / v * (1 + 1 / 2 ^ 53) ^ 3 * (v * (1 - 1 / 2 ^ 53)) := by field_simp
      _ ≤ u / v * (1 + 1 / 2 ^ 53) ^ 3 * y := mul_le_mul_of_nonneg_left hylow (by positivity)

/-- An exact dividend leaves only the two errors of the divisor. -/
theorem const_div (hy : Close 1 y v) (hu : 0 ≤ u) (hv : 0 < v) : Close 2 (u / y) (u / v) := by
  obtain ⟨hylow, hyhigh⟩ := hy
  rw [pow_one] at hylow hyhigh
  have hypos : 0 < y := lt_of_lt_of_le (by nlinarith) hylow
  constructor
  · rw [le_div_iff₀ hypos]
    calc u / v * (1 - 1 / 2 ^ 53) ^ 2 * y
        ≤ u / v * (1 - 1 / 2 ^ 53) ^ 2 * (v * (1 + 1 / 2 ^ 53)) :=
          mul_le_mul_of_nonneg_left hyhigh (by positivity)
      _ = u * ((1 - 1 / 2 ^ 53) ^ 2 * (1 + 1 / 2 ^ 53)) := by field_simp
      _ ≤ u * 1 := mul_le_mul_of_nonneg_left (by norm_num) hu
      _ = u := mul_one u
  · rw [div_le_iff₀ hypos]
    calc u = u * 1 := (mul_one u).symm
      _ ≤ u * ((1 + 1 / 2 ^ 53) ^ 2 * (1 - 1 / 2 ^ 53)) :=
        mul_le_mul_of_nonneg_left (by norm_num) hu
      _ = u / v * (1 + 1 / 2 ^ 53) ^ 2 * (v * (1 - 1 / 2 ^ 53)) := by field_simp
      _ ≤ u / v * (1 + 1 / 2 ^ 53) ^ 2 * y := mul_le_mul_of_nonneg_left hylow (by positivity)

/-- Three errors are hardly more than three halves of a unit in the last place. -/
theorem relative_of_three (h : Close 3 x v) (hv : 0 ≤ v) : |x - v| ≤ 25 / 2 ^ 56 * v := by
  have hup : v * (1 + 1 / 2 ^ 53) ^ 3 ≤ v * (1 + 25 / 2 ^ 56) :=
    mul_le_mul_of_nonneg_left (by norm_num) hv
  have hdown : v * (1 - 25 / 2 ^ 56) ≤ v * (1 - 1 / 2 ^ 53) ^ 3 :=
    mul_le_mul_of_nonneg_left (by norm_num) hv
  rw [abs_le]
  exact ⟨by linarith [h.1], by linarith [h.2]⟩

end Close

/-- The error of one rounding in ones instead of quanta. -/
theorem round_error_in_ones {F : Format} {num den : ℕ} (hden : 0 < den)
    (hnormal : num = 0 ∨ 2 ^ (F.precision - 1) * den ≤ num) :
    |(F.round num den : ℚ) / F.one - num / den / F.one| ≤ num / den / F.one / 2 ^ F.precision := by
  have hone := F.cast_one_pos
  have herror := round_error hden hnormal
  rw [← sub_div, abs_div, abs_of_pos hone, div_right_comm _ (F.one : ℚ)]
  exact div_le_div_of_nonneg_right herror hone.le

theorem value_error {x : Double} {num den : ℕ} (hden : 0 < den)
    (hx : x.HasQuanta (binary64.round num den)) (hnormal : num = 0 ∨ 2 ^ 52 * den ≤ num) :
    |x.value - num / den / binary64.one| ≤ num / den / binary64.one / 2 ^ 53 := by
  rw [hx.value_eq]
  exact round_error_in_ones hden hnormal

/-- A quotient of whole numbers, as long as the divisor is not so large as to lose digits. -/
theorem round_ratio_error {F : Format} (n : ℕ) {den : ℕ} (hden : 0 < den)
    (hroom : 2 ^ (F.precision - 1) * den ≤ F.one) :
    |(F.round (n * F.one) den : ℚ) / F.one - n / den| ≤ n / den / 2 ^ F.precision := by
  have hone := F.cast_one_pos
  have hnormal : n * F.one = 0 ∨ 2 ^ (F.precision - 1) * den ≤ n * F.one := by
    rcases Nat.eq_zero_or_pos n with rfl | hpos
    · exact .inl (Nat.zero_mul _)
    · exact .inr (hroom.trans (Nat.le_mul_of_pos_left _ hpos))
  have herror := round_error_in_ones hden hnormal
  have hexact : ((n * F.one : ℕ) : ℚ) / den / F.one = n / den := by
    push_cast
    field_simp
  rw [hexact] at herror
  exact herror

theorem round_count_error (n : ℕ) :
    |(binary64.round (n * binary64.one) 1 : ℚ) / binary64.one - n| ≤ n / 2 ^ 53 := by
  have herror := round_ratio_error (F := binary64) n Nat.one_pos (by decide +kernel)
  rw [Nat.cast_one, div_one] at herror
  exact herror

/-- A whole number is hit up to one relative error. -/
theorem ofNat_close {x : Double} {n : ℕ}
    (hx : x.HasQuanta (binary64.round (n * binary64.one) 1)) : Close 1 x.value n := by
  have herror := round_count_error n
  rw [← hx.value_eq] at herror
  exact Close.succ (by simp [Close]) herror

end HostStatus
