import HostStatus.Proofs.ExactSize
import HostStatus.Proofs.RelativeError

/-!
# Sizes of whole counts

A count of bytes is a whole number of at most 64 bits, and one of more than 53 is rounded before it
is shown. That passes no unit: all bounds of units are doubles, so that the rounded count has
reached just those that the count itself has. Above 53 bits the unit is the last one, and there the
first rounding moves the amount by far less than half a hundredth, so that the two roundings
together are at most one hundredth away from a single one.
-/

namespace HostStatus

open Format

attribute [local irreducible] Format.one

variable {m n : ℕ}

/-! ## The count as it is held -/

/-- What is held of a count, in quanta. -/
def heldQuanta (n : ℕ) : ℕ :=
  binary64.round (n * binary64.one) 1

theorem onGrid_count (h : n ≤ 2 ^ 53) : binary64.OnGrid (n * binary64.one) := by
  rcases Nat.lt_or_eq_of_le h with hlt | rfl
  · exact onGrid_mul_one hlt
  · rw [one_eq, ← pow_add]
    exact onGrid_two_pow _

theorem heldQuanta_of_le (h : n ≤ 2 ^ 53) : heldQuanta n = n * binary64.one :=
  round_self (onGrid_count h)

theorem heldQuanta_mono (h : m ≤ n) : heldQuanta m ≤ heldQuanta n :=
  round_mono Nat.one_pos Nat.one_pos (Nat.mul_le_mul_right 1 (Nat.mul_le_mul_right _ h))

theorem ofNat_heldQuanta (h : n < 2 ^ 64) : (Binary.ofNat n : Double).HasQuanta (heldQuanta n) :=
  Binary.ofNat_hasQuanta_of_lt_two_pow h

theorem value_ofNat_mono (h : m ≤ n) (hn : n < 2 ^ 64) :
    (Binary.ofNat m : Double).value ≤ (Binary.ofNat n : Double).value := by
  rw [(ofNat_heldQuanta (h.trans_lt hn)).value_eq, (ofNat_heldQuanta hn).value_eq]
  have hheld : (heldQuanta m : ℚ) ≤ heldQuanta n := by exact_mod_cast heldQuanta_mono h
  exact div_le_div_of_nonneg_right hheld binary64.cast_one_pos.le

/-- What is held has reached the doubles that the count has reached. -/
theorem mul_one_le_heldQuanta (hm : m ≤ 2 ^ 53) : m * binary64.one ≤ heldQuanta n ↔ m ≤ n := by
  constructor
  · intro h
    by_contra! hlt
    rw [heldQuanta_of_le (hlt.le.trans hm)] at h
    exact absurd (Nat.le_of_mul_le_mul_right h binary64.one_pos) (Nat.not_le_of_lt hlt)
  · intro h
    rw [← heldQuanta_of_le hm]
    exact heldQuanta_mono h

theorem heldQuanta_error (n : ℕ) :
    |(heldQuanta n : ℚ) / binary64.one - n| ≤ n / 2 ^ 53 :=
  round_count_error n

/-! ## What is shown -/

/-- Quotients that are close are rounded to whole numbers that are close. -/
theorem Nearest.halfEven_close {num den num' den' : ℕ} (hden : 0 < den) (hden' : 0 < den')
    (h : |(num : ℚ) / den - num' / den'| < 1) :
    |(halfEven num den : ℚ) - halfEven num' den'| ≤ 1 := by
  have hleft := abs_le.1 (halfEven_error num hden)
  have hright := abs_le.1 (halfEven_error num' hden')
  have hclose := abs_lt.1 h
  have hupper : halfEven num den < halfEven num' den' + 2 := by
    have : (halfEven num den : ℚ) < halfEven num' den' + 2 := by linarith
    exact_mod_cast this
  have hlower : halfEven num' den' < halfEven num den + 2 := by
    have : (halfEven num' den' : ℚ) < halfEven num den + 2 := by linarith
    exact_mod_cast this
  have hle : (halfEven num den : ℚ) ≤ halfEven num' den' + 1 := by
    exact_mod_cast Nat.le_of_lt_succ hupper
  have hge : (halfEven num' den' : ℚ) ≤ halfEven num den + 1 := by
    exact_mod_cast Nat.le_of_lt_succ hlower
  rw [abs_le]
  exact ⟨by linarith, by linarith⟩

namespace Size

/-- The size of a whole count has the unit of the count itself. -/
theorem ofBytes_heldQuanta (h : n < 2 ^ 64) :
    ∃ r u, ofBytes n = .ok ⟨.ofQuanta .binary64 false r, u⟩ ∧ r * 1024 ^ u.power = heldQuanta n ∧
      IsUnitRank n u.power := by
  obtain ⟨r, u, hsize, hr, hupper, hlower⟩ := ofCount_hasQuanta (ofNat_heldQuanta h)
  have hbound {k : ℕ} (hk : k ≤ 5) : 1024 ^ k ≤ 2 ^ 53 :=
    calc 1024 ^ k ≤ 1024 ^ 5 := Nat.pow_le_pow_right (by norm_num) hk
      _ ≤ 2 ^ 53 := by norm_num
  have hlast : u.power ≤ 5 := by cases u <;> decide
  refine ⟨r, u, hsize, hr, hlast, fun hk => ?_, fun j hj => ?_⟩
  · have hnot := mt (mul_one_le_heldQuanta (n := n) (hbound hk)).2 (Nat.not_le_of_lt (hupper hk))
    exact_mod_cast Nat.lt_of_not_le hnot
  · have := (mul_one_le_heldQuanta (hbound (by omega))).1 (hlower j hj)
    exact_mod_cast this

end Size

theorem bytesText_of_ofBytes {size : Size} (h : Size.ofBytes n = .ok size) :
    bytesText n = size.toText := by
  rw [bytesText, h]
  rfl

/-- In the last unit, the first rounding moves an amount by less than a hundredth. -/
theorem shown_amounts_close {r : ℕ} (h : n < 2 ^ 64) (hr : r * 1024 ^ 5 = heldQuanta n) :
    |((r * 100 : ℕ) : ℚ) / binary64.one - (n * 100 : ℕ) / (1024 ^ 5 : ℕ)| < 1 := by
  have hone := binary64.cast_one_pos
  have hheld : (heldQuanta n : ℚ) = r * 1024 ^ 5 := by exact_mod_cast hr.symm
  have hdiff : ((r * 100 : ℕ) : ℚ) / binary64.one - (n * 100 : ℕ) / (1024 ^ 5 : ℕ) =
      ((heldQuanta n : ℚ) / binary64.one - n) * (100 / 1024 ^ 5) := by
    rw [hheld]
    push_cast
    field_simp
    ring
  have hn : (n : ℚ) < 2 ^ 64 := by exact_mod_cast h
  rw [hdiff, abs_mul, abs_of_pos (by norm_num : (0 : ℚ) < 100 / 1024 ^ 5)]
  calc |(heldQuanta n : ℚ) / binary64.one - n| * (100 / 1024 ^ 5)
      ≤ n / 2 ^ 53 * (100 / 1024 ^ 5) :=
        mul_le_mul_of_nonneg_right (heldQuanta_error n) (by norm_num)
    _ ≤ 2 ^ 64 / 2 ^ 53 * (100 / 1024 ^ 5) := by gcongr
    _ < 1 := by norm_num

/-- Every count of 64 bits has a size, in the unit of exact arithmetic. Up to 53 bits the text is
that of exact arithmetic too; above, all counts are shown in the last unit, at most one hundredth of
it away. -/
theorem bytesText_agrees_with_exact (h : n < 2 ^ 64) :
    ∃ size k exact shown, Size.ofBytes n = .ok size ∧ bytesText n = size.toText ∧
      IsUnitRank n k ∧ RoundsToEven (n / 1024 ^ k * 100) exact ∧
      bytesText n = hundredthsText shown k ∧
      (n ≤ 2 ^ 53 → bytesText n = hundredthsText exact k) ∧
      (2 ^ 53 < n → k = 5 ∧ |(shown : ℚ) / 100 - exact / 100| ≤ 1 / 100) := by
  obtain ⟨r, u, hsize, hr, hrank⟩ := Size.ofBytes_heldQuanta h
  have hone := binary64.one_pos
  have hunit : 0 < 1024 ^ u.power := by positivity
  have htext : bytesText n =
      hundredthsText (Nearest.halfEven (r * 100) binary64.one) u.power := by
    rw [bytesText_of_ofBytes hsize]
    exact Size.toText_eq_hundredthsText (by cases u <;> rfl)
  refine ⟨_, u.power, Nearest.halfEven (n * 100) (1024 ^ u.power), _, hsize,
    bytesText_of_ofBytes hsize, hrank, ?_, htext, fun hsmall => ?_, fun hlarge => ?_⟩
  · have heq : (n : ℚ) / 1024 ^ u.power * 100 = ((n * 100 : ℕ) : ℚ) / (1024 ^ u.power : ℕ) := by
      push_cast
      ring
    rw [heq]
    exact Nearest.halfEven_roundsToEven (n * 100) hunit
  · rw [heldQuanta_of_le hsmall] at hr
    rw [htext, Nearest.halfEven_congr hone hunit]
    calc r * 100 * 1024 ^ u.power = r * 1024 ^ u.power * 100 := by ring
      _ = n * 100 * binary64.one := by rw [hr]; ring
  · have hpower : u.power = 5 := by
      rcases Nat.lt_or_eq_of_le hrank.le_last with hlt | heq
      · have hbelow : n < 1024 ^ (u.power + 1) := by exact_mod_cast hrank.lt_next hlt
        have hbound : 1024 ^ (u.power + 1) ≤ 1024 ^ 5 :=
          Nat.pow_le_pow_right (by norm_num) (by omega)
        omega
      · exact heq
    rw [hpower] at hr
    have hclose := Nearest.halfEven_close hone (by norm_num : 0 < 1024 ^ 5)
      (shown_amounts_close h hr)
    rw [hpower]
    refine ⟨rfl, ?_⟩
    rw [← sub_div, abs_div, abs_of_pos (by norm_num : (0 : ℚ) < 100)]
    exact div_le_div_of_nonneg_right hclose (by norm_num)

/-- One byte above a half of a hundredth: the byte is lost before the half goes to the even
neighbour, and the whole hundredth is missing. -/
theorem bytesText_agrees_with_exact_of_lost_byte :
    9147936743096321 < 2 ^ 64 ∧ bytesText 9147936743096321 = "8.12 PB" ∧
      RoundsToEven (9147936743096321 / 1024 ^ 5 * 100) 813 ∧
      ∃ k exact shown, IsUnitRank (9147936743096321 : ℕ) k ∧
        RoundsToEven ((9147936743096321 : ℕ) / 1024 ^ k * 100) exact ∧
        bytesText 9147936743096321 = hundredthsText shown k ∧ k = 5 ∧
        |(shown : ℚ) / 100 - exact / 100| ≤ 1 / 100 := by
  obtain ⟨_, k, exact, shown, -, -, hrank, hexact, htext, -, hlarge⟩ :=
    bytesText_agrees_with_exact (n := 9147936743096321) (by norm_num)
  refine ⟨by norm_num, by decide +kernel, ?_, k, exact, shown, hrank, hexact, htext,
    hlarge (by norm_num)⟩
  constructor
  · norm_num [abs_le]
  · norm_num [abs_eq]

end HostStatus
