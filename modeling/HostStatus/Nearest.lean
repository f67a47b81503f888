/-!
# Rounding a quotient to the nearest whole number

The two rules differ only on an exact half: `halfEven` goes to the even neighbour, `halfUp` to the
larger one. Both are at most half a unit away from the exact quotient.
-/

namespace HostStatus.Nearest

def halfEven (num den : Nat) : Nat :=
  let floor := num / den
  let twice := 2 * (num % den)
  if twice < den ∨ (twice = den ∧ floor % 2 = 0) then floor else floor + 1

def halfUp (num den : Nat) : Nat :=
  (2 * num + den) / (2 * den)

theorem halfEven_cases (num den : Nat) :
    (halfEven num den = num / den ∧ 2 * (num % den) ≤ den) ∨
      (halfEven num den = num / den + 1 ∧ den ≤ 2 * (num % den)) := by
  unfold halfEven
  dsimp only
  split <;> omega

theorem halfEven_le (num den : Nat) : 2 * (halfEven num den * den) ≤ 2 * num + den := by
  have hdiv := Nat.div_add_mod num den
  rw [Nat.mul_comm] at hdiv
  rcases halfEven_cases num den with ⟨heq, hle⟩ | ⟨heq, hle⟩
  · rw [heq]; omega
  · rw [heq, Nat.add_mul]; omega

theorem le_halfEven (num : Nat) {den : Nat} (hden : 0 < den) :
    2 * num ≤ 2 * (halfEven num den * den) + den := by
  have hdiv := Nat.div_add_mod num den
  have hmod := Nat.mod_lt num hden
  rw [Nat.mul_comm] at hdiv
  rcases halfEven_cases num den with ⟨heq, hle⟩ | ⟨heq, hle⟩
  · rw [heq]; omega
  · rw [heq, Nat.add_mul]; omega

theorem halfEven_of_dvd {num den : Nat} (h : num % den = 0) : halfEven num den = num / den := by
  unfold halfEven
  dsimp only
  rw [if_pos]
  rcases Nat.eq_zero_or_pos den with rfl | hpos
  · right; simp at h ⊢; omega
  · left; omega

end HostStatus.Nearest
