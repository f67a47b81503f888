import Mathlib.Data.Nat.Notation
import Mathlib.Tactic.GCongr
import Mathlib.Tactic.Linarith
import Mathlib.Tactic.Ring

/-!
# The simplest fraction of an interval

Of the fractions of an interval one has both the least numerator and the least denominator. It is
found along the continued fractions of the two ends, as far as these agree: once a whole number lies
in between, it is the least of them, and until then the common whole part is taken off and the rest
is turned over. So to know that an interval holds no fraction with a small numerator, it is enough
to look at a single one.
-/

namespace HostStatus

/-- Numerator and denominator of the simplest fraction from `a / b` to `c / d`. Where the fuel ends
before it is found, both come out too small. -/
def simplest : (fuel a b c d : ℕ) → ℕ × ℕ
  | 0, _, _, _, _ => (0, 0)
  | fuel + 1, a, b, c, d =>
    if a % b = 0 then (a / b, 1)
    else if (a / b + 1) * d ≤ c then (a / b + 1, 1)
    else
      let inner := simplest fuel d (c - a / b * d) b (a % b)
      (a / b * inner.1 + inner.2, inner.1)

theorem simplest_le (fuel : ℕ) {a b c d n m : ℕ} (hb : 0 < b) (hd : 0 < d) (hm : 0 < m)
    (hlow : a * m ≤ n * b) (hhigh : n * d ≤ c * m) :
    (simplest fuel a b c d).1 ≤ n ∧ (simplest fuel a b c d).2 ≤ m := by
  induction fuel generalizing a b c d n m with
  | zero => exact ⟨Nat.zero_le _, Nat.zero_le _⟩
  | succ fuel ih =>
    have hdiv := Nat.div_add_mod a b
    have hmod := Nat.mod_lt a hb
    rw [simplest]
    generalize a / b = k at *
    generalize a % b = r at *
    subst hdiv
    have hwhole : k * m ≤ n := by
      apply Nat.le_of_mul_le_mul_left _ hb
      nlinarith
    have hk : k ≤ k * m := Nat.le_mul_of_pos_right k hm
    split
    · exact ⟨hk.trans hwhole, hm⟩
    · next hr =>
      have hrm : 0 < r * m := Nat.mul_pos (Nat.pos_of_ne_zero hr) hm
      have hlt : k * m < n := by
        apply Nat.lt_of_mul_lt_mul_left (a := b)
        nlinarith
      split
      · exact ⟨by omega, hm⟩
      · -- Both ends have the whole part `k`, and what is left of `n / m` lies between their rests.
        obtain ⟨rest, rfl⟩ : ∃ rest, n = k * m + rest := ⟨n - k * m, by omega⟩
        have hrest : 0 < rest := by omega
        have hupper : k * d * m + d * rest ≤ c * m := by
          calc k * d * m + d * rest = (k * m + rest) * d := by ring
            _ ≤ c * m := hhigh
        have hlower : m * r ≤ b * rest := by nlinarith
        have hend : k * d < c := by
          have := Nat.mul_pos hd hrest
          exact Nat.lt_of_mul_lt_mul_right (a := m) (by omega)
        have hbelow : d * rest ≤ m * (c - k * d) := by
          rw [Nat.mul_comm m, Nat.sub_mul]
          omega
        obtain ⟨hnum, hden⟩ :=
          ih (Nat.sub_pos_of_lt hend) (Nat.pos_of_ne_zero hr) hrest hbelow hlower
        exact ⟨Nat.add_le_add (Nat.mul_le_mul_left k hnum) hden, hnum⟩

section Narrow

variable {a b c n m p q bound : ℕ}

/-- Two fractions with small numerators are too far apart for a narrow interval, unless one is below
the other by nothing. -/
theorem mul_le_mul_of_narrow (hb : 0 < b) (hnarrow : (c - a) * bound ^ 2 * b < a ^ 2)
    (hn : n < bound) (hp : p < bound) (hnlow : a * m ≤ n * b) (hplow : a * q ≤ p * b)
    (hphigh : p * b ≤ c * q) : p * m ≤ n * q := by
  by_contra! hlt
  have hgap : b ≤ (c - a) * (q * m) := by
    have hends : b + a * (q * m) ≤ c * (q * m) := by
      calc b + a * (q * m) = b + q * (a * m) := by ring
        _ ≤ b + q * (n * b) := by gcongr
        _ = (n * q + 1) * b := by ring
        _ ≤ p * m * b := Nat.mul_le_mul_right b hlt
        _ = m * (p * b) := by ring
        _ ≤ m * (c * q) := by gcongr
        _ = c * (q * m) := by ring
    rw [Nat.sub_mul]
    omega
  have hsmall : a ^ 2 * (q * m) ≤ bound ^ 2 * b ^ 2 := by
    calc a ^ 2 * (q * m) = a * m * (a * q) := by ring
      _ ≤ n * b * (p * b) := Nat.mul_le_mul hnlow hplow
      _ ≤ bound * b * (bound * b) := by gcongr
      _ = bound ^ 2 * b ^ 2 := by ring
  have hle : a ^ 2 * b ≤ (c - a) * bound ^ 2 * b * b := by
    calc a ^ 2 * b ≤ a ^ 2 * ((c - a) * (q * m)) := by gcongr
      _ = (c - a) * (a ^ 2 * (q * m)) := by ring
      _ ≤ (c - a) * (bound ^ 2 * b ^ 2) := by gcongr
      _ = (c - a) * bound ^ 2 * b * b := by ring
  exact absurd (Nat.le_of_mul_le_mul_right hle hb) (Nat.not_le.2 hnarrow)

theorem mul_eq_mul_of_narrow (hb : 0 < b) (hnarrow : (c - a) * bound ^ 2 * b < a ^ 2)
    (hn : n < bound) (hp : p < bound) (hnlow : a * m ≤ n * b) (hnhigh : n * b ≤ c * m)
    (hplow : a * q ≤ p * b) (hphigh : p * b ≤ c * q) : n * q = p * m :=
  Nat.le_antisymm (mul_le_mul_of_narrow hb hnarrow hp hn hplow hnlow hnhigh)
    (mul_le_mul_of_narrow hb hnarrow hn hp hnlow hplow hphigh)

end Narrow

/-- A fraction in lowest terms is written with other numbers only if they are at least twice as
large. -/
theorem eq_of_mul_eq_mul_of_coprime {n m p q : ℕ} (hpq : p.Coprime q) (hn : 0 < n)
    (hlt : n < 2 * p) (h : n * q = p * m) : n = p ∧ m = q := by
  obtain ⟨k, rfl⟩ : p ∣ n := hpq.dvd_of_dvd_mul_right (Dvd.intro m h.symm)
  have hp : 0 < p := Nat.pos_of_mul_pos_right hn
  have hk : 0 < k := Nat.pos_of_mul_pos_left hn
  have hk2 : k < 2 := by
    apply Nat.lt_of_mul_lt_mul_left (a := p)
    omega
  obtain rfl : k = 1 := by omega
  rw [Nat.mul_one] at h
  exact ⟨Nat.mul_one p, (Nat.eq_of_mul_eq_mul_left hp h).symm⟩

end HostStatus
