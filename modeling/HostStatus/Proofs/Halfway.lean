import HostStatus.Proofs.Value

/-!
# Between two neighbouring numbers of a format

The number next to `q` is `2 ^ spacing q` quanta above it. What is rounded to `q` is at most half of
that above `q`, and what is rounded to something larger is at least as much above it. So two values
that are rounded differently have a number halfway between two neighbours on their way, which is
what a second rounding has to come across to change the result of the first.
-/

namespace HostStatus

open Format

theorem le_midpoint_of_abs_sub_le {a b x : ℚ} (hab : a < b) (h : |a - x| ≤ |b - x|) :
    x ≤ (a + b) / 2 := by
  by_contra! hlt
  rw [abs_of_nonpos (by linarith)] at h
  rcases abs_cases (b - x) with ⟨heq, _⟩ | ⟨heq, _⟩ <;> linarith

theorem midpoint_le_of_abs_sub_le {a b x : ℚ} (hab : a < b) (h : |b - x| ≤ |a - x|) :
    (a + b) / 2 ≤ x := by
  by_contra! hlt
  rw [abs_of_nonneg (by linarith : 0 ≤ b - x)] at h
  rcases abs_cases (a - x) with ⟨heq, _⟩ | ⟨heq, _⟩ <;> linarith

/-- If rounding twice differs from rounding once, the value between the two results, which is what
was rounded in between, lies exactly halfway. -/
theorem eq_midpoint_of_round_ne {F G : Format} {num den r m : ℕ} (hden : 0 < den)
    (hr : r = G.round (num * G.one) den) (hm : G.OnGrid m)
    (hmid : 2 * m * F.one =
      (F.round (num * F.one) den + F.round (r * F.one) G.one) * G.one)
    (hne : F.round (num * F.one) den ≠ F.round (r * F.one) G.one) : r = m := by
  have hF := F.cast_one_pos
  have hG := G.cast_one_pos
  have hd : (0 : ℚ) < den := by exact_mod_cast hden
  have honce := round_nearest (num * F.one) hden (F.round_onGrid (r * F.one) G.one_pos)
  have htwice := round_nearest (r * F.one) G.one_pos (F.round_onGrid (num * F.one) hden)
  have hmidQ : (2 * m * F.one : ℚ) =
      (F.round (num * F.one) den + F.round (r * F.one) G.one : ℕ) * G.one := by exact_mod_cast hmid
  generalize F.round (num * F.one) den = a at *
  generalize F.round (r * F.one) G.one = b at *
  push_cast at honce htwice hmidQ
  have hhalf : ((a : ℚ) + b) / 2 = m * F.one / G.one := by
    field_simp
    linarith
  rcases Nat.lt_or_gt_of_ne hne with hlt | hgt
  · have hltQ : (a : ℚ) < b := by exact_mod_cast hlt
    have hle := le_midpoint_of_abs_sub_le hltQ honce
    have hge := midpoint_le_of_abs_sub_le hltQ htwice
    rw [hhalf] at hle hge
    apply Nat.le_antisymm
    · rw [hr]
      apply round_le hden hm
      rw [div_le_div_iff₀ hd hG] at hle
      have : (num * G.one : ℚ) ≤ m * den := by nlinarith
      exact_mod_cast this
    · rw [div_le_div_iff_of_pos_right hG] at hge
      have : (m : ℚ) ≤ r := le_of_mul_le_mul_right hge hF
      exact_mod_cast this
  · have hgtQ : (b : ℚ) < a := by exact_mod_cast hgt
    have hge := midpoint_le_of_abs_sub_le hgtQ honce
    have hle := le_midpoint_of_abs_sub_le hgtQ htwice
    rw [add_comm, hhalf] at hle hge
    apply Nat.le_antisymm
    · rw [div_le_div_iff_of_pos_right hG] at hle
      have : (r : ℚ) ≤ m := le_of_mul_le_mul_right hle hF
      exact_mod_cast this
    · rw [hr]
      apply le_round hden hm
      rw [div_le_div_iff₀ hG hd] at hge
      have : (m * den : ℚ) ≤ num * G.one := by nlinarith
      exact_mod_cast this

namespace Format

variable {F : Format} {q r num den : ℕ}

/-- The next number of the format may be the first of a coarser grid. -/
theorem OnGrid.add_spacing (hq : F.OnGrid q) : F.OnGrid (q + 2 ^ F.spacing q) := by
  obtain ⟨k, hk, heq⟩ := hq.exists_eq_mul_two_pow
  have hnext : q + 2 ^ F.spacing q = (k + 1) * 2 ^ F.spacing q := by
    rw [Nat.add_mul, Nat.one_mul, ← heq]
  rw [hnext]
  rcases Nat.lt_or_eq_of_le hk with hlt | hlast
  · exact onGrid_mul_two_pow hlt _
  · rw [← Nat.succ_eq_add_one, hlast, ← pow_add]
    exact onGrid_two_pow _

theorem OnGrid.add_spacing_le (hq : F.OnGrid q) (hr : F.OnGrid r) (h : q < r) :
    q + 2 ^ F.spacing q ≤ r := by
  obtain ⟨k, hk⟩ := hq
  obtain ⟨l, hl⟩ := hr.dvd_of_le h.le
  generalize 2 ^ F.spacing q = step at hk hl
  have hkl : k < l := by
    apply Nat.lt_of_mul_lt_mul_left (a := step)
    omega
  calc q + step = step * (k + 1) := by rw [hk]; ring
    _ ≤ step * l := Nat.mul_le_mul_left step hkl
    _ = r := hl.symm

theorem le_halfway_of_round_eq (hden : 0 < den) (h : F.round num den = q) :
    (num : ℚ) / den ≤ q + 2 ^ F.spacing q / 2 := by
  subst h
  have hgrid := F.round_onGrid num hden
  have hnearest := F.round_nearest num hden hgrid.add_spacing
  generalize F.round num den = q at *
  have hstep : (0 : ℚ) < 2 ^ F.spacing q := by positivity
  push_cast at hnearest
  have hmid := le_midpoint_of_abs_sub_le (by linarith : (q : ℚ) < q + 2 ^ F.spacing q) hnearest
  linarith

theorem halfway_le_of_lt_round (hden : 0 < den) (hq : F.OnGrid q) (h : q < F.round num den) :
    (q : ℚ) + 2 ^ F.spacing q / 2 ≤ num / den := by
  have hnext := hq.add_spacing_le (F.round_onGrid num hden) h
  have hnearest := F.round_nearest num hden hq
  generalize F.round num den = r at *
  have hlt : (q : ℚ) < r := by exact_mod_cast h
  have hnextQ : (q : ℚ) + 2 ^ F.spacing q ≤ r := by exact_mod_cast hnext
  have hmid := midpoint_le_of_abs_sub_le hlt hnearest
  linarith

/-- On the way from one value to another that is rounded differently lies a point halfway, and what
the first is rounded to is as far from it as its neighbours are. -/
theorem exists_halfway_of_round_ne {num' den' : ℕ} (hden : 0 < den) (hden' : 0 < den')
    (hne : F.round num' den' ≠ F.round num den) :
    ∃ q, F.OnGrid q ∧ q ≤ F.round num den ∧
      |((q : ℚ) + 2 ^ F.spacing q / 2) - num / den| ≤ |(num' : ℚ) / den' - num / den| ∧
      (2 : ℚ) ^ F.spacing q / 2 ≤ |((q : ℚ) + 2 ^ F.spacing q / 2) - F.round num den| := by
  rcases Nat.lt_or_gt_of_ne hne with hlt | hgt
  · have hgrid := F.round_onGrid num' hden'
    have hlow := le_halfway_of_round_eq hden' (q := F.round num' den') rfl
    have hhigh := halfway_le_of_lt_round hden hgrid hlt
    have hnext : ((F.round num' den' : ℚ) + 2 ^ F.spacing (F.round num' den')) ≤
        F.round num den := by exact_mod_cast hgrid.add_spacing_le (F.round_onGrid num hden) hlt
    refine ⟨_, hgrid, hlt.le, ?_, ?_⟩
    · rw [abs_of_nonpos (by linarith), abs_of_nonpos (by linarith)]
      linarith
    · rw [abs_of_nonpos (by linarith [pow_pos (two_pos (α := ℚ)) (F.spacing (F.round num' den'))])]
      linarith
  · have hgrid := F.round_onGrid num hden
    have hlow := le_halfway_of_round_eq hden (q := F.round num den) rfl
    have hhigh := halfway_le_of_lt_round hden' hgrid hgt
    refine ⟨_, hgrid, le_rfl, ?_, ?_⟩
    · rw [abs_of_nonneg (by linarith), abs_of_nonneg (by linarith)]
      linarith
    · rw [add_sub_cancel_left]
      exact le_abs_self _

end Format

end HostStatus
