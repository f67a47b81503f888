import HostStatus.Json.Basic
import HostStatus.Proofs.Shortest
import HostStatus.Proofs.Tenth

/-!
# The shortest text of tenths

A single that is nearest to some tenths is written with one place, as those tenths. The tenths read
back, so the shortest decimal has no more than one place. Every decimal with no more than one place
is a number of tenths again, and different tenths are different singles.
-/

namespace HostStatus

open Format Decimal

variable {n : ℕ}

theorem nearest_tenth (n : ℕ) : Scaled.nearest binary32 ⟨n, -1⟩ = tenthQuanta n := rfl

theorem Decimal.Fixed.toChars_eq_append {places : ℕ} (negative : Bool) (units : ℕ) :
    (⟨negative, units⟩ : Fixed places).toChars =
      (if negative then ['-'] else []) ++ (⟨false, units⟩ : Fixed places).toChars := by
  cases negative <;> simp [Fixed.toChars]

theorem Decimal.Fixed.toChars_tenths (n : ℕ) :
    (⟨false, n⟩ : Fixed 1).toChars =
      Nat.toDigits 10 (n / 10) ++ ['.', Nat.digitChar (n % 10)] := by
  have hdigit : Nat.toDigits 10 (n % 10) = [Nat.digitChar (n % 10)] :=
    Nat.toDigits_of_lt_base (Nat.mod_lt _ (by norm_num))
  simp [Fixed.toChars, hdigit]

theorem isPositional_iff {k : ℤ} :
    Json.singleLayout.isPositional k = true ↔ -6 ≤ k ∧ k < 13 := by
  simp [Json.singleLayout, Layout.isPositional]

theorem singleLayout_isPositional {d : Scaled} (hc : d.coefficient < 10 ^ 4)
    (hlow : -1 ≤ d.exponent)
    (hhigh : d.exponent ≤ 3) : Json.singleLayout.isPositional d.magnitude = true := by
  have hlen : (Nat.toDigits 10 d.coefficient).length ≤ 4 :=
    (Nat.length_toDigits_le_iff (by norm_num) (by norm_num)).2 hc
  have hpos : 0 < (Nat.toDigits 10 d.coefficient).length := Nat.length_toDigits_pos
  rw [isPositional_iff, Scaled.magnitude]
  omega

/-- A whole number that keeps its point is written with one place. -/
theorem positionalChars_whole (c e : ℕ) :
    Scaled.positionalChars ⟨c, .ofNat e⟩ true = (⟨false, c * 10 ^ e * 10⟩ : Fixed 1).toChars := by
  rw [Fixed.toChars_tenths, Nat.mul_div_cancel _ (by norm_num), Nat.mul_mod_left]
  rfl

/-- What is written where numbers have no more than one place. -/
theorem exists_tenths {d : Scaled} (h : -1 ≤ d.exponent) :
    ∃ m, d.nearest binary32 = tenthQuanta m ∧
      d.positionalChars true = (⟨false, m⟩ : Fixed 1).toChars ∧
      (0 < m → m < 10 ^ 4 → Json.singleLayout.isPositional d.magnitude = true) := by
  obtain ⟨c, e⟩ := d
  cases e with
  | ofNat e =>
    refine ⟨c * 10 ^ e * 10, ?_, positionalChars_whole c e, fun hpos hlt => ?_⟩
    · apply round_congr Nat.one_pos (by norm_num)
      dsimp only [Scaled.fraction]
      rw [Nat.pow_eq]
      ring
    · have hc : 0 < c := Nat.pos_of_ne_zero (by rintro rfl; simp at hpos)
      have hpow : 10 ^ e ≤ c * 10 ^ e := Nat.le_mul_of_pos_left _ hc
      have hcoefficient : c ≤ c * 10 ^ e := Nat.le_mul_of_pos_right c (by positivity)
      have he : e < 4 := by
        rw [← Nat.pow_lt_pow_iff_right (a := 10) (by norm_num)]
        omega
      have hexponent : (Int.ofNat e) ≤ 3 := by
        rw [Int.ofNat_eq_natCast]
        omega
      exact singleLayout_isPositional (d := ⟨c, .ofNat e⟩) (by dsimp only; omega) h hexponent
  | negSucc e =>
    obtain rfl : e = 0 := by
      have hexponent : -1 ≤ Int.negSucc e := h
      omega
    have hexponent : Int.negSucc 0 ≤ 3 := by decide
    exact ⟨c, rfl, rfl, fun _ hlt => singleLayout_isPositional hlt h hexponent⟩

theorem magnitudeChars_tenthQuanta (hn : n ≤ 1000) :
    Json.singleLayout.magnitudeChars binary32 (tenthQuanta n) =
      (⟨false, n⟩ : Fixed 1).toChars := by
  rcases Nat.eq_zero_or_pos n with rfl | hpos
  · rw [tenthQuanta_zero]
    rfl
  have hquanta : tenthQuanta n ≠ 0 := by
    rw [← tenthQuanta_zero]
    intro heq
    exact hpos.ne' (tenthQuanta_injective (Nat.zero_le _) heq)
  have hgrid : binary32.OnGrid (tenthQuanta n) := by
    rw [← nearest_tenth]
    exact Scaled.nearest_onGrid _
  have hexponent : -1 ≤ (shortest binary32 .even (tenthQuanta n)).exponent :=
    le_exponent_shortest (nearest_tenth n) (by omega)
  obtain ⟨m, hnearest, hchars, hpositional⟩ := exists_tenths hexponent
  rw [nearest_shortest hgrid] at hnearest
  obtain rfl := tenthQuanta_injective (by omega) hnearest.symm
  rw [Layout.magnitudeChars, if_neg hquanta]
  dsimp only
  have hposition := hpositional hpos (by omega)
  rw [show Json.singleLayout.tie = .even from rfl, if_pos hposition]
  exact hchars

/-- The numeral of a single that is nearest to some tenths. -/
theorem toChars_tenths {negative : Bool} (hn : n ≤ 1000)
    (h : binary32.Representable (tenthQuanta n)) :
    Json.singleLayout.toChars (.finite negative (tenthQuanta n) h) =
      (⟨negative, n⟩ : Fixed 1).toChars := by
  rw [Layout.toChars, magnitudeChars_tenthQuanta hn, ← Fixed.toChars_eq_append]

end HostStatus
