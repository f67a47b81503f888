import HostStatus.Decimal.Shortest
import HostStatus.Proofs.Rounding

/-!
# The shortest decimal reads back, from the coarsest grid

`onGrid?` looks at two points of a grid only. That is enough, because rounding is monotone: if any
point of the grid reads back as `q`, so does the one next to `q` on its side. The search thus stops
at the first grid that holds a decimal for `q`, and what it gives reads back.
-/

namespace HostStatus.Decimal

open Format

variable {F : Format} {tie : Tie} {q c : ℕ} {e : ℤ} {d : Scaled}

namespace Scaled

theorem fraction_mk (c : ℕ) (e : ℤ) :
    fraction ⟨c, e⟩ = (c * (fraction ⟨1, e⟩).1, (fraction ⟨1, e⟩).2) := by
  cases e <;> simp [fraction]

theorem fraction_den_pos (d : Scaled) : 0 < d.fraction.2 := by
  obtain ⟨c, e⟩ := d
  cases e with
  | ofNat e => exact Nat.one_pos
  | negSucc e => exact Nat.pow_pos (by norm_num)

theorem nearest_mk (F : Format) (c : ℕ) (e : ℤ) :
    nearest F ⟨c, e⟩ = F.round (c * (fraction ⟨1, e⟩).1 * F.one) (fraction ⟨1, e⟩).2 := by
  rw [nearest, fraction_mk]

theorem nearest_mono {c c' : ℕ} (e : ℤ) (h : c ≤ c') : nearest F ⟨c, e⟩ ≤ nearest F ⟨c', e⟩ := by
  rw [nearest_mk, nearest_mk]
  have hden := fraction_den_pos ⟨1, e⟩
  exact round_mono hden hden (by gcongr)

theorem nearest_onGrid (d : Scaled) : F.OnGrid (d.nearest F) :=
  F.round_onGrid _ (fraction_den_pos d)

/-- A point of the grid that is not above `q` does not read back above `q`. -/
theorem nearest_le (hq : F.OnGrid q)
    (h : c * (F.one * (fraction ⟨1, e⟩).1) ≤ q * (fraction ⟨1, e⟩).2) :
    nearest F ⟨c, e⟩ ≤ q := by
  rw [nearest_mk]
  apply round_le (fraction_den_pos _) hq
  calc c * (fraction ⟨1, e⟩).1 * F.one = c * (F.one * (fraction ⟨1, e⟩).1) := by ring
    _ ≤ q * (fraction ⟨1, e⟩).2 := h

theorem le_nearest (hq : F.OnGrid q)
    (h : q * (fraction ⟨1, e⟩).2 ≤ c * (F.one * (fraction ⟨1, e⟩).1)) :
    q ≤ nearest F ⟨c, e⟩ := by
  rw [nearest_mk]
  apply le_round (fraction_den_pos _) hq
  calc q * (fraction ⟨1, e⟩).2 ≤ c * (F.one * (fraction ⟨1, e⟩).1) := h
    _ = c * (fraction ⟨1, e⟩).1 * F.one := by ring

end Scaled

namespace Shortest

theorem nearer_eq_or (tie : Tie) (below rest den : ℕ) :
    nearer tie below rest den = below ∨ nearer tie below rest den = below + 1 := by
  unfold nearer
  split
  · exact .inl rfl
  · split
    · exact .inr rfl
    · cases tie with
      | up => exact .inr rfl
      | even => exact ite_eq_or_eq _ _ _

theorem onGrid?_eq_some (h : onGrid? F tie q e = some d) : d.exponent = e ∧ d.nearest F = q := by
  unfold onGrid? at h
  dsimp only at h
  split at h
  · next hbelow habove =>
    obtain rfl := Option.some.inj h
    refine ⟨rfl, ?_⟩
    rcases nearer_eq_or tie (q * (Scaled.fraction ⟨1, e⟩).2 / (F.one * (Scaled.fraction ⟨1, e⟩).1))
      (q * (Scaled.fraction ⟨1, e⟩).2 % (F.one * (Scaled.fraction ⟨1, e⟩).1))
      (F.one * (Scaled.fraction ⟨1, e⟩).1) with heq | heq
    · rw [heq]
      exact of_decide_eq_true hbelow
    · rw [heq]
      exact of_decide_eq_true habove
  · next hbelow _ =>
    obtain rfl := Option.some.inj h
    exact ⟨rfl, of_decide_eq_true hbelow⟩
  · next _ habove =>
    obtain rfl := Option.some.inj h
    exact ⟨rfl, of_decide_eq_true habove⟩
  · cases h

/-- If any point of the grid reads back, one of the two around `q` does. -/
theorem onGrid?_isSome (tie : Tie) (h : Scaled.nearest F ⟨c, e⟩ = q) :
    (onGrid? F tie q e).isSome := by
  have hq : F.OnGrid q := h ▸ Scaled.nearest_onGrid _
  have hgrid : 0 < F.one * (Scaled.fraction ⟨1, e⟩).1 := by
    apply Nat.mul_pos F.one_pos
    cases e with
    | ofNat e => simp [Scaled.fraction]
    | negSucc e => exact Nat.one_pos
  unfold onGrid?
  dsimp only
  generalize hnum : q * (Scaled.fraction ⟨1, e⟩).2 = num
  generalize hden : F.one * (Scaled.fraction ⟨1, e⟩).1 = den at hgrid
  have hbelow : Scaled.nearest F ⟨num / den, e⟩ ≤ q :=
    Scaled.nearest_le hq (by rw [hnum, hden]; exact Nat.div_mul_le_self num den)
  have habove : q ≤ Scaled.nearest F ⟨num / den + 1, e⟩ :=
    Scaled.le_nearest hq (by rw [hnum, hden]; exact
      ((Nat.div_lt_iff_lt_mul hgrid).1 (Nat.lt_succ_self _)).le)
  rcases Nat.lt_or_ge (num / den) c with hc | hc
  · have heq : Scaled.nearest F ⟨num / den + 1, e⟩ = q :=
      le_antisymm ((Scaled.nearest_mono e hc).trans h.le) habove
    rw [decide_eq_true heq]
    cases decide (Scaled.nearest F ⟨num / den, e⟩ = q) <;> rfl
  · have heq : Scaled.nearest F ⟨num / den, e⟩ = q :=
      le_antisymm hbelow (h.ge.trans (Scaled.nearest_mono e hc))
    rw [decide_eq_true heq]
    cases decide (Scaled.nearest F ⟨num / den + 1, e⟩ = q) <;> rfl

/-- The last grid holds the magnitude itself. -/
theorem nearest_finest (hq : F.OnGrid q) :
    Scaled.nearest F ⟨q * Nat.pow 5 F.scale, -(F.scale : ℤ)⟩ = q := by
  have hscale : (Scaled.fraction ⟨1, -(F.scale : ℤ)⟩).1 = 1 ∧
      (Scaled.fraction ⟨1, -(F.scale : ℤ)⟩).2 = 10 ^ F.scale := by
    cases F.scale with
    | zero => exact ⟨rfl, rfl⟩
    | succ s => exact ⟨rfl, rfl⟩
  rw [Scaled.nearest_mk, hscale.1, hscale.2, one_eq]
  have hten : q * Nat.pow 5 F.scale * 1 * 2 ^ F.scale = q * 10 ^ F.scale := by
    rw [show (10 : ℕ) = 5 * 2 from rfl, mul_pow, Nat.pow_eq]
    ring
  rw [hten]
  exact round_mul_self (Nat.pow_pos (by norm_num)) hq

theorem nearest_search (hq : F.OnGrid q) (steps : ℕ) :
    (search F tie q steps).nearest F = q := by
  induction steps with
  | zero => exact nearest_finest hq
  | succ steps ih =>
    unfold search
    split
    · next d hd => exact (onGrid?_eq_some hd).2
    · exact ih

/-- The search does not pass a grid that holds a decimal for `q`. -/
theorem le_exponent_search {steps : ℕ} (h : Scaled.nearest F ⟨c, e⟩ = q)
    (he : e ≤ steps - F.scale) : e ≤ (search F tie q steps).exponent := by
  induction steps with
  | zero =>
    have : e ≤ -(F.scale : ℤ) := by push_cast at he; omega
    exact this
  | succ steps ih =>
    unfold search
    split
    · next d hd =>
      rw [(onGrid?_eq_some hd).1]
      push_cast at he
      exact he
    · next hnone =>
      apply ih
      have hne : e ≠ steps + 1 - F.scale := by
        rintro rfl
        have hsome := onGrid?_isSome tie h
        rw [hnone] at hsome
        cases hsome
      push_cast at he
      omega

end Shortest

theorem nearest_shortest (hq : F.OnGrid q) : (shortest F tie q).nearest F = q :=
  Shortest.nearest_search hq _

/-- No decimal for `q` has a larger exponent, up to that of the first digit. -/
theorem le_exponent_shortest (h : Scaled.nearest F ⟨c, e⟩ = q)
    (he : e ≤ (Nat.toDigits 10 (q / F.one)).length) : e ≤ (shortest F tie q).exponent :=
  Shortest.le_exponent_search h (by push_cast; omega)

end HostStatus.Decimal
