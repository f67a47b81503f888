import HostStatus.Proofs.NumeralText
import HostStatus.Proofs.SingleDigits
import HostStatus.Proofs.TenthText

/-!
# The text of a finite single

Where the shortest decimal of a single is written with an exponent or with places, its digits are
read as this very decimal. A whole number is written with a zero behind the point and so is read as
ten times as many tenths, which need no rounding. In either case the reader's double is narrowed to
the single that was written.
-/

namespace HostStatus.Json

open Format Decimal

attribute [local irreducible] Format.one Format.limit

variable {d : Scaled} {q : ℕ} {text : List Char}

theorem magnitude_lt {c : ℕ} {e : ℕ} {k : ℕ} (h : Scaled.magnitude ⟨c, .ofNat e⟩ < k) :
    c * 10 ^ e < 10 ^ k := by
  have hc : c < 10 ^ (Nat.toDigits 10 c).length :=
    (Nat.length_toDigits_le_iff (by norm_num) Nat.length_toDigits_pos).1 le_rfl
  have hsum : (Nat.toDigits 10 c).length + e ≤ k := by
    rw [Scaled.magnitude, Int.ofNat_eq_natCast] at h
    dsimp only at h
    omega
  calc c * 10 ^ e < 10 ^ (Nat.toDigits 10 c).length * 10 ^ e :=
        Nat.mul_lt_mul_of_pos_right hc (by positivity)
    _ = 10 ^ ((Nat.toDigits 10 c).length + e) := (pow_add _ _ _).symm
    _ ≤ 10 ^ k := Nat.pow_le_pow_right (by norm_num) hsum

/-- The tenths of a whole number need no rounding. -/
theorem narrowed_whole {n : ℕ} (hn : n < 2 ^ 53) :
    Scaled.narrowed ⟨n * 10, .negSucc 0⟩ = Scaled.nearest binary32 ⟨n * 10, .negSucc 0⟩ := by
  have hone : halfSpacing 150 = 1 := by
    rw [halfSpacing]
    norm_num
  have hplaces : (Int.negSucc 0).natAbs ≤ 22 := by decide
  apply Scaled.narrowed_of_exact hplaces hn
  rw [hone, Scaled.value, zpow_negSucc]
  push_cast
  ring

theorem exists_denotes (hc : d.coefficient < 2 ^ 53) (he : d.exponent.natAbs ≤ 150)
    (hnarrow : d.narrowed = q) (hlimit : q < binary32.limit)
    (htext : ∀ y, Number.scaled? d.coefficient d.exponent = some y → Denotes text y) :
    ∃ y : Double, Denotes text y ∧ (y.convert .binary32).HasQuanta q := by
  obtain ⟨y, hy, hquanta, -⟩ := Number.scaled?_read hc he
  subst hnarrow
  exact ⟨y, htext y hy, hquanta.convert hlimit⟩

theorem exists_denotes_whole {n : ℕ} (hn : n * 10 < 2 ^ 53)
    (hnearest : Scaled.nearest binary32 ⟨n * 10, .negSucc 0⟩ = q) (hlimit : q < binary32.limit) :
    ∃ y : Double, Denotes (⟨false, n * 10⟩ : Fixed 1).toChars y ∧
      (y.convert .binary32).HasQuanta q := by
  have hmax : 2 ^ 53 ≤ Number.maxSignificand := by decide
  have hplaces : (Int.negSucc 0).natAbs ≤ 150 := by decide
  exact exists_denotes (d := ⟨n * 10, .negSucc 0⟩) hn hplaces
    ((narrowed_whole (by omega)).trans hnearest) hlimit
    fun y hy => denotes_fixed (hn.le.trans hmax) hy

/-- The numeral of a finite single is read as that single. -/
theorem exists_denotes_magnitudeChars (hq : binary32.OnGrid q) (hlimit : q < binary32.limit) :
    ∃ y : Double, Denotes (singleLayout.magnitudeChars binary32 q) y ∧
      (y.convert .binary32).HasQuanta q := by
  rcases Nat.eq_zero_or_pos q with rfl | hpos
  · exact exists_denotes_whole (n := 0) (by norm_num) (Scaled.nearest_eq_zero rfl) hlimit
  have hnarrow := narrowed_shortest .even hq hpos hlimit
  obtain ⟨hc, he⟩ := shortest_small .even hq hpos hlimit
  have hnearest : (shortest binary32 .even q).nearest binary32 = q := nearest_shortest hq
  have hmax : 2 ^ 30 ≤ Number.maxSignificand := by decide
  rw [Layout.magnitudeChars, if_neg hpos.ne', show singleLayout.tie = .even from rfl,
    show singleLayout.keepsPoint = true from rfl]
  dsimp only
  generalize shortest binary32 .even q = d at *
  split
  · next hpositional =>
    obtain ⟨-, hhigh⟩ := isPositional_iff.1 hpositional
    obtain ⟨c, e⟩ := d
    cases e with
    | ofNat e =>
      rw [positionalChars_whole]
      have hsmall : c * 10 ^ e < 10 ^ 13 := magnitude_lt hhigh
      apply exists_denotes_whole (by omega) _ hlimit
      rw [← hnearest]
      apply round_congr (Scaled.fraction_den_pos _) Nat.one_pos
      dsimp only [Scaled.fraction]
      rw [Nat.pow_eq, Nat.pow_eq]
      ring
    | negSucc places =>
      exact exists_denotes (d := ⟨c, .negSucc places⟩) (hc.trans (by norm_num)) he hnarrow hlimit
        fun y hy => denotes_fixed (hc.le.trans hmax) hy
  · have hlength : (Nat.toDigits 10 d.coefficient).length ≤ 10 :=
      (Nat.length_toDigits_le_iff (by norm_num) (by norm_num)).2 (hc.trans (by norm_num))
    have hmagnitude : d.magnitude.natAbs ≤ Number.maxExponent := by
      rw [Scaled.magnitude, Number.maxExponent]
      omega
    exact exists_denotes (hc.trans (by norm_num)) he hnarrow hlimit
      fun y hy => denotes_scientific (hc.le.trans hmax) hmagnitude hy

/-- Every finite single is read back from its text, zeros with their sign. -/
theorem readSingle_readsBack {x : Single} (hx : x.isFinite = true) :
    ReadsBack readSingle (.ofSingle x) x := by
  cases x with
  | nan s p hp => cases hx
  | infinite s => cases hx
  | finite negative q h =>
    intro rest hrest
    obtain ⟨hlimit, hq⟩ := representable_iff.1 h
    obtain ⟨y, hdenotes, hquanta⟩ := exists_denotes_magnitudeChars hq hlimit
    have htext : (ofSingle (.finite negative q h)).toChars =
        (if negative then ['-'] else []) ++ singleLayout.magnitudeChars binary32 q := by
      rw [ofSingle, if_pos hx, toChars, Layout.toText, String.toList_ofList, Layout.toChars]
    rw [htext, List.append_assoc, hdenotes.readSingle negative hrest.endsNumeral,
      Number.convert_withSign hquanta negative h]

end HostStatus.Json
