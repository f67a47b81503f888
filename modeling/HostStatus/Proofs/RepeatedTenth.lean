import HostStatus.Proofs.NarrowedTenth

/-!
# Rounding to tenths, on all numbers

The four steps of `roundTenth` keep the order of numbers, signs and infinities. So what it gives is
an infinity as soon as one step ended there, and otherwise the tenths of a whole number with the
sign of what was rounded. Rounding them again starts from a single, which double precision holds
with room for the product with ten, so that the only steps that count are the two that
`narrowedTenth` is made of.
-/

namespace HostStatus

open Format

attribute [local irreducible] Format.one Format.limit

namespace Binary

variable {m q : ℕ}

/-! ## The four steps -/

theorem mul_ten_actsAs :
    ActsAs (fun x : Double => x.mul (.ofNat 10))
      fun a => binary64.round (a * (10 * binary64.one)) binary64.one :=
  actsAs_mul_ofNat (by norm_num) (by norm_num)

theorem div_ten_actsAs :
    ActsAs (fun x : Double => x.div (.ofNat 10))
      fun a => binary64.round (a * binary64.one) (10 * binary64.one) :=
  actsAs_div_ofNat (by norm_num) (by norm_num)

theorem roundTenth_ordered {x y : Double} (h : Ordered x y) :
    Ordered (roundTenth x) (roundTenth y) :=
  actsAs_convert.ordered
    (div_ten_actsAs.ordered (actsAs_roundToWhole.ordered (mul_ten_actsAs.ordered h)))

theorem isNumber_roundTenth (x : Double) : (roundTenth x).isNumber = x.isNumber := by
  cases hx : x.isNumber with
  | false =>
    cases x with
    | nan s p h => rfl
    | infinite s => cases hx
    | finite s a h => cases hx
  | true =>
    exact actsAs_convert.isNumber
      (div_ten_actsAs.isNumber (actsAs_roundToWhole.isNumber (mul_ten_actsAs.isNumber hx)))

theorem tenth_infinite (s : Bool) :
    ((infinite s : Double).div (.ofNat 10)).convert .binary32 = infinite s := by
  have hdiv : (infinite s : Double).div (.ofNat 10) = infinite s := div_ten_actsAs.infinite s
  rw [hdiv, actsAs_convert.infinite]

theorem tenth_ofQuanta (s : Bool) (h : binary64.Representable (m * binary64.one)) :
    ((ofQuanta s (m * binary64.one) : Double).div (.ofNat 10)).convert .binary32 =
      ofQuanta s (narrowedTenth m) := by
  have hten : 0 < 10 * binary64.one := Nat.mul_pos (by norm_num) binary64.one_pos
  have hdiv : (ofQuanta s (m * binary64.one) : Double).div (.ofNat 10) =
      ofQuanta s (binary64.round (m * binary64.one * binary64.one) (10 * binary64.one)) :=
    div_ten_actsAs.ofQuanta s h
  have htenth : binary64.round (m * binary64.one * binary64.one) (10 * binary64.one) =
      binary64.round (m * binary64.one) 10 :=
    round_congr hten (by norm_num) (by ring)
  have hle : binary64.round (m * binary64.one) 10 ≤ m * binary64.one :=
    round_le (by norm_num) (representable_iff.1 h).2 (Nat.le_mul_of_pos_right _ (by norm_num))
  have hrep : binary64.Representable (binary64.round (m * binary64.one) 10) :=
    representable_iff.2 ⟨hle.trans_lt h.1, round_onGrid _ _ (by norm_num)⟩
  rw [hdiv, htenth, actsAs_convert.ofQuanta s hrep]
  rfl

theorem roundTenth_infinite (s : Bool) : roundTenth (.infinite s) = .infinite s := by
  have hmul : (infinite s : Double).mul (.ofNat 10) = infinite s := mul_ten_actsAs.infinite s
  rw [roundTenth, hmul, actsAs_roundToWhole.infinite, tenth_infinite]

/-- A step that ends at an infinity ends the whole run there. -/
theorem roundTenth_finite (s : Bool) {a : ℕ} (h : binary64.Representable a) :
    roundTenth (.finite s a h) = .infinite s ∨
      roundTenth (.finite s a h) = ofQuanta s (narrowedTenth (wholeTenths a)) := by
  have hmul : (finite s a h : Double).mul (.ofNat 10) =
      ofQuanta s (binary64.round (a * (10 * binary64.one)) binary64.one) :=
    mul_ten_actsAs.finite s a h
  rw [roundTenth, hmul, wholeTenths]
  generalize binary64.round (a * (10 * binary64.one)) binary64.one = p
  rcases ofQuanta_cases (F := binary64) s p with heq | ⟨hp, heq⟩
  · left
    rw [heq, actsAs_roundToWhole.infinite, tenth_infinite]
  · rw [heq, actsAs_roundToWhole.finite]
    generalize Nearest.halfUp p binary64.one = m
    rcases ofQuanta_cases (F := binary64) s (m * binary64.one) with heq | ⟨hm, -⟩
    · left
      rw [heq, tenth_infinite]
    · exact .inr (tenth_ofQuanta s hm)

theorem roundTenth_of_isFinite {s : Bool} {a : ℕ} {h : binary64.Representable a}
    (hfinite : (roundTenth (.finite s a h)).isFinite = true) :
    ∃ hq, roundTenth (.finite s a h) = finite s (narrowedTenth (wholeTenths a)) hq := by
  rcases roundTenth_finite s h with heq | heq
  · rw [heq] at hfinite
    cases hfinite
  · rcases ofQuanta_cases (F := binary32) s (narrowedTenth (wholeTenths a)) with hq | ⟨hq, hvalue⟩
    · rw [heq, hq] at hfinite
      cases hfinite
    · exact ⟨hq, heq.trans hvalue⟩

/-! ## The distance to what was rounded -/

theorem exists_sign (s : Bool) : ∃ σ : ℚ, |σ| = 1 ∧ ∀ a : ℕ, (signed s a : ℚ) = σ * a := by
  cases s with
  | false => exact ⟨1, abs_one, fun a => by simp [signed]⟩
  | true => exact ⟨-1, by simp, fun a => by simp [signed]⟩

/-- Up to the errors of the product and of the quotient, the outcome is the tenths of the nearest
whole number. -/
theorem exists_wholeTenths {x : Double} (hx : x.isFinite = true)
    (hfinite : (roundTenth x).isFinite = true) :
    ∃ n : ℤ, |n - 10 * x.value| ≤ 1 / 2 + 10 * |x.value| / 2 ^ 53 ∧
      |(roundTenth x).value - n / 10| ≤ |(n : ℚ)| / 10 / 2 ^ 23 := by
  cases x with
  | nan s p h => cases hx
  | infinite s => cases hx
  | finite s a h =>
    obtain ⟨hq, heq⟩ := roundTenth_of_isFinite hfinite
    obtain ⟨σ, hσ, hsigned⟩ := exists_sign s
    have hmagnitude {v : ℚ} (hv : 0 ≤ v) : |σ * v| = v := by
      rw [abs_mul, hσ, one_mul, abs_of_nonneg hv]
    refine ⟨signed s (wholeTenths a), ?_, ?_⟩
    · have hfactor : σ * wholeTenths a - 10 * (σ * a / binary64.one) =
          σ * (wholeTenths a - 10 * (a / binary64.one)) := by ring
      rw [value, hsigned, hsigned, hfactor, abs_mul, hσ, one_mul, mul_div_assoc σ,
        hmagnitude (by positivity)]
      exact wholeTenths_error a
    · have hfactor : σ * narrowedTenth (wholeTenths a) / binary32.one - σ * wholeTenths a / 10 =
          σ * (narrowedTenth (wholeTenths a) / binary32.one - wholeTenths a / 10) := by ring
      rw [heq, value, hsigned, hsigned, hfactor, abs_mul, hσ, one_mul, hmagnitude (by positivity)]
      exact narrowedTenth_error (wholeTenths a)

/-! ## The same steps on the outcome -/

section Widened

variable {k : ℕ} (hk : binary64.one = binary32.one * 2 ^ k)

include hk in
theorem halfUp_widened :
    Nearest.halfUp (10 * q * 2 ^ k) binary64.one = Nearest.halfUp (10 * q) binary32.one := by
  rw [hk]
  exact Nearest.halfUp_mul_right _ _ (Nat.two_pow_pos k)

variable (hlimit : 16 * binary32.limit * 2 ^ k ≤ binary64.limit) (hq : binary32.Representable q)

include hlimit hq

theorem representable_widened {c : ℕ} (hc : c < 16) : binary64.Representable (c * q * 2 ^ k) := by
  obtain ⟨hlt, hgrid⟩ := representable_iff.1 hq
  refine representable_iff.2 ⟨?_, hgrid.widen (by omega) k⟩
  calc c * q * 2 ^ k ≤ 16 * q * 2 ^ k := by gcongr
    _ < 16 * binary32.limit * 2 ^ k :=
      Nat.mul_lt_mul_of_pos_right (by omega) (Nat.two_pow_pos k)
    _ ≤ binary64.limit := hlimit

theorem mul_ten_widened (s : Bool) :
    (ofQuanta s (1 * q * 2 ^ k) : Double).mul (.ofNat 10) = ofQuanta s (10 * q * 2 ^ k) := by
  have hmul : (ofQuanta s (1 * q * 2 ^ k) : Double).mul (.ofNat 10) =
      ofQuanta s (binary64.round (1 * q * 2 ^ k * (10 * binary64.one)) binary64.one) :=
    mul_ten_actsAs.ofQuanta s (representable_widened hlimit hq (by norm_num))
  have hten := (representable_iff.1 (representable_widened hlimit hq (by norm_num : 10 < 16))).2
  have hexact : 1 * q * 2 ^ k * (10 * binary64.one) = 10 * q * 2 ^ k * binary64.one := by ring
  rw [hmul, hexact, round_mul_self binary64.one_pos hten]

include hk

theorem convert_widened (s : Bool) :
    (ofQuanta s q : Single).convert .binary64 = ofQuanta s (1 * q * 2 ^ k) := by
  have hwide := (representable_iff.1 (representable_widened hlimit hq (by norm_num : 1 < 16))).2
  have hexact : q * binary64.one = 1 * q * 2 ^ k * binary32.one := by
    rw [hk]
    ring
  rw [actsAs_convert.ofQuanta s hq, hexact, round_mul_self binary32.one_pos hwide]

theorem representable_whole :
    binary64.Representable (Nearest.halfUp (10 * q) binary32.one * binary64.one) := by
  have hten := representable_widened hlimit hq (by norm_num : 10 < 16)
  refine representable_iff.2 ⟨?_, ?_⟩
  · have hle := Nearest.halfUp_mul_le (10 * q) binary32.one
    have hone : binary32.one ≤ binary32.limit := by decide +kernel
    have hroom : Nearest.halfUp (10 * q) binary32.one * binary32.one < 16 * binary32.limit := by
      have hlt := hq.1
      omega
    calc Nearest.halfUp (10 * q) binary32.one * binary64.one =
          Nearest.halfUp (10 * q) binary32.one * binary32.one * 2 ^ k := by rw [hk, Nat.mul_assoc]
      _ < 16 * binary32.limit * 2 ^ k := Nat.mul_lt_mul_of_pos_right hroom (Nat.two_pow_pos k)
      _ ≤ binary64.limit := hlimit
  · rw [← halfUp_widened hk]
    exact (representable_iff.1 hten).2.halfUp_mul_one

end Widened

/-- A magnitude that is not changed is not changed with either sign. -/
theorem roundTenth_convert (s : Bool) (hq : binary32.Representable q)
    (hstable : narrowedTenth (Nearest.halfUp (10 * q) binary32.one) = q) :
    roundTenth ((ofQuanta s q : Single).convert .binary64) = ofQuanta s q := by
  obtain ⟨k, hk, hlimit⟩ := exists_widening
  rw [roundTenth, convert_widened hk hlimit hq, mul_ten_widened hlimit hq,
    actsAs_roundToWhole.ofQuanta s (representable_widened hlimit hq (by norm_num)),
    halfUp_widened hk, tenth_ofQuanta s (representable_whole hk hlimit hq), hstable]

theorem roundTenth_roundTenth (x : Double) :
    roundTenth ((roundTenth x).convert .binary64) = roundTenth x := by
  have hbeyond (s : Bool) : roundTenth ((infinite s : Single).convert .binary64) = infinite s := by
    rw [actsAs_convert.infinite, roundTenth_infinite]
  cases x with
  | nan s p h => rfl
  | infinite s => rw [roundTenth_infinite, hbeyond]
  | finite s a h =>
    rcases roundTenth_finite s h with heq | heq
    · rw [heq, hbeyond]
    · rw [heq]
      rcases ofQuanta_cases (F := binary32) s (narrowedTenth (wholeTenths a)) with hq | ⟨hq, -⟩
      · rw [hq, hbeyond]
      · exact roundTenth_convert s hq (narrowedTenth_halfUp _)

end Binary

open Binary

/-- Rounding to tenths keeps the order of all numbers, infinite ones included, and gives a number
for just these. What it gives is the tenths of the nearest whole number, as near as the two
precisions come to them, and it is left as it is, sign and bits, when it is rounded once more. -/
theorem roundTenth_mono_and_stable :
    (∀ x y : Double, x.Ordered y → (roundTenth x).Ordered (roundTenth y)) ∧
    (∀ x : Double, (roundTenth x).isNumber = x.isNumber) ∧
    (∀ x : Double, x.isFinite = true → (roundTenth x).isFinite = true →
      ∃ n : ℤ, |n - 10 * x.value| ≤ 1 / 2 + 10 * |x.value| / 2 ^ 53 ∧
        |(roundTenth x).value - n / 10| ≤ |(n : ℚ)| / 10 / 2 ^ 23) ∧
    ∀ x : Double, roundTenth ((roundTenth x).convert .binary64) = roundTenth x :=
  ⟨fun _ _ => roundTenth_ordered, isNumber_roundTenth, fun _ => exists_wholeTenths,
    roundTenth_roundTenth⟩

/-- Four hundredths below zero, which become minus zero; a single that is no number of tenths, where
singles are an eighth apart; and infinity. -/
theorem roundTenth_mono_and_stable_of_coarse :
    let x : Double := .ofBits 0xBFA47AE147AE147B
    let y : Double := .ofBits 0x4130000020000000
    (x.Ordered y ∧ (roundTenth x).Ordered (roundTenth y)) ∧
      (y.Ordered (.infinite false) ∧ (roundTenth y).Ordered (roundTenth (.infinite false))) ∧
      (y.isFinite = true ∧ (roundTenth y).isFinite = true ∧
        ∃ n : ℤ, |n - 10 * y.value| ≤ 1 / 2 + 10 * |y.value| / 2 ^ 53 ∧
          |(roundTenth y).value - n / 10| ≤ |(n : ℚ)| / 10 / 2 ^ 23) ∧
      (roundTenth ((roundTenth x).convert .binary64)).toBits = 0x80000000 ∧
      (roundTenth ((roundTenth y).convert .binary64)).toBits = 0x49800001 := by
  intro x y
  obtain ⟨horder, -, hnear, hrepeat⟩ := roundTenth_mono_and_stable
  have hxy : x.Ordered y := ⟨by decide +kernel, by decide +kernel, by decide +kernel⟩
  have hinfinite : y.Ordered (.infinite false) := ⟨by decide +kernel, rfl, by decide +kernel⟩
  have hy : y.isFinite = true := by decide +kernel
  have hrounded : (roundTenth y).isFinite = true := by decide +kernel
  refine ⟨⟨hxy, horder x y hxy⟩, ⟨hinfinite, horder y _ hinfinite⟩,
    ⟨hy, hrounded, hnear y hy hrounded⟩, ?_, ?_⟩
  · rw [hrepeat x]
    decide +kernel
  · rw [hrepeat y]
    decide +kernel

end HostStatus
