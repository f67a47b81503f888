import HostStatus.Proofs.Percentage

/-!
# Operations that keep the order

The order of numbers, infinities included. An operation that leaves signs and infinities as they are
and takes magnitudes to magnitudes in their order, `ActsAs`, keeps that order: what outgrows the
format becomes infinite, and so is beyond all that does not. A product with a whole number, a
quotient by one, rounding to a whole number and narrowing are such operations, and so any chain of
them keeps the order.
-/

namespace HostStatus

open Format

theorem Format.limit_pos (F : Format) : 0 < F.limit :=
  Nat.two_pow_pos _

attribute [local irreducible] Format.one Format.limit

namespace Nearest

theorem halfUp_mul_self {k den : ℕ} (hden : 0 < den) : halfUp (k * den) den = k := by
  have hdouble : k * (2 * den) = 2 * (k * den) := by ring
  apply Nat.div_eq_of_lt_le
  · omega
  · rw [Nat.add_mul]
    omega

theorem halfUp_mul_right (num den : ℕ) {c : ℕ} (hc : 0 < c) :
    halfUp (num * c) (den * c) = halfUp num den := by
  rw [halfUp, halfUp, ← Nat.mul_assoc, ← Nat.mul_assoc, ← Nat.add_mul, Nat.mul_div_mul_right _ _ hc]

end Nearest

namespace Format

variable {F : Format} {a : ℕ}

/-- The nearest whole number has few digits, or there was nothing to round. -/
theorem OnGrid.halfUp_mul_one (ha : F.OnGrid a) : F.OnGrid (Nearest.halfUp a F.one * F.one) := by
  by_cases hsmall : a ≤ 2 ^ F.precision * F.one
  · have hle : Nearest.halfUp a F.one ≤ 2 ^ F.precision :=
      Nearest.halfUp_le_of_le_mul F.one_pos hsmall
    rcases Nat.lt_or_eq_of_le hle with hlt | heq
    · exact onGrid_mul_one hlt
    · rw [heq, one_eq, ← pow_add]
      exact onGrid_two_pow _
  · have hlarge : 2 ^ (F.precision + F.scale) ≤ a := by
      rw [pow_add, ← one_eq]
      omega
    have hpos : 0 < a := (Nat.two_pow_pos _).trans_le hlarge
    have hspacing : F.scale ≤ F.spacing a := by
      have hlog := (Nat.le_log2 hpos.ne').2 hlarge
      unfold spacing
      omega
    have hwhole : F.one ∣ a := by
      rw [one_eq]
      exact (Nat.pow_dvd_pow 2 hspacing).trans ha
    obtain ⟨k, rfl⟩ := hwhole
    rwa [Nat.mul_comm F.one k, Nearest.halfUp_mul_self F.one_pos, Nat.mul_comm k F.one]

end Format

namespace Binary

variable {F G : Format} {x y : Binary F} {a b : ℕ}

/-! ## The order of numbers -/

def isNumber : Binary F → Bool
  | nan _ _ _ => false
  | _ => true

/-- Both are numbers, infinite ones included, and `x` is not above `y`. -/
structure Ordered (x y : Binary F) : Prop where
  left : x.isNumber = true
  right : y.isNumber = true
  not_less : y.less x = false

theorem ofQuanta_of_representable (h : F.Representable a) (s : Bool) :
    ofQuanta s a = finite s a h :=
  dif_pos h

theorem ofQuanta_of_limit_le (h : F.limit ≤ a) (s : Bool) :
    (ofQuanta s a : Binary F) = infinite s :=
  dif_neg fun hrep => absurd hrep.1 (Nat.not_lt_of_le h)

theorem ofQuanta_cases (s : Bool) (a : ℕ) :
    (ofQuanta s a : Binary F) = infinite s ∨ ∃ h, (ofQuanta s a : Binary F) = finite s a h := by
  by_cases h : F.Representable a
  · exact .inr ⟨h, ofQuanta_of_representable h s⟩
  · exact .inl (dif_neg h)

theorem isNumber_ofQuanta (s : Bool) (a : ℕ) : (ofQuanta s a : Binary F).isNumber = true := by
  rcases ofQuanta_cases (F := F) s a with heq | ⟨h, heq⟩ <;> rw [heq] <;> rfl

theorem not_less_lowest (x : Binary F) : x.less (infinite true) = false := by
  cases x with
  | nan s p hp => rfl
  | infinite s => cases s <;> rfl
  | finite s q hq => rfl

theorem highest_not_less (x : Binary F) : (infinite false).less x = false := by
  cases x with
  | nan s p hp => rfl
  | infinite s => rfl
  | finite s q hq => rfl

theorem signed_map_le {g : ℕ → ℕ} (hmono : Monotone g) (hzero : g 0 = 0) {s t : Bool}
    (h : signed s a ≤ signed t b) : signed s (g a) ≤ signed t (g b) := by
  cases s with
  | false =>
    cases t with
    | false => exact Int.ofNat_le.2 (hmono (Int.ofNat_le.1 h))
    | true =>
      -- Only the two zeros are in this order.
      simp only [signed, if_true, Bool.false_eq_true, if_false] at h
      obtain rfl : a = 0 := by omega
      obtain rfl : b = 0 := by omega
      rw [hzero]
      exact le_rfl
  | true =>
    cases t with
    | false =>
      simp only [signed, if_true, Bool.false_eq_true, if_false]
      omega
    | true =>
      simp only [signed, if_true] at h ⊢
      have hle : g b ≤ g a := hmono (by omega)
      omega

/-- Magnitudes that are too large are infinite, and so stay beyond all others. -/
theorem ordered_ofQuanta {s t : Bool} (ha : F.OnGrid a) (hb : F.OnGrid b)
    (h : signed s a ≤ signed t b) : Ordered (ofQuanta s a : Binary F) (ofQuanta t b) := by
  refine ⟨isNumber_ofQuanta s a, isNumber_ofQuanta t b, ?_⟩
  by_cases halimit : F.limit ≤ a
  · rw [ofQuanta_of_limit_le halimit]
    cases s with
    | true => exact not_less_lowest _
    | false =>
      have hblimit : t = false ∧ F.limit ≤ b := by
        cases t with
        | false => exact ⟨rfl, halimit.trans (Int.ofNat_le.1 h)⟩
        | true =>
          simp only [signed, if_true, Bool.false_eq_true, if_false] at h
          have hpos := F.limit_pos
          omega
      rw [ofQuanta_of_limit_le hblimit.2, hblimit.1]
      exact highest_not_less _
  · rw [ofQuanta_of_representable (representable_iff.2 ⟨Nat.lt_of_not_le halimit, ha⟩)]
    by_cases hblimit : F.limit ≤ b
    · rw [ofQuanta_of_limit_le hblimit]
      cases t with
      | false => exact highest_not_less _
      | true =>
        cases s with
        | false =>
          simp only [signed, if_true, Bool.false_eq_true, if_false] at h
          have hpos := F.limit_pos
          omega
        | true =>
          simp only [signed, if_true] at h
          omega
    · rw [ofQuanta_of_representable (representable_iff.2 ⟨Nat.lt_of_not_le hblimit, hb⟩)]
      exact decide_eq_false (not_lt.2 h)

/-! ## Operations on magnitudes -/

/-- The operation leaves infinities and signs as they are and takes magnitudes as `g` does, which
keeps their order. -/
structure ActsAs (f : Binary F → Binary G) (g : ℕ → ℕ) : Prop where
  infinite : ∀ s, f (.infinite s) = .infinite s
  finite : ∀ s a h, f (.finite s a h) = .ofQuanta s (g a)
  zero : g 0 = 0
  mono : Monotone g
  onGrid : ∀ a, F.OnGrid a → G.OnGrid (g a)

variable {f : Binary F → Binary G} {g : ℕ → ℕ}

theorem ActsAs.ordered (hf : ActsAs f g) (h : Ordered x y) : Ordered (f x) (f y) := by
  obtain ⟨hx, hy, hless⟩ := h
  cases x with
  | nan s p hp => cases hx
  | infinite s =>
    cases y with
    | nan t p hp => cases hy
    | infinite t =>
      rw [hf.infinite, hf.infinite]
      exact ⟨rfl, rfl, hless⟩
    | finite t b hb =>
      obtain rfl : s = true := by simpa [less] using hless
      rw [hf.infinite, hf.finite]
      exact ⟨rfl, isNumber_ofQuanta _ _, not_less_lowest _⟩
  | finite s a ha =>
    cases y with
    | nan t p hp => cases hy
    | infinite t =>
      obtain rfl : t = false := hless
      rw [hf.infinite, hf.finite]
      exact ⟨isNumber_ofQuanta _ _, rfl, highest_not_less _⟩
    | finite t b hb =>
      rw [hf.finite, hf.finite]
      have hle : signed s a ≤ signed t b := not_lt.1 (of_decide_eq_false hless)
      exact ordered_ofQuanta (hf.onGrid a (representable_iff.1 ha).2)
        (hf.onGrid b (representable_iff.1 hb).2) (signed_map_le hf.mono hf.zero hle)

theorem ActsAs.isNumber (hf : ActsAs f g) (hx : x.isNumber = true) : (f x).isNumber = true := by
  cases x with
  | nan s p hp => cases hx
  | infinite s => rw [hf.infinite]; rfl
  | finite s a ha => rw [hf.finite]; exact isNumber_ofQuanta _ _

theorem ActsAs.ofQuanta (hf : ActsAs f g) (s : Bool) (h : F.Representable a) :
    f (.ofQuanta s a) = .ofQuanta s (g a) := by
  rw [ofQuanta_of_representable h, hf.finite]

theorem actsAs_mul_ofNat {n : ℕ} (hpos : 0 < n) (hn : n < 2 ^ 53) :
    ActsAs (fun x : Double => x.mul (.ofNat n))
      fun a => binary64.round (a * (n * binary64.one)) binary64.one := by
  obtain ⟨hrep, hnat⟩ := ofNat_hasQuanta_of_lt hn
  have hone := binary64.one_pos
  have hne : n * binary64.one ≠ 0 := (Nat.mul_pos hpos hone).ne'
  refine ⟨fun s => ?_, fun s a ha => ?_, ?_, fun a b hab => ?_, fun a _ => ?_⟩
  · rw [hnat, mul, if_neg hne, Bool.xor_false]
  · rw [hnat, mul, Bool.xor_false]
    rfl
  · rw [Nat.zero_mul, round_zero _ hone]
  · exact round_mono hone hone (Nat.mul_le_mul_right _ (Nat.mul_le_mul_right _ hab))
  · exact round_onGrid _ _ hone

theorem actsAs_div_ofNat {n : ℕ} (hpos : 0 < n) (hn : n < 2 ^ 53) :
    ActsAs (fun x : Double => x.div (.ofNat n))
      fun a => binary64.round (a * binary64.one) (n * binary64.one) := by
  obtain ⟨hrep, hnat⟩ := ofNat_hasQuanta_of_lt hn
  have hdiv : 0 < n * binary64.one := Nat.mul_pos hpos binary64.one_pos
  refine ⟨fun s => ?_, fun s a ha => ?_, ?_, fun a b hab => ?_, fun a _ => ?_⟩
  · rw [hnat, div, Bool.xor_false]
  · rw [hnat, div, if_neg hdiv.ne', Bool.xor_false]
    rfl
  · rw [Nat.zero_mul, round_zero _ hdiv]
  · exact round_mono hdiv hdiv (Nat.mul_le_mul_right _ (Nat.mul_le_mul_right _ hab))
  · exact round_onGrid _ _ hdiv

theorem actsAs_roundToWhole :
    ActsAs (roundToWhole : Binary F → Binary F) fun a => Nearest.halfUp a F.one * F.one where
  infinite _ := rfl
  finite _ _ _ := rfl
  zero := by
    have hzero := Nearest.halfUp_mul_self (k := 0) F.one_pos
    rw [Nat.zero_mul] at hzero
    rw [hzero, Nat.zero_mul]
  mono _ _ hab := Nat.mul_le_mul_right _ (Nearest.halfUp_mono hab)
  onGrid _ ha := ha.halfUp_mul_one

theorem actsAs_convert :
    ActsAs (convert G : Binary F → Binary G) fun a => G.round (a * G.one) F.one where
  infinite _ := rfl
  finite _ _ _ := rfl
  zero := by rw [Nat.zero_mul, round_zero _ F.one_pos]
  mono _ _ hab := round_mono F.one_pos F.one_pos
    (Nat.mul_le_mul_right _ (Nat.mul_le_mul_right _ hab))
  onGrid _ _ := round_onGrid _ _ F.one_pos

end Binary

end HostStatus
