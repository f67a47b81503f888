import HostStatus.Proofs.Halfway

/-!
# Tenths in single precision

`tenthQuanta n` is `n` tenths, rounded once. For the tenths of a percentage two facts make up for
the rounding: they stay apart, and rounding them to double precision before changes nothing. The
second is no general law. It holds because a number halfway between two singles of this size is a
multiple of `2 ^ -28`, a tenth that is not such a multiple is at least a fifth of that away from it,
and double precision errs by far less.
-/

namespace HostStatus

open Format

def tenthQuanta (n : ℕ) : ℕ :=
  binary32.round (n * binary32.one) 10

theorem tenthQuanta_zero : tenthQuanta 0 = 0 := by
  rw [tenthQuanta, Nat.zero_mul, round_zero _ (by norm_num)]

theorem tenthQuanta_mono {m n : ℕ} (h : m ≤ n) : tenthQuanta m ≤ tenthQuanta n :=
  round_mono (by norm_num) (by norm_num) (by gcongr)

theorem tenthQuanta_error (n : ℕ) :
    |(tenthQuanta n : ℚ) - n * binary32.one / 10| ≤ n * binary32.one / 10 / 2 ^ 24 := by
  have hnormal : n * binary32.one = 0 ∨ 2 ^ (binary32.precision - 1) * 10 ≤ n * binary32.one := by
    rcases Nat.eq_zero_or_pos n with rfl | hn
    · exact .inl (Nat.zero_mul _)
    · right
      have hone : 2 ^ (binary32.precision - 1) * 10 ≤ binary32.one := by decide
      exact hone.trans (Nat.le_mul_of_pos_left _ hn)
  have herror := round_error (F := binary32) (by norm_num : 0 < 10) hnormal
  push_cast at herror
  exact herror

/-- Neighbouring tenths stay apart as long as a tenth is more than the errors of both. -/
theorem tenthQuanta_lt_succ {n : ℕ} (hn : n ≤ 1000000) : tenthQuanta n < tenthQuanta (n + 1) := by
  have hone := binary32.cast_one_pos
  have hn' : (n : ℚ) ≤ 1000000 := by exact_mod_cast hn
  have hlow := abs_le.1 (tenthQuanta_error n)
  have hhigh := abs_le.1 (tenthQuanta_error (n + 1))
  push_cast at hhigh
  have hbound : (n : ℚ) * binary32.one ≤ 1000000 * binary32.one := by gcongr
  have hlt : (tenthQuanta n : ℚ) < tenthQuanta (n + 1) := by
    linarith [hlow.2, hhigh.1]
  exact_mod_cast hlt

theorem tenthQuanta_injective {m n : ℕ} (hn : n ≤ 1000000) (h : tenthQuanta m = tenthQuanta n) :
    m = n := by
  rcases lt_trichotomy m n with hlt | heq | hgt
  · have hsucc := tenthQuanta_lt_succ (n := m) (by omega)
    have hmono := tenthQuanta_mono (show m + 1 ≤ n from hlt)
    omega
  · exact heq
  · have hsucc := tenthQuanta_lt_succ hn
    have hmono := tenthQuanta_mono (show n + 1 ≤ m from hgt)
    omega

/-- Singles between a sixteenth and a hundred are multiples of `2 ^ -27`. -/
theorem exists_eq_mul_of_sixteenth_le {q : ℕ} (hq : binary32.OnGrid q) (hlow : 2 ^ 145 ≤ q)
    (hhigh : q ≤ 100 * binary32.one) : ∃ k, k ≤ 100 * 2 ^ 27 ∧ q = 2 ^ 122 * k := by
  have hspacing : binary32.spacing (2 ^ 145) = 122 := by decide +kernel
  have hdvd := hq.dvd_of_le hlow
  rw [hspacing] at hdvd
  obtain ⟨k, rfl⟩ := hdvd
  refine ⟨k, ?_, rfl⟩
  rw [binary32_one] at hhigh
  omega

theorem sixteenth_le_tenthQuanta {n : ℕ} (hn : 0 < n) : 2 ^ 145 ≤ tenthQuanta n := by
  apply le_round (by norm_num) (onGrid_two_pow 145)
  have hone : 2 ^ 145 * 10 ≤ binary32.one := by
    rw [binary32_one]
    norm_num
  exact hone.trans (Nat.le_mul_of_pos_left _ hn)

theorem tenthQuanta_le_hundred {n : ℕ} (hn : n ≤ 1000) : tenthQuanta n ≤ 100 * binary32.one := by
  apply round_le (by norm_num) (onGrid_mul_two_pow (by decide) _)
  rw [← one_eq]
  nlinarith [binary32.one_pos]

theorem tenthQuanta_lt_limit {n : ℕ} (hn : n ≤ 1000) : tenthQuanta n < binary32.limit := by
  have hlimit : 100 * binary32.one < binary32.limit := by decide +kernel
  exact (tenthQuanta_le_hundred hn).trans_lt hlimit

/-- With few digits behind the point, `m / (2 * d)` is no nearer to `n` tenths than double precision
comes unless it is `n` tenths. -/
theorem five_mul_eq_of_error {m n d : ℕ} {u : ℚ} (hu : 0 < u) (hnd : n * d < 2 ^ 53)
    (h : |m * u - n * (2 * d * u) / 10| ≤ n * (2 * d * u) / 10 / 2 ^ 53) : 5 * m = n * d := by
  have hndQ : (n * d : ℚ) < 2 ^ 53 := by exact_mod_cast hnd
  have hfactor : m * u - n * (2 * d * u) / 10 = (5 * m - n * d) * (u / 5) := by ring
  rw [hfactor, abs_mul, abs_of_pos (by positivity : 0 < u / 5)] at h
  have hbound : n * (2 * d * u) / 10 / 2 ^ 53 < 1 * (u / 5) := by
    rw [div_lt_iff₀ (by positivity)]
    calc n * (2 * d * u) / 10 = n * d * (u / 5) := by ring
      _ < 2 ^ 53 * (u / 5) := mul_lt_mul_of_pos_right hndQ (by positivity)
      _ = 1 * (u / 5) * 2 ^ 53 := by ring
  have hsmall : |(5 * m - n * d : ℚ)| < 1 :=
    lt_of_mul_lt_mul_right (h.trans_lt hbound) (by positivity)
  exact eq_of_abs_sub_lt_one (by exact_mod_cast hsmall)

theorem exists_binary64_one : ∃ e, 2 ^ 28 ≤ 2 ^ e ∧ binary64.one = 2 ^ 28 * 2 ^ e :=
  ⟨1046, by decide +kernel, by decide +kernel⟩

section Double

variable {n r m e : ℕ} (he : binary64.one = 2 ^ 28 * 2 ^ e)

include he

theorem round_tenth_bounds (hpos : 0 < n) (hn : n ≤ 1000) :
    2 ^ 24 * 2 ^ e ≤ binary64.round (n * binary64.one) 10 ∧
      binary64.round (n * binary64.one) 10 ≤ 100 * 2 ^ 28 * 2 ^ e := by
  constructor
  · apply le_round (by norm_num) (onGrid_mul_two_pow (by decide) e)
    rw [he]
    nlinarith
  · apply round_le (by norm_num) (onGrid_mul_two_pow (by decide) e)
    rw [he]
    nlinarith

/-- What is between a sixteenth and a hundred stays there when it is narrowed. -/
theorem narrow_bounds (hlow : 2 ^ 24 * 2 ^ e ≤ r) (hhigh : r ≤ 100 * 2 ^ 28 * 2 ^ e) :
    2 ^ 145 ≤ binary32.round (r * binary32.one) binary64.one ∧
      binary32.round (r * binary32.one) binary64.one ≤ 100 * binary32.one := by
  constructor
  · apply le_round binary64.one_pos (onGrid_two_pow 145)
    rw [he, binary32_one]
    nlinarith
  · apply round_le binary64.one_pos (onGrid_mul_two_pow (by decide) _)
    rw [← one_eq, he]
    nlinarith

/-- Double precision is too exact to round tenths to a multiple of `2 ^ -28` that they are not. -/
theorem five_mul_eq_of_round_tenth (he28 : 2 ^ 28 ≤ 2 ^ e) (hpos : 0 < n) (hn : n ≤ 1000)
    (h : binary64.round (n * binary64.one) 10 = m * 2 ^ e) : 5 * m = n * 2 ^ 27 := by
  have hnormal : 2 ^ 52 * 10 ≤ n * binary64.one := by
    rw [he]
    nlinarith
  have hvalue : ((n * binary64.one : ℕ) : ℚ) = n * (2 * (2 ^ 27 : ℕ) * 2 ^ e) := by
    rw [he]
    push_cast
    ring
  have hrounded : (binary64.round (n * binary64.one) 10 : ℚ) = m * 2 ^ e := by
    rw [h]
    push_cast
    ring
  have herror := round_error (F := binary64) (by norm_num : 0 < 10) (.inr hnormal)
  rw [hrounded, hvalue, Nat.cast_ofNat] at herror
  have hfew : n * 2 ^ 27 < 2 ^ 53 := (Nat.mul_le_mul_right _ hn).trans_lt (by norm_num)
  exact five_mul_eq_of_error (by positivity) hfew herror

end Double

/-- Tenths up to a hundred may be rounded to double precision first. -/
theorem round_round_tenth {n : ℕ} (hn : n ≤ 1000) :
    binary32.round (binary64.round (n * binary64.one) 10 * binary32.one) binary64.one =
      tenthQuanta n := by
  rcases Nat.eq_zero_or_pos n with rfl | hpos
  · rw [Nat.zero_mul, round_zero _ (by norm_num), Nat.zero_mul, round_zero _ binary64.one_pos,
      tenthQuanta_zero]
  obtain ⟨e, he28, he⟩ := exists_binary64_one
  obtain ⟨r, hr⟩ : ∃ r, r = binary64.round (n * binary64.one) 10 := ⟨_, rfl⟩
  obtain ⟨hrlow, hrhigh⟩ := round_tenth_bounds he hpos hn
  rw [← hr] at hrlow hrhigh ⊢
  obtain ⟨hlow, hhigh⟩ := narrow_bounds he hrlow hrhigh
  by_contra! hne
  -- Both results are multiples of `2 ^ 122` quanta, so twice the number halfway is one, too.
  obtain ⟨k, hkfew, hk⟩ := exists_eq_mul_of_sixteenth_le
    (binary32.round_onGrid (n * binary32.one) (by norm_num : 0 < 10))
    (sixteenth_le_tenthQuanta hpos) (tenthQuanta_le_hundred hn)
  obtain ⟨l, hlfew, hl⟩ := exists_eq_mul_of_sixteenth_le
    (binary32.round_onGrid (r * binary32.one) binary64.one_pos) hlow hhigh
  have hmid : r = (k + l) * 2 ^ e := by
    have hfew : k + l < 2 ^ 53 := by omega
    apply eq_midpoint_of_round_ne (by norm_num) hr (onGrid_mul_two_pow hfew e) _ hne.symm
    rw [hk, hl, he, binary32_one]
    ring
  have hexact := five_mul_eq_of_round_tenth he he28 hpos hn (hr.symm.trans hmid)
  apply hne
  apply round_congr binary64.one_pos (by norm_num)
  rw [hmid, he]
  calc (k + l) * 2 ^ e * binary32.one * 10 = 5 * (k + l) * (2 * 2 ^ e * binary32.one) := by ring
    _ = n * 2 ^ 27 * (2 * 2 ^ e * binary32.one) := by rw [hexact]
    _ = n * binary32.one * (2 ^ 28 * 2 ^ e) := by ring

/-- A whole number that is divided by ten in double precision and narrowed is the nearest single. -/
theorem tenth_hasQuanta {x : Double} {n : ℕ} (hn : n ≤ 1000)
    (hx : x.HasQuanta (n * binary64.one)) :
    ((x.div (.ofNat 10)).convert .binary32).HasQuanta (tenthQuanta n) := by
  have hone := binary64.one_pos
  have hten := Binary.ofNat_hasQuanta_of_lt (show 10 < 2 ^ 53 by norm_num)
  have hround : binary64.round (n * binary64.one * binary64.one) (10 * binary64.one) =
      binary64.round (n * binary64.one) 10 :=
    round_congr (by omega) (by norm_num) (by ring)
  have hle : binary64.round (n * binary64.one) 10 ≤ 100 * binary64.one := by
    apply round_le (by norm_num) (onGrid_mul_one (by decide))
    nlinarith
  have hdiv := hx.div hten (by omega)
    (by rw [hround]; exact lt_limit_of_le_mul_one (by norm_num) hle)
  rw [hround] at hdiv
  have hconvert := hdiv.convert (G := binary32)
    (by rw [round_round_tenth hn]; exact tenthQuanta_lt_limit hn)
  rw [round_round_tenth hn] at hconvert
  exact hconvert

theorem tenthQuanta_isNearest {x : Single} {n : ℕ} (hx : x.HasQuanta (tenthQuanta n)) :
    x.IsNearest (n / 10) := by
  have hone := binary32.cast_one_pos
  have hnearest := Binary.HasQuanta.isNearest (by norm_num) hx
  have hexact : ((n * binary32.one : ℕ) : ℚ) / (10 : ℕ) / binary32.one = n / 10 := by
    push_cast
    field_simp
  rwa [hexact] at hnearest

theorem tenthQuanta_five_mul {k : ℕ} (hk : k < 2 ^ 24) : tenthQuanta (5 * k) = k * 2 ^ 148 := by
  have hhalf : 5 * k * binary32.one = k * 2 ^ 148 * 10 := by
    rw [binary32_one]
    ring
  rw [tenthQuanta, hhalf]
  exact round_mul_self (by norm_num) (onGrid_mul_two_pow hk 148)

/-- Five tenths need no rounding. -/
theorem tenthQuanta_exact {n : ℕ} (hn : n ≤ 1000) (h : 5 ∣ n) :
    (tenthQuanta n : ℚ) / binary32.one = n / 10 := by
  obtain ⟨k, rfl⟩ := h
  rw [tenthQuanta_five_mul (by omega), binary32_one]
  push_cast
  field_simp
  ring

/-- No other tenth is halfway between two numbers of quanta. -/
theorem five_dvd_of_halfway {n : ℕ} {a b : ℤ} (h : 5 * ((a : ℚ) + b) = n * binary32.one) :
    5 ∣ n := by
  rw [binary32_one] at h
  have hint : 5 * (a + b) = (n * 2 ^ 149 : ℕ) := by exact_mod_cast h
  have hdvd : 5 ∣ n * 2 ^ 149 := Int.natCast_dvd_natCast.1 ⟨a + b, hint.symm⟩
  have hcoprime : Nat.Coprime 5 (2 ^ 149) := Nat.Coprime.pow_right 149 (by decide)
  exact hcoprime.dvd_of_dvd_mul_right hdvd

/-- The single nearest to some tenths is no other but for the sign of zero. -/
theorem hasMagnitude_of_isNearest {x : Single} {n : ℕ} (hn : n ≤ 1000) (hx : x.IsNearest (n / 10)) :
    x.HasMagnitude (tenthQuanta n) := by
  have hrep : binary32.Representable (tenthQuanta n) := representable_iff.2
    ⟨tenthQuanta_lt_limit hn, round_onGrid _ _ (by norm_num)⟩
  have ht : Binary.HasQuanta (.finite false (tenthQuanta n) hrep) (tenthQuanta n) := ⟨hrep, rfl⟩
  apply Binary.hasMagnitude_of_value_eq hx.finite
  have hdistance := le_antisymm (hx.nearest _ ht.isFinite)
    ((tenthQuanta_isNearest ht).nearest _ hx.finite)
  rw [ht.value_eq] at hdistance
  rcases abs_eq_abs.1 hdistance with heq | heq
  · exact sub_left_inj.1 heq
  · -- Two different ones would be on both sides of the tenths, which then are exact themselves.
    have hfive : 5 ∣ n := by
      have hone := binary32.cast_one_pos
      cases x with
      | nan s p hp => cases hx.finite
      | infinite s => cases hx.finite
      | finite s q hq =>
        apply five_dvd_of_halfway (a := Binary.signed s q) (b := tenthQuanta n)
        rw [Binary.value] at heq
        field_simp at heq
        push_cast
        linarith
    have hexact := tenthQuanta_exact hn hfive
    rw [hexact, sub_self, abs_zero, abs_eq_zero, sub_eq_zero] at hdistance
    rw [hdistance, hexact]

end HostStatus
