import HostStatus.Proofs.RelativeError
import HostStatus.Proofs.Tenth
import HostStatus.Usage

/-!
# The accuracy of percentages

A percentage goes through two conversions, a quotient, two products, a rounding to a whole number,
another quotient and a narrowing. `Reaches` adds to the count of relative errors the bounds that
keep each intermediate result finite, below its exact maximum and away from the smallest numbers.
The whole number of tenths is then off by at most a half and what the errors add, and the last two
roundings give the single nearest to it.
-/

namespace HostStatus

open Format

namespace Close

variable {x v : ℚ}

/-- Six errors on a number of tenths of a percent. -/
theorem abs_sub_le (h : Close 6 x v) (hv : v ≤ 1000) : |x - v| ≤ 1 / 10 ^ 12 := by
  have hup : v * ((1 + 1 / 2 ^ 53) ^ 6 - 1) ≤ 1000 * ((1 + 1 / 2 ^ 53) ^ 6 - 1) :=
    mul_le_mul_of_nonneg_right hv (by norm_num)
  have hdown : v * (1 - (1 - 1 / 2 ^ 53) ^ 6) ≤ 1000 * (1 - (1 - 1 / 2 ^ 53) ^ 6) :=
    mul_le_mul_of_nonneg_right hv (by norm_num)
  have hup' : (1000 : ℚ) * ((1 + 1 / 2 ^ 53) ^ 6 - 1) ≤ 1 / 10 ^ 12 := by norm_num
  have hdown' : (1000 : ℚ) * (1 - (1 - 1 / 2 ^ 53) ^ 6) ≤ 1 / 10 ^ 12 := by norm_num
  rw [abs_le]
  exact ⟨by linarith [h.1], by linarith [h.2]⟩

end Close

namespace Nearest

theorem halfUp_le_of_le_mul {k num den : ℕ} (hden : 0 < den) (h : num ≤ k * den) :
    halfUp num den ≤ k := by
  apply Nat.le_of_lt_succ
  rw [halfUp, Nat.div_lt_iff_lt_mul (by omega)]
  nlinarith

theorem halfUp_mono {num num' den : ℕ} (h : num ≤ num') : halfUp num den ≤ halfUp num' den :=
  Nat.div_le_div_right (by omega)

theorem halfUp_error (num : ℕ) {den : ℕ} (hden : 0 < den) :
    |(halfUp num den : ℚ) - num / den| ≤ 1 / 2 := by
  have hpos : (0 : ℚ) < den := by exact_mod_cast hden
  have hdiv := Nat.div_add_mod (2 * num + den) (2 * den)
  have hmod := Nat.mod_lt (2 * num + den) (show 0 < 2 * den by omega)
  have hupper : (2 * den * halfUp num den : ℚ) ≤ 2 * num + den := by
    have : 2 * den * halfUp num den ≤ 2 * num + den := by rw [halfUp]; omega
    exact_mod_cast this
  have hlower : (2 * num + den : ℚ) ≤ 2 * den * halfUp num den + 2 * den := by
    have : 2 * num + den ≤ 2 * den * halfUp num den + 2 * den := by rw [halfUp]; omega
    exact_mod_cast this
  have hdiff : (halfUp num den : ℚ) - num / den = (halfUp num den * den - num) / den := by
    field_simp
  rw [hdiff, abs_le, le_div_iff₀ hpos, div_le_iff₀ hpos]
  exact ⟨by linarith, by linarith⟩

end Nearest

theorem round_eq_zero_or_le {num den : ℕ} (hden : 0 < den) (h : num = 0 ∨ 2 ^ 52 * den ≤ num) :
    binary64.round num den = 0 ∨ 2 ^ 52 ≤ binary64.round num den := by
  rcases h with rfl | h
  · exact .inl (round_zero _ hden)
  · exact .inr (le_round hden (onGrid_two_pow 52) h)

/-- A double near `v` that is at most `m`, and zero or at least a full significand of quanta. -/
def Reaches (x : Double) (v : ℚ) (m k : ℕ) : Prop :=
  ∃ q, x.HasQuanta q ∧ q ≤ m * binary64.one ∧ (q = 0 ∨ 2 ^ 52 ≤ q) ∧ Close k x.value v

theorem Reaches.mul_ofNat {x : Double} {v : ℚ} {m k : ℕ} (h : Reaches x v m k) {n : ℕ} (hn : 0 < n)
    (hmn : m * n < 2 ^ 53) (hn' : n < 2 ^ 53) :
    Reaches (x.mul (.ofNat n)) (v * n) (m * n) (k + 1) := by
  obtain ⟨q, hx, hq, hfull, hclose⟩ := h
  have hone := binary64.one_pos
  have hnat := Binary.ofNat_hasQuanta_of_lt hn'
  have hle : binary64.round (q * (n * binary64.one)) binary64.one ≤ m * n * binary64.one := by
    apply round_le hone (onGrid_mul_one hmn)
    calc q * (n * binary64.one) ≤ m * binary64.one * (n * binary64.one) :=
          Nat.mul_le_mul_right _ hq
      _ = m * n * binary64.one * binary64.one := by ring
  have hmul := hx.mul hnat (lt_limit_of_le_mul_one (by omega) hle)
  have hnormal : q * (n * binary64.one) = 0 ∨
      2 ^ 52 * binary64.one ≤ q * (n * binary64.one) := by
    rcases hfull with rfl | hfull
    · exact .inl (Nat.zero_mul _)
    · exact .inr (Nat.mul_le_mul hfull (Nat.le_mul_of_pos_left _ hn))
  refine ⟨_, hmul, hle, round_eq_zero_or_le hone hnormal, ?_⟩
  have honeQ := binary64.cast_one_pos
  have herror := value_error hone hmul hnormal
  have hexact : ((q * (n * binary64.one) : ℕ) : ℚ) / binary64.one / binary64.one = x.value * n := by
    rw [hx.value_eq]
    push_cast
    field_simp
  rw [hexact] at herror
  exact (hclose.mul (Nat.cast_nonneg n)).succ herror

theorem one_le_round_ofNat {n : ℕ} (hn : 0 < n) :
    binary64.one ≤ binary64.round (n * binary64.one) 1 := by
  apply le_round Nat.one_pos binary64.onGrid_one
  rw [Nat.mul_one]
  exact Nat.le_mul_of_pos_left _ hn

/-- A quotient of rounded counts, the first of them zero or at least one. -/
theorem reaches_div {x y : Double} {a b k : ℕ} {v : ℚ} (hx : x.HasQuanta a) (hy : y.HasQuanta b)
    (hab : a ≤ b) (ha : a = 0 ∨ binary64.one ≤ a) (hpos : 0 < b) (hb : b ≤ 2 ^ 64 * binary64.one)
    (hclose : Close k (x.value / y.value) v) : Reaches (x.div y) v 1 (k + 1) := by
  have hle : binary64.round (a * binary64.one) b ≤ 1 * binary64.one := by
    apply round_le hpos (onGrid_mul_one (by decide))
    rw [Nat.one_mul, Nat.mul_comm]
    exact Nat.mul_le_mul_left _ hab
  have hquotient := hx.div hy hpos (lt_limit_of_le_mul_one (by norm_num) hle)
  have hnormal : a * binary64.one = 0 ∨ 2 ^ 52 * b ≤ a * binary64.one := by
    rcases ha with rfl | ha
    · exact .inl (Nat.zero_mul _)
    · right
      have hroom : 2 ^ 52 * 2 ^ 64 ≤ binary64.one := by decide +kernel
      calc 2 ^ 52 * b ≤ 2 ^ 52 * (2 ^ 64 * binary64.one) := Nat.mul_le_mul_left _ hb
        _ = 2 ^ 52 * 2 ^ 64 * binary64.one := by ring
        _ ≤ a * binary64.one := Nat.mul_le_mul_right _ (hroom.trans ha)
  refine ⟨_, hquotient, hle, round_eq_zero_or_le hpos hnormal, ?_⟩
  have herror := value_error hpos hquotient hnormal
  have hone := binary64.cast_one_pos
  have hbQ : (0 : ℚ) < b := by exact_mod_cast hpos
  have hexact : ((a * binary64.one : ℕ) : ℚ) / b / binary64.one = x.value / y.value := by
    rw [hx.value_eq, hy.value_eq]
    push_cast
    field_simp
  rw [hexact] at herror
  exact hclose.succ herror

/-- The quotient of a part and its whole. -/
theorem reaches_quotient {part whole : ℕ} (h : part ≤ whole) (hpos : 0 < whole)
    (hwhole : whole < 2 ^ 64) :
    Reaches ((Binary.ofNat part : Double).div (.ofNat whole)) (part / whole) 1 4 := by
  have hpart := h.trans_lt hwhole
  have hab : binary64.round (part * binary64.one) 1 ≤ binary64.round (whole * binary64.one) 1 :=
    round_mono Nat.one_pos Nat.one_pos (by gcongr)
  have ha : binary64.round (part * binary64.one) 1 = 0 ∨
      binary64.one ≤ binary64.round (part * binary64.one) 1 := by
    rcases Nat.eq_zero_or_pos part with rfl | hpart
    · left
      rw [Nat.zero_mul, round_zero _ Nat.one_pos]
    · exact .inr (one_le_round_ofNat hpart)
  have hclose := (ofNat_close (Binary.ofNat_hasQuanta_of_lt_two_pow hpart)).div
    (ofNat_close (Binary.ofNat_hasQuanta_of_lt_two_pow hwhole)) (Nat.cast_nonneg part)
    (by exact_mod_cast hpos)
  exact reaches_div (Binary.ofNat_hasQuanta_of_lt_two_pow hpart)
    (Binary.ofNat_hasQuanta_of_lt_two_pow hwhole) hab ha
    (binary64.one_pos.trans_le (one_le_round_ofNat hpos)) (Binary.round_ofNat_le hwhole) hclose

theorem reaches_percent {part whole : ℕ} (h : part ≤ whole) (hpos : 0 < whole)
    (hwhole : whole < 2 ^ 64) :
    Reaches (((Binary.ofNat part : Double).div (.ofNat whole)).mul (.ofNat 100))
      (part / whole * (100 : ℕ)) 100 5 :=
  (reaches_quotient h hpos hwhole).mul_ofNat (by norm_num) (by norm_num) (by norm_num)

/-- The number that is rounded to a whole number of tenths of a percent. -/
theorem reaches_tenths {part whole : ℕ} (h : part ≤ whole) (hpos : 0 < whole)
    (hwhole : whole < 2 ^ 64) :
    Reaches ((((Binary.ofNat part : Double).div (.ofNat whole)).mul (.ofNat 100)).mul (.ofNat 10))
      (part / whole * (100 : ℕ) * (10 : ℕ)) 1000 6 :=
  (reaches_percent h hpos hwhole).mul_ofNat (by norm_num) (by norm_num) (by norm_num)

/-- A whole number of tenths is divided and narrowed to the nearest single. -/
theorem roundTenth_hasQuanta {x : Double} {q : ℕ} (hx : (x.mul (.ofNat 10)).HasQuanta q)
    (hq : q ≤ 1000 * binary64.one) :
    (roundTenth x).HasQuanta (tenthQuanta (Nearest.halfUp q binary64.one)) := by
  have hn : Nearest.halfUp q binary64.one ≤ 1000 :=
    Nearest.halfUp_le_of_le_mul binary64.one_pos hq
  have hwhole := hx.roundToWhole (representable_iff.2
    ⟨lt_limit_of_le_mul_one (by norm_num) (Nat.mul_le_mul_right _ hn),
      onGrid_mul_one (hn.trans_lt (by decide))⟩)
  exact tenth_hasQuanta hn hwhole

/-- `x` is the single nearest to some tenths of a percent, none to a thousand of them, as many as
`part` is of `whole` up to rounding to one decimal, and carries no minus sign. -/
def IsPercentage (x : Single) (part whole : ℕ) : Prop :=
  (∃ n : ℕ, n ≤ 1000 ∧ |(n : ℚ) - 1000 * part / whole| ≤ 1 / 2 + 1 / 10 ^ 12 ∧
    x.IsNearest (n / 10)) ∧ x.isNegative = false ∧ 0 ≤ x.value ∧ x.value ≤ 100

theorem percentage_hasQuanta {part whole : ℕ} (h : part ≤ whole) (hpos : 0 < whole)
    (hwhole : whole < 2 ^ 64) :
    ∃ n : ℕ, n ≤ 1000 ∧ (percentage part whole).HasQuanta (tenthQuanta n) ∧
      |(n : ℚ) - 1000 * part / whole| ≤ 1 / 2 + 1 / 10 ^ 12 := by
  have hwholeQ : (0 : ℚ) < whole := by exact_mod_cast hpos
  have hpartQ : (part : ℚ) ≤ whole := by exact_mod_cast h
  obtain ⟨q, hx, hq, _, hclose⟩ := reaches_tenths h hpos hwhole
  refine ⟨Nearest.halfUp q binary64.one, Nearest.halfUp_le_of_le_mul binary64.one_pos hq,
    roundTenth_hasQuanta hx hq, ?_⟩
  have hhalf := Nearest.halfUp_error q binary64.one_pos
  rw [← hx.value_eq] at hhalf
  have hexact : (part : ℚ) / whole * (100 : ℕ) * (10 : ℕ) = 1000 * part / whole := by
    push_cast
    ring
  rw [hexact] at hclose
  have htop : (1000 : ℚ) * part / whole ≤ 1000 := by
    rw [div_le_iff₀ hwholeQ]
    linarith
  have herror := hclose.abs_sub_le htop
  exact (abs_sub_le _ _ _).trans (add_le_add hhalf herror)

theorem percentage_isPercentage {part whole : ℕ} (h : part ≤ whole) (hpos : 0 < whole)
    (hwhole : whole < 2 ^ 64) : IsPercentage (percentage part whole) part whole := by
  have hone := binary32.cast_one_pos
  obtain ⟨n, hn, hx, herror⟩ := percentage_hasQuanta h hpos hwhole
  refine ⟨⟨n, hn, herror, tenthQuanta_isNearest hx⟩, hx.isNegative, ?_, ?_⟩
  · rw [hx.value_eq]
    positivity
  · rw [hx.value_eq, div_le_iff₀ hone]
    exact_mod_cast tenthQuanta_le_hundred hn

/-- No sum of blocks and no number of bytes needs more than 64 bits. -/
def Volume.Fits (v : Volume) : Prop :=
  v.blocks - min v.free v.blocks + v.available < 2 ^ 64 ∧ v.blocks * v.fragmentSize < 2 ^ 64

theorem Usage.ofAvailable?_of_pos {total : ℕ} (available : ℕ) (h : 0 < total) :
    ofAvailable? total available =
      some ⟨total, total - available, percentage (total - available) total⟩ :=
  if_neg h.ne'

theorem Usage.ofVolume?_of_pos {v : Volume} (h : 0 < v.blocks) :
    ofVolume? v = some ⟨v.blocks * v.fragmentSize, v.usedBlocks * v.fragmentSize,
      if v.reachableBlocks = 0 then .ofNat 0 else percentage v.usedBlocks v.reachableBlocks⟩ :=
  if_neg h.ne'

/-- Both ways to a usage give the nearest single to the right tenth of a percent, never more than a
hundred. -/
theorem usage_percent_isPercentage :
    (∀ total available : ℕ, 0 < total → total < 2 ^ 64 →
      ∃ u, Usage.ofAvailable? total available = some u ∧
        IsPercentage u.percent (total - min available total) total) ∧
    ∀ v : Volume, 0 < v.blocks → v.Fits →
      ∃ u, Usage.ofVolume? v = some u ∧
        (0 < v.blocks - min v.free v.blocks + v.available →
          IsPercentage u.percent (v.blocks - min v.free v.blocks)
            (v.blocks - min v.free v.blocks + v.available)) ∧
        (v.blocks - min v.free v.blocks + v.available = 0 → u.percent.toBits = 0) := by
  have hsub (a b : ℕ) : a - min b a = a - b := by omega
  constructor
  · intro total available hpos htotal
    refine ⟨_, Usage.ofAvailable?_of_pos available hpos, ?_⟩
    dsimp only
    rw [hsub total available]
    exact percentage_isPercentage (Nat.sub_le _ _) hpos htotal
  · intro v hblocks hfits
    have hused : v.blocks - min v.free v.blocks = v.usedBlocks := hsub _ _
    have hreachable : v.usedBlocks + v.available = v.reachableBlocks := rfl
    rw [Volume.Fits, hused, hreachable] at hfits
    rw [hused, hreachable]
    refine ⟨_, Usage.ofVolume?_of_pos hblocks, fun hreach => ?_, fun hreach => ?_⟩
    · dsimp only
      rw [if_neg hreach.ne']
      exact percentage_isPercentage (Nat.le_add_right _ _) hreach hfits.1
    · dsimp only
      rw [if_pos hreach]
      decide +kernel

/-- Two bytes used of three, and a volume of which 500 of the 1050 blocks within reach are left. -/
theorem usage_percent_isPercentage_of_partly_used :
    (0 < 3 ∧ 3 < 2 ^ 64 ∧ ∃ u, Usage.ofAvailable? 3 1 = some u ∧ IsPercentage u.percent 2 3) ∧
    (0 < (⟨4096, 1150, 600, 500⟩ : Volume).blocks ∧ (⟨4096, 1150, 600, 500⟩ : Volume).Fits ∧
      ∃ u, Usage.ofVolume? ⟨4096, 1150, 600, 500⟩ = some u ∧ IsPercentage u.percent 550 1050) := by
  refine ⟨⟨by norm_num, by norm_num,
    usage_percent_isPercentage.1 3 1 (by norm_num) (by norm_num)⟩, ?_⟩
  have hfits : (⟨4096, 1150, 600, 500⟩ : Volume).Fits := ⟨by norm_num, by norm_num⟩
  obtain ⟨u, hu, hpercent, _⟩ :=
    usage_percent_isPercentage.2 ⟨4096, 1150, 600, 500⟩ (by norm_num) hfits
  exact ⟨by norm_num, hfits, u, hu, hpercent (by norm_num)⟩

end HostStatus
