import HostStatus.Collect.Host
import HostStatus.Proofs.KeptOrder

/-!
# The mean load

Loads are added up in single precision, with a rounding at each step, and the sum is divided with
another. A rounding does not pass a number of the format, and so it does not pass the whole number
that bounds the exact sum: a mean of percentages is a percentage again, and so is what is published
of it.
-/

namespace HostStatus

open Format

attribute [local irreducible] Format.one Format.limit

namespace Format

/-- Whole numbers with few digits bound what is rounded. -/
theorem round_le_mul_one {m num den : ℕ} (hden : 0 < den) (hm : m < 2 ^ 24)
    (h : num ≤ m * binary32.one * den) : binary32.round num den ≤ m * binary32.one :=
  round_le hden (onGrid_mul_one hm) h

theorem mul_one_lt_limit {m q : ℕ} (hm : m < 2 ^ 24) (h : q ≤ m * binary32.one) :
    q < binary32.limit := by
  have hlimit : 2 ^ 24 * binary32.one < binary32.limit := by decide +kernel
  exact (h.trans (Nat.mul_le_mul_right _ hm.le)).trans_lt hlimit

end Format

namespace Binary

variable {F : Format} {x y : Binary F} {a b c : ℕ}

theorem add_hasQuanta {s t : Bool} (ha : F.Representable a) (hb : F.Representable b)
    (hsign : (s && t) = false) (hsum : signed s a + signed t b = c) (h : F.round c 1 < F.limit) :
    ((finite s a ha).add (finite t b hb)).HasQuanta (F.round c 1) := by
  rw [Binary.add, hsum, hsign, Int.natAbs_natCast]
  split_ifs with hzero
  · obtain rfl : c = 0 := by exact_mod_cast hzero
    have hnone : F.Representable 0 := representable_iff.2 ⟨F.limit_pos, F.onGrid_zero⟩
    rw [F.round_zero Nat.one_pos]
    exact ⟨hnone, dif_pos hnone⟩
  · have hpos : decide ((c : ℤ) < 0) = false := decide_eq_false (by omega)
    rw [hpos]
    exact ofQuotient_hasQuanta Nat.one_pos h

theorem HasQuanta.add (hx : x.HasQuanta a) (hy : y.HasQuanta b)
    (h : F.round (a + b) 1 < F.limit) : (x.add y).HasQuanta (F.round (a + b) 1) := by
  obtain ⟨ha, rfl⟩ := hx
  obtain ⟨hb, rfl⟩ := hy
  exact add_hasQuanta ha hb rfl (by simp [signed]) h

/-- Minus zero, where a sum begins, changes nothing. -/
theorem HasQuanta.minus_zero_add (hy : y.HasQuanta b) :
    ((ofQuanta true 0 : Binary F).add y).HasQuanta b := by
  have hlimit := hy.lt_limit
  have hround : F.round b 1 = b := round_self hy.onGrid
  obtain ⟨hb, rfl⟩ := hy
  have hnone : F.Representable 0 := representable_iff.2 ⟨F.limit_pos, F.onGrid_zero⟩
  have hsum : ((finite true 0 hnone).add (finite false b hb)).HasQuanta (F.round b 1) :=
    add_hasQuanta hnone hb rfl (by simp [signed]) (by rwa [hround])
  rw [ofQuanta_of_representable hnone]
  rwa [hround] at hsum

end Binary

namespace Host

/-- A load in percent: no less than zero, and no more than a hundred. -/
def IsLoad (x : Single) : Prop :=
  ∃ a, x.HasQuanta a ∧ a ≤ 100 * binary32.one

/-- What is added up so far is at most `m`, and each of the numbers to come adds at most 100. -/
theorem foldl_add_le {loads : List Single} (hloads : ∀ x ∈ loads, IsLoad x) {sum : Single}
    {a m : ℕ} (hsum : sum.HasQuanta a) (ha : a ≤ m * binary32.one)
    (hm : m + 100 * loads.length < 2 ^ 24) :
    ∃ q, (loads.foldl Binary.add sum).HasQuanta q ∧
      q ≤ (m + 100 * loads.length) * binary32.one := by
  induction loads generalizing sum a m with
  | nil => exact ⟨a, hsum, ha⟩
  | cons x loads ih =>
    rw [List.forall_mem_cons] at hloads
    obtain ⟨⟨b, hx, hb⟩, hrest⟩ := hloads
    rw [List.length_cons] at hm ⊢
    have hbound : binary32.round (a + b) 1 ≤ (m + 100) * binary32.one := by
      apply round_le_mul_one Nat.one_pos (by omega)
      rw [Nat.mul_one, Nat.add_mul]
      exact Nat.add_le_add ha hb
    have hnext := hsum.add hx (mul_one_lt_limit (by omega) hbound)
    obtain ⟨q, hq, hle⟩ := ih hrest hnext hbound (by omega)
    refine ⟨q, hq, hle.trans (Nat.mul_le_mul_right _ (by omega))⟩

/-- A mean of loads is a load. -/
theorem isLoad_meanLoad {loads : List Single} (hsome : loads ≠ [])
    (hcount : loads.length < 2 ^ 17) (hloads : ∀ x ∈ loads, IsLoad x) :
    IsLoad (meanLoad loads) := by
  have hpos : 0 < loads.length := List.length_pos_of_ne_nil hsome
  obtain ⟨sum, hsum, hle⟩ : ∃ q, (loads.foldl Binary.add (Binary.ofQuanta true 0)).HasQuanta q ∧
      q ≤ 100 * loads.length * binary32.one := by
    obtain ⟨x, rest, rfl⟩ := List.exists_cons_of_ne_nil hsome
    rw [List.forall_mem_cons] at hloads
    obtain ⟨⟨a, hx, ha⟩, hrest⟩ := hloads
    rw [List.length_cons] at hcount ⊢
    obtain ⟨q, hq, hle⟩ := foldl_add_le hrest hx.minus_zero_add ha (by omega)
    exact ⟨q, hq, hle.trans (Nat.mul_le_mul_right _ (by omega))⟩
  have hlength : (Binary.ofNat loads.length : Single).HasQuanta (loads.length * binary32.one) :=
    Binary.ofNat_hasQuanta_of_onGrid (onGrid_mul_one (hcount.trans (by decide)))
      (mul_one_lt_limit (by omega) le_rfl)
  have hden : 0 < loads.length * binary32.one := Nat.mul_pos hpos binary32.one_pos
  have hquotient : binary32.round (sum * binary32.one) (loads.length * binary32.one) ≤
      100 * binary32.one := by
    apply round_le_mul_one hden (by norm_num)
    calc sum * binary32.one ≤ 100 * loads.length * binary32.one * binary32.one :=
          Nat.mul_le_mul_right _ hle
      _ = 100 * binary32.one * (loads.length * binary32.one) := by ring
  exact ⟨_, hsum.div hlength hden (mul_one_lt_limit (by norm_num) hquotient), hquotient⟩

/-- What is published of a load is the single nearest to some tenths, at most a thousand of them. -/
theorem roundTenth_of_isLoad {x : Single} (hx : IsLoad x) :
    ∃ n ≤ 1000, (roundTenth (x.convert .binary64)).HasQuanta (tenthQuanta n) := by
  obtain ⟨a, ha, hle⟩ := hx
  have hdouble : binary64.round (a * binary64.one) binary32.one ≤ 100 * binary64.one := by
    apply round_le binary32.one_pos (onGrid_mul_one (by decide))
    calc a * binary64.one ≤ 100 * binary32.one * binary64.one := Nat.mul_le_mul_right _ hle
      _ = 100 * binary64.one * binary32.one := by ring
  have hconvert := ha.convert (lt_limit_of_le_mul_one (by norm_num) hdouble)
  have hten := Binary.ofNat_hasQuanta_of_lt (n := 10) (by norm_num)
  have htenfold : binary64.round (binary64.round (a * binary64.one) binary32.one *
      (10 * binary64.one)) binary64.one ≤ 1000 * binary64.one := by
    apply round_le binary64.one_pos (onGrid_mul_one (by decide))
    calc binary64.round (a * binary64.one) binary32.one * (10 * binary64.one)
        ≤ 100 * binary64.one * (10 * binary64.one) := Nat.mul_le_mul_right _ hdouble
      _ = 1000 * binary64.one * binary64.one := by ring
  have hproduct := hconvert.mul hten (lt_limit_of_le_mul_one (by norm_num) htenfold)
  exact ⟨_, Nearest.halfUp_le_of_le_mul binary64.one_pos htenfold,
    roundTenth_hasQuanta hproduct htenfold⟩

/-- If all loads are percentages, what a snapshot says of them is one, to one decimal. -/
theorem exists_cpuPercent {h : Host} (hsome : h.loads ≠ []) (hcount : h.loads.length < 2 ^ 17)
    (hloads : ∀ x ∈ h.loads, IsLoad x) :
    ∃ percent, h.cpuPercent = .ok percent ∧ IsLoad percent ∧
      ∃ n ≤ 1000, percent.IsNearest ((n : ℕ) / 10) := by
  obtain ⟨n, hn, hpercent⟩ := roundTenth_of_isLoad (isLoad_meanLoad hsome hcount hloads)
  exact ⟨_, if_neg (List.isEmpty_iff.not.2 hsome),
    ⟨_, hpercent, tenthQuanta_le_hundred hn⟩, n, hn, tenthQuanta_isNearest hpercent⟩

end Host

end HostStatus
