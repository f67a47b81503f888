import HostStatus.Proofs.Value
import HostStatus.Size
import Mathlib.Tactic.IntervalCases

/-!
# Sizes agree with exact arithmetic

`Size.ofCount` divides a binary number by 1024 again and again, and compares after each division.
None of these divisions loses anything: a count of at least 1024 has ten binary digits to spare
before the grid could end, so the quotient is on the grid again. The unit and the number in front of
it are therefore those of exact rational arithmetic, and the only rounding is the one to two
decimals.
-/

namespace HostStatus

open Format

/-- The `k`-th of six units is the first that leaves fewer than 1024 of `v` bytes; the last one has
no bound. -/
structure IsUnitRank (v : ℚ) (k : ℕ) : Prop where
  le_last : k ≤ 5
  lt_next : k < 5 → v < 1024 ^ (k + 1)
  le_of_lt : ∀ j < k, 1024 ^ (j + 1) ≤ v

/-- `n` hundredths of the `k`-th unit, in writing. -/
def hundredthsText (n k : ℕ) : String :=
  toString (n / 100) ++ "." ++ toString (n / 10 % 10) ++ toString (n % 10) ++ " " ++
    ["B", "KB", "MB", "GB", "TB", "PB"].getD k ""

namespace Size

variable {count : Double} {q : ℕ}

theorem zero_hasQuanta : (Binary.ofNat 0 : Double).HasQuanta 0 := by
  simpa only [Nat.zero_mul] using Binary.ofNat_hasQuanta_of_lt (show 0 < 2 ^ 53 by norm_num)

theorem step_hasQuanta : step.HasQuanta (1024 * binary64.one) :=
  Binary.ofNat_hasQuanta_of_lt (by norm_num)

/-- A count of at least 1024 is divided without loss. -/
theorem div_step_hasQuanta (hcount : count.HasQuanta q) (h : 1024 * binary64.one ≤ q) :
    ∃ r, r * 1024 = q ∧ (count.div step).HasQuanta r := by
  obtain ⟨m, hm, hq⟩ := hcount.onGrid.exists_eq_mul_two_pow
  have hspacing : 10 ≤ binary64.spacing q := by
    have hpow : 2 ^ (10 + binary64.scale) = 1024 * binary64.one := by
      rw [pow_add, ← one_eq]
      norm_num
    rw [← hpow] at h
    have hlog := (Nat.le_log2 ((Nat.two_pow_pos _).trans_le h).ne').2 h
    have hscale : binary64.scale = 1074 := rfl
    have hprecision : binary64.precision = 53 := rfl
    unfold spacing
    omega
  obtain ⟨s, hs⟩ := Nat.exists_eq_add_of_le' hspacing
  rw [hs, pow_add] at hq
  refine ⟨m * 2 ^ s, by rw [hq]; ring, ?_⟩
  have hgrid : binary64.OnGrid (m * 2 ^ s) := onGrid_mul_two_pow hm s
  have hround : binary64.round (q * binary64.one) (1024 * binary64.one) = m * 2 ^ s := by
    have heq : q * binary64.one = m * 2 ^ s * (1024 * binary64.one) := by rw [hq]; ring
    rw [heq]
    exact round_mul_self (Nat.mul_pos (by norm_num) binary64.one_pos) hgrid
  have hle : m * 2 ^ s ≤ q := by rw [hq]; nlinarith [Nat.zero_le (m * 2 ^ s)]
  have hdiv := hcount.div step_hasQuanta (Nat.mul_pos (by norm_num) binary64.one_pos)
    (by rw [hround]; exact hle.trans_lt hcount.lt_limit)
  rwa [hround] at hdiv

/-- The count that is left in the chosen unit is exact, and the units before it are too small. -/
theorem reduce_exact (units : List ByteUnit) (hcount : count.HasQuanta q) :
    ∃ k r, (units ++ [ByteUnit.pb])[k]? = some (reduce units count).2 ∧
      (reduce units count).1.HasQuanta r ∧ r * 1024 ^ k = q ∧
      (k < units.length → q < 1024 ^ (k + 1) * binary64.one) ∧
      ∀ j < k, 1024 ^ (j + 1) * binary64.one ≤ q := by
  induction units generalizing count q with
  | nil => exact ⟨0, q, rfl, hcount, by simp, by simp, by simp⟩
  | cons u units ih =>
    rw [reduce, hcount.less_eq step_hasQuanta]
    by_cases hlt : q < 1024 * binary64.one
    · simp only [hlt, decide_true, if_true]
      exact ⟨0, q, rfl, hcount, by simp, fun _ => by simpa using hlt, by simp⟩
    · simp only [hlt, decide_false, Bool.false_eq_true, if_false]
      obtain ⟨q', hq', hcount'⟩ := div_step_hasQuanta hcount (Nat.le_of_not_lt hlt)
      obtain ⟨k, r, hunit, hr, hrk, hupper, hlower⟩ := ih hcount'
      refine ⟨k + 1, r, by simpa using hunit, hr, by rw [pow_succ, ← mul_assoc, hrk, hq'], ?_, ?_⟩
      · intro hk
        have := hupper (by simpa using hk)
        calc q = q' * 1024 := hq'.symm
          _ < 1024 ^ (k + 1) * binary64.one * 1024 := by omega
          _ = 1024 ^ (k + 1 + 1) * binary64.one := by ring
      · rintro (_ | j) hj
        · simpa using Nat.le_of_not_lt hlt
        · have := hlower j (by omega)
          calc 1024 ^ (j + 1 + 1) * binary64.one = 1024 ^ (j + 1) * binary64.one * 1024 := by ring
            _ ≤ q' * 1024 := by omega
            _ = q := hq'

/-- The unit at each place of the search is the one of that power. -/
theorem unit_eq_of_rank {k : ℕ} {u : ByteUnit}
    (h : (ByteUnit.bounded ++ [ByteUnit.pb])[k]? = some u) :
    u.power = k ∧ ["B", "KB", "MB", "GB", "TB", "PB"].getD k "" = u.symbol := by
  have hk : k < 6 := by
    obtain ⟨hlt, _⟩ := List.getElem?_eq_some_iff.1 h
    exact hlt
  interval_cases k <;> cases h <;> exact ⟨rfl, rfl⟩

/-- The size of a count without a minus sign, in quanta: no comparison and no division differs from
exact arithmetic. -/
theorem ofCount_hasQuanta (hcount : count.HasQuanta q) :
    ∃ r u, ofCount count = .ok ⟨.ofQuanta .binary64 false r, u⟩ ∧ r * 1024 ^ u.power = q ∧
      (u.power < 5 → q < 1024 ^ (u.power + 1) * binary64.one) ∧
      ∀ j < u.power, 1024 ^ (j + 1) * binary64.one ≤ q := by
  obtain ⟨k, r, hunit, ⟨h, hr⟩, hrk, hupper, hlower⟩ := reduce_exact ByteUnit.bounded hcount
  obtain ⟨hpower, _⟩ := unit_eq_of_rank hunit
  refine ⟨r, (reduce ByteUnit.bounded count).2,
    ?_, by rwa [hpower], by rwa [hpower], by rwa [hpower]⟩
  have hreduce : reduce ByteUnit.bounded count =
      (.finite false r h, (reduce ByteUnit.bounded count).2) := Prod.ext hr rfl
  rw [ofCount, hcount.isFinite, hcount.less_eq zero_hasQuanta, hreduce]
  simp

theorem leftpad_two_toDigits {m : ℕ} (h : m < 100) :
    List.leftpad 2 '0' (Nat.toDigits 10 m) = [Nat.digitChar (m / 10), Nat.digitChar (m % 10)] := by
  by_cases hm : m < 10
  · rw [Nat.toDigits_of_lt_base hm, Nat.div_eq_of_lt hm, Nat.mod_eq_of_lt hm]
    rfl
  · rw [Nat.toDigits_of_base_le (by norm_num) (by omega), Nat.toDigits_of_lt_base (by omega)]
    rfl

theorem toList_toText (n : ℕ) (u : ByteUnit) :
    (⟨⟨false, n⟩, u⟩ : Size).toText.toList =
      Nat.toDigits 10 (n / 100) ++ ['.', Nat.digitChar (n / 10 % 10), Nat.digitChar (n % 10)] ++
        ' ' :: u.symbol.toList := by
  have hpad := leftpad_two_toDigits (Nat.mod_lt n (by norm_num : 0 < 100))
  rw [show n % 100 / 10 = n / 10 % 10 by omega, show n % 100 % 10 = n % 10 by omega] at hpad
  simp only [toText, Decimal.Fixed.toText, Decimal.Fixed.toChars, String.toList_append,
    String.toList_ofList]
  change [] ++ Nat.toDigits 10 (n / 100) ++ '.' :: List.leftpad 2 '0' (Nat.toDigits 10 (n % 100)) ++
    _ ++ _ = _
  rw [hpad]
  simp

theorem toText_eq_hundredthsText {n k : ℕ} {u : ByteUnit}
    (h : (ByteUnit.bounded ++ [ByteUnit.pb])[k]? = some u) :
    (⟨⟨false, n⟩, u⟩ : Size).toText = hundredthsText n k := by
  have hdigits (m : ℕ) : (toString m).toList = Nat.toDigits 10 m := by
    rw [Nat.toString_eq_repr, Nat.toList_repr]
  have hdigit (m : ℕ) : Nat.toDigits 10 (m % 10) = [Nat.digitChar (m % 10)] :=
    Nat.toDigits_of_lt_base (Nat.mod_lt m (by norm_num))
  apply String.toList_injective
  rw [toList_toText, hundredthsText, (unit_eq_of_rank h).2]
  simp only [String.toList_append, hdigits, hdigit]
  simp

theorem ofCount_eq_error (h : ¬ (count.isFinite = true ∧ 0 ≤ count.value)) :
    ofCount count = .error (.invalidCount count) := by
  obtain ⟨_, hzero⟩ := zero_hasQuanta
  cases count with
  | nan s p hp => rfl
  | infinite s => rfl
  | finite s q hq =>
    have hone := binary64.cast_one_pos
    have hneg : Binary.signed s q < 0 := by
      by_contra! hge
      refine h ⟨rfl, div_nonneg ?_ hone.le⟩
      exact_mod_cast hge
    rw [ofCount, hzero]
    simp only [Binary.less, Binary.signed] at hneg ⊢
    simp [hneg]

/-- Minus zero is a count too, and keeps its sign. -/
theorem ofCount_minus_zero (hzero : binary64.Representable 0) :
    ofCount (.finite true 0 hzero) = .ok ⟨.ofQuanta .binary64 true 0, .b⟩ := by
  obtain ⟨_, hnone⟩ := zero_hasQuanta
  obtain ⟨_, hstep⟩ := step_hasQuanta
  have hnonneg : Binary.less (.finite true 0 hzero : Double) (.ofNat 0) = false := by
    rw [hnone]
    rfl
  have hbelow : Binary.less (.finite true 0 hzero : Double) step = true := by
    rw [hstep]
    simp only [Binary.less, Binary.signed, Bool.false_eq_true, if_false, if_true, Nat.cast_zero,
      neg_zero, decide_eq_true_eq]
    exact_mod_cast Nat.mul_pos (by norm_num) binary64.one_pos
  rw [ofCount, Binary.isFinite, hnonneg, ByteUnit.bounded, reduce, if_pos hbelow]
  rfl

theorem exists_ofCount (h : count.isFinite = true ∧ 0 ≤ count.value) :
    ∃ size, ofCount count = .ok size := by
  rcases Binary.hasQuanta_or_minus_zero h.1 h.2 with ⟨q, hcount⟩ | ⟨hzero, rfl⟩
  · obtain ⟨r, u, hsize, _⟩ := ofCount_hasQuanta hcount
    exact ⟨_, hsize⟩
  · exact ⟨_, ofCount_minus_zero hzero⟩

theorem accepted_of_ok {size : Size} (h : ofCount count = .ok size) :
    count.isFinite = true ∧ 0 ≤ count.value := by
  by_contra hbad
  rw [ofCount_eq_error hbad] at h
  cases h

/-- Counts that are finite and not below zero have a size, no others do, and the size of a count is
the one of exact rational arithmetic, rounded once. -/
theorem ofCount_agrees_with_exact (count : Double) :
    ((∃ size, ofCount count = .ok size) ↔ count.isFinite = true ∧ 0 ≤ count.value) ∧
      (¬ (count.isFinite = true ∧ 0 ≤ count.value) →
        ofCount count = .error (.invalidCount count)) ∧
      (count.isFinite = true → count.isNegative = false →
        ∃ k n, IsUnitRank count.value k ∧ RoundsToEven (count.value / 1024 ^ k * 100) n ∧
          (ofCount count).map toText = .ok (hundredthsText n k)) := by
  refine ⟨⟨fun ⟨size, hsize⟩ => ?_, exists_ofCount⟩, ofCount_eq_error, fun hfinite hpositive => ?_⟩
  · by_contra hbad
    rw [ofCount_eq_error hbad] at hsize
    cases hsize
  · obtain ⟨q, hcount⟩ : ∃ q, count.HasQuanta q := by
      cases count with
      | nan s p hp => cases hfinite
      | infinite s => cases hfinite
      | finite s q hq => exact ⟨q, hq, by cases hpositive; rfl⟩
    have hone := binary64.cast_one_pos
    obtain ⟨r, u, hsize, hr, hupper, hlower⟩ := ofCount_hasQuanta hcount
    refine ⟨u.power, Nearest.halfEven (r * 100) binary64.one, ⟨?_, ?_, ?_⟩, ?_, ?_⟩
    · cases u <;> decide
    · intro hk
      rw [hcount.value_eq, div_lt_iff₀ hone]
      exact_mod_cast hupper hk
    · intro j hj
      rw [hcount.value_eq, le_div_iff₀ hone]
      exact_mod_cast hlower j hj
    · have heq : count.value / 1024 ^ u.power * 100 = ((r * 100 : ℕ) : ℚ) / binary64.one := by
        rw [hcount.value_eq, ← hr]
        push_cast
        field_simp
      rw [heq]
      exact Nearest.halfEven_roundsToEven (r * 100) binary64.one_pos
    · rw [hsize]
      exact congrArg Except.ok (toText_eq_hundredthsText (by cases u <;> rfl))

end Size

end HostStatus
