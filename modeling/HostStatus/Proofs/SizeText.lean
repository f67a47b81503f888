import HostStatus.Proofs.NumeralText
import HostStatus.Proofs.ShownQuantity

/-!
# The form of size texts

`SpellsSize` is the grammar of size texts: a decimal number with two places, a space and a unit. All
counts with a size are written so but minus zero, whose text has a sign in front; of counts that are
equal only the two zeros have different texts.

What is shown of a whole count stays within its unit up to one amount. The unit is chosen for the
count and the two decimals are rounded afterwards, so just below the next unit `1024.00` is shown.
This and `1.00` of the next unit are the only two texts that say the same.
-/

namespace HostStatus

open Format

attribute [local irreducible] Format.one

/-! ## Any count -/

/-- The digits before the point begin with a zero only if that is all. -/
inductive SpellsSize : List Char → Prop where
  | mk {whole fraction : List Char} {unit : String} (hsome : whole ≠ [])
      (hwhole : ∀ c ∈ whole, c.isDigit = true) (hzero : whole.head? = some '0' → whole = ['0'])
      (hplaces : fraction.length = 2) (hfraction : ∀ c ∈ fraction, c.isDigit = true)
      (hunit : unit ∈ ["B", "KB", "MB", "GB", "TB", "PB"]) :
      SpellsSize (whole ++ '.' :: (fraction ++ ' ' :: unit.toList))

theorem SpellsSize.isDigit_head {text : List Char} (h : SpellsSize text) :
    ∀ c ∈ text.head?, c.isDigit = true := by
  cases h with
  | mk hsome hwhole =>
    intro c hc
    rw [List.head?_append_of_ne_nil _ hsome] at hc
    exact hwhole c (List.mem_of_mem_head? hc)

namespace Size

variable {x y : Double} {s t : Size}

theorem spellsSize_toText (n : ℕ) (u : ByteUnit) :
    SpellsSize (⟨⟨false, n⟩, u⟩ : Size).toText.toList := by
  have hdigit (m : ℕ) : (Nat.digitChar (m % 10)).isDigit = true := by
    simp [Nat.isDigit_digitChar, Nat.mod_lt]
  have hfraction : ∀ c ∈ [Nat.digitChar (n / 10 % 10), Nat.digitChar (n % 10)],
      c.isDigit = true := by
    simp [hdigit]
  rw [toList_toText, List.append_assoc]
  exact .mk Nat.toDigits_ne_nil (fun c hc => Json.isDigit_of_mem_toDigits hc)
    Json.toDigits_eq_zero_of_head rfl hfraction (by cases u <;> decide)

theorem not_spellsSize_minus (n : ℕ) (u : ByteUnit) :
    ¬ SpellsSize (⟨⟨true, n⟩, u⟩ : Size).toText.toList := by
  intro h
  rw [toText_minus, String.toList_append] at h
  exact absurd (h.isDigit_head '-' rfl) (by decide)

/-- Only the size of minus zero has a sign. -/
theorem negative_of_ok (hs : ofCount x = .ok s) :
    s.amount.negative = x.isNegative ∧
      (x.isNegative = true → x.value = 0 ∧ s.toText = "-0.00 B") := by
  obtain ⟨hfinite, hvalue⟩ := accepted_of_ok hs
  rcases Binary.hasQuanta_or_minus_zero hfinite hvalue with ⟨q, hx⟩ | ⟨hzero, rfl⟩
  · obtain ⟨r, u, hsize, -⟩ := ofCount_hasQuanta hx
    obtain rfl := Except.ok.inj (hs.symm.trans hsize)
    rw [hx.isNegative]
    exact ⟨rfl, fun h => absurd h Bool.false_ne_true⟩
  · obtain rfl := Except.ok.inj (hs.symm.trans (ofCount_minus_zero hzero))
    exact ⟨rfl, fun _ => ⟨by simp [Binary.value, Binary.signed], by decide +kernel⟩⟩

theorem spellsSize_iff (s : Size) : SpellsSize s.toText.toList ↔ s.amount.negative = false := by
  obtain ⟨⟨negative, n⟩, u⟩ := s
  cases negative with
  | false => exact iff_of_true (spellsSize_toText n u) rfl
  | true => exact iff_of_false (not_spellsSize_minus n u) Bool.true_eq_false.mp

/-- A count that has a size has one of the form of sizes, and the text of all equal counts, unless
it is minus zero. -/
theorem spellsSize_unless_minus_zero (hs : ofCount x = .ok s) :
    (SpellsSize s.toText.toList ↔ x.isNegative = false) ∧
      (x.isNegative = true → x.value = 0 ∧ s.toText = "-0.00 B") ∧
        ∀ y t, ofCount y = .ok t → x.value = y.value →
          (s.toText = t.toText ↔ x.isNegative = y.isNegative) := by
  have hspells {x : Double} {s : Size} (hs : ofCount x = .ok s) :
      SpellsSize s.toText.toList ↔ x.isNegative = false := by
    rw [spellsSize_iff, (negative_of_ok hs).1]
  refine ⟨hspells hs, (negative_of_ok hs).2, fun y t ht h => ?_⟩
  constructor
  · intro htext
    have hforms := hspells ht
    rw [← htext, hspells hs] at hforms
    exact Bool.eq_iff_iff.2 (by simpa using not_congr hforms)
  · intro hsign
    obtain rfl := Binary.eq_of_value_eq (accepted_of_ok hs).1 (accepted_of_ok ht).1 hsign h
    rw [Except.ok.inj (hs.symm.trans ht)]

/-- The smallest count above zero, and the two zeros. -/
theorem spellsSize_unless_minus_zero_of_zeros :
    ∃ s t u : Size, ofCount (.ofBits 1) = .ok s ∧ SpellsSize s.toText.toList ∧
      ofCount (.ofBits 0) = .ok t ∧ ofCount (.ofBits (2 ^ 63)) = .ok u ∧
      (Binary.ofBits 0 : Double).value = (Binary.ofBits (2 ^ 63) : Double).value ∧
      t.toText ≠ u.toText := by
  obtain ⟨s, hs⟩ := @exists_ofCount (.ofBits 1) (by decide +kernel)
  obtain ⟨t, ht⟩ := @exists_ofCount (.ofBits 0) (by decide +kernel)
  obtain ⟨u, hu⟩ := @exists_ofCount (.ofBits (2 ^ 63)) (by decide +kernel)
  have hvalue : (Binary.ofBits 0 : Double).value = (Binary.ofBits (2 ^ 63) : Double).value := by
    decide +kernel
  have hform := (spellsSize_unless_minus_zero hs).1.2 (by decide +kernel)
  refine ⟨s, t, u, hs, hform, ht, hu, hvalue, fun htext => ?_⟩
  exact absurd (((spellsSize_unless_minus_zero ht).2.2 _ u hu hvalue).1 htext) (by decide +kernel)

/-- Minus zero is not below zero, so it has a size; the sign that is written there is no part of the
form, and zero has another text. -/
theorem spellsSize_fails_at_minus_zero :
    (Binary.ofBits (2 ^ 63) : Double).value = (Binary.ofBits 0 : Double).value ∧
      (ofCount (.ofBits (2 ^ 63))).toOption.map toText = some "-0.00 B" ∧
      (ofCount (.ofBits 0)).toOption.map toText = some "0.00 B" ∧
      ¬ SpellsSize "-0.00 B".toList := by
  refine ⟨by decide +kernel, by decide +kernel, by decide +kernel, fun h => ?_⟩
  exact absurd (h.isDigit_head '-' rfl) (by decide)

end Size

/-! ## Whole counts -/

variable {m n : ℕ}

/-- An even number is what a quotient is rounded to from a half below it on. -/
theorem Nearest.even_le_halfEven_iff {k num den : ℕ} (hk : Even k) (hden : 0 < den) :
    k ≤ halfEven num den ↔ 2 * (k * den) ≤ 2 * num + den := by
  constructor
  · intro h
    have hupper := halfEven_le num den
    have hsteps := Nat.mul_le_mul_right den h
    omega
  · intro h
    by_contra! hlt
    have hlower := le_halfEven num hden
    have hsteps := Nat.mul_le_mul_right den (Nat.succ_le_of_lt hlt)
    rw [Nat.succ_mul] at hsteps
    -- The quotient would be the half between `k` and the number below, which is odd.
    have hnext : halfEven num den + 1 = k := by
      have hexact : (halfEven num den + 1) * den = k * den := by
        rw [Nat.succ_mul]
        omega
      exact Nat.eq_of_mul_eq_mul_right hden hexact
    have hhalf : 2 * num = 2 * (halfEven num den * den) + den := by omega
    have heven := halfEven_even_of_half hden (.inl hhalf)
    rw [← hnext] at hk
    exact (Nat.not_even_iff_odd.2 heven.add_one) hk

/-- What is shown of a count in its unit: at most `1024.00`, and that only from a half of a
hundredth below the next unit on. -/
structure IsShown (n shown k : ℕ) : Prop where
  rank : IsUnitRank n k
  one_le : k ≠ 0 → 100 ≤ shown
  le_next : k < 5 → shown ≤ 102400
  next_iff : k < 5 → (shown = 102400 ↔ 204799 * 1024 ^ k ≤ 200 * n)

theorem IsShown.lt_next_of_bytes {shown : ℕ} (h : IsShown n shown 0) : shown < 102400 := by
  have hcount : n < 1024 := by exact_mod_cast h.rank.lt_next (by norm_num)
  refine Nat.lt_of_le_of_ne (h.le_next (by norm_num)) fun heq => ?_
  have := (h.next_iff (by norm_num)).1 heq
  omega

theorem exists_isShown (h : n < 2 ^ 64) :
    ∃ shown u, bytesText n = (⟨⟨false, shown⟩, u⟩ : Size).toText ∧ IsShown n shown u.power := by
  have hone := binary64.one_pos
  obtain ⟨r, u, hsize, hr, hrank⟩ := Size.ofBytes_heldQuanta h
  have hunit : 0 < 1024 ^ u.power := by positivity
  have hexact (hk : u.power < 5) : r * 1024 ^ u.power = n * binary64.one := by
    have hlast : 1024 ^ (u.power + 1) ≤ 1024 ^ 5 := Nat.pow_le_pow_right (by norm_num) hk
    have hnext : n < 1024 ^ (u.power + 1) := by exact_mod_cast hrank.lt_next hk
    rw [hr, heldQuanta_of_le (by omega)]
  have hbelow (hk : u.power < 5) : Nearest.halfEven (r * 100) binary64.one ≤ 102400 := by
    apply Size.shown_le (k := u.power)
    rw [hexact hk]
    have hnext : n < 1024 ^ (u.power + 1) := by exact_mod_cast hrank.lt_next hk
    exact Nat.mul_lt_mul_of_pos_right hnext hone
  refine ⟨_, u, bytesText_of_ofBytes hsize, hrank, fun hk => ?_, hbelow, fun hk => ?_⟩
  · apply Size.le_shown hk
    intro j hj
    have hreached : 1024 ^ (j + 1) ≤ n := by exact_mod_cast hrank.le_of_lt j hj
    have hdouble : 1024 ^ (j + 1) ≤ 2 ^ 53 := by
      have hlast : 1024 ^ (j + 1) ≤ 1024 ^ 5 :=
        Nat.pow_le_pow_right (by norm_num) (hj.trans_le hrank.le_last)
      omega
    rw [hr]
    exact_mod_cast (mul_one_le_heldQuanta hdouble).2 hreached
  · change Nearest.halfEven (r * 100) binary64.one = 102400 ↔ _
    rw [Nat.le_antisymm_iff, and_iff_right (hbelow hk),
      Nearest.even_le_halfEven_iff (by decide) hone, ← Nat.mul_le_mul_right_iff hunit]
    have hquanta : (2 * (r * 100) + binary64.one) * 1024 ^ u.power =
        200 * n * binary64.one + binary64.one * 1024 ^ u.power := by
      calc (2 * (r * 100) + binary64.one) * 1024 ^ u.power =
            200 * (r * 1024 ^ u.power) + binary64.one * 1024 ^ u.power := by ring
        _ = 200 * n * binary64.one + binary64.one * 1024 ^ u.power := by
            rw [hexact hk, Nat.mul_assoc]
    have hnext : 2 * (102400 * binary64.one) * 1024 ^ u.power =
        204799 * 1024 ^ u.power * binary64.one + binary64.one * 1024 ^ u.power := by ring
    rw [hquanta, hnext, Nat.add_le_add_iff_right, Nat.mul_le_mul_right_iff hone]

/-- `1024.00` of a unit that is neither the first nor the last, and `1.00` of the next one. -/
def CarriesOver (s t : String) : Prop :=
  ∃ k, 1 ≤ k ∧ k < 5 ∧ s = hundredthsText 102400 k ∧ t = hundredthsText 100 (k + 1)

/-- Two amounts of one quantity in different units are as far apart as units allow. -/
theorem IsShown.carries {shown shown' k k' : ℕ} (hm : IsShown m shown k) (hn : IsShown n shown' k')
    (hlt : k < k') (h : shown * 1024 ^ k = shown' * 1024 ^ k') :
    1 ≤ k ∧ k < 5 ∧ shown = 102400 ∧ shown' = 100 ∧ k' = k + 1 := by
  have hlast := hn.rank.le_last
  obtain ⟨d, rfl⟩ := Nat.exists_eq_add_of_lt hlt
  have hscaled : shown = shown' * 1024 * 1024 ^ d := by
    apply Nat.eq_of_mul_eq_mul_right (show 0 < 1024 ^ k by positivity)
    rw [h]
    ring
  have hreached := hn.one_le (by omega)
  have hbelow := hm.le_next (by omega)
  have hd : d = 0 := by
    by_contra hne
    have hstep : 1024 ^ 1 ≤ 1024 ^ d := Nat.pow_le_pow_right (by norm_num) (by omega)
    have : 100 * 1024 * 1024 ^ 1 ≤ shown' * 1024 * 1024 ^ d :=
      Nat.mul_le_mul (Nat.mul_le_mul_right _ hreached) hstep
    omega
  subst hd
  have hfull : shown = 102400 := by omega
  refine ⟨?_, by omega, hfull, by omega, rfl⟩
  by_contra hzero
  obtain rfl : k = 0 := by omega
  exact hm.lt_next_of_bytes.ne hfull

theorem ByteUnit.power_injective {u v : ByteUnit} (h : u.power = v.power) : u = v := by
  cases u <;> cases v <;> first | rfl | cases h

theorem readSize?_eq_some_iff {shown : ℕ} {u : ByteUnit} {q : ℚ} :
    readSize? (⟨⟨false, shown⟩, u⟩ : Size).toText = some q ↔
      q * 100 = (shown * 1024 ^ u.power : ℕ) := by
  rw [readSize?_eq, readParts?_toText, Option.map_some, Option.some_inj]
  push_cast
  constructor
  · rintro rfl
    ring
  · intro h
    linarith

/-- The amount that is shown of a count of 64 bits is at least one of its unit unless that is the
byte. It is below 1024 of any unit but the last, or it is 1024 itself, where the count is less than
half a hundredth short of the next unit; and only `1024.00` of a unit and `1.00` of the next say the
same in two ways. -/
theorem bytesText_stays_in_unit :
    (∀ n < 2 ^ 64, ∃ amount k, readParts? (bytesText n) = some (amount, k) ∧ IsUnitRank n k ∧
      (k ≠ 0 → 1 ≤ amount) ∧ (k = 0 → amount < 1024) ∧
      (k < 5 → amount ≤ 1024 ∧ (amount = 1024 ↔ 204799 * 1024 ^ k ≤ 200 * n))) ∧
    ∀ m < 2 ^ 64, ∀ n < 2 ^ 64, ∀ q, readSize? (bytesText m) = some q →
      readSize? (bytesText n) = some q →
        bytesText m = bytesText n ∨ CarriesOver (bytesText m) (bytesText n) ∨
          CarriesOver (bytesText n) (bytesText m) := by
  constructor
  · intro n hn
    obtain ⟨shown, u, htext, hshown⟩ := exists_isShown hn
    refine ⟨shown / 100, u.power, by rw [htext, readParts?_toText], hshown.rank, fun hk => ?_,
      fun hk => ?_, fun hk => ⟨?_, ?_⟩⟩
    · rw [one_le_div (by norm_num)]
      exact_mod_cast hshown.one_le hk
    · rw [hk] at hshown
      rw [div_lt_iff₀ (by norm_num)]
      exact_mod_cast hshown.lt_next_of_bytes
    · rw [div_le_iff₀ (by norm_num)]
      exact_mod_cast hshown.le_next hk
    · rw [div_eq_iff (by norm_num), ← hshown.next_iff hk]
      norm_num
      exact_mod_cast Iff.rfl
  · intro m hm n hn q hmq hnq
    obtain ⟨shown, u, hmtext, hmshown⟩ := exists_isShown hm
    obtain ⟨shown', v, hntext, hnshown⟩ := exists_isShown hn
    rw [hmtext, readSize?_eq_some_iff] at hmq
    rw [hntext, readSize?_eq_some_iff] at hnq
    have hsame : shown * 1024 ^ u.power = shown' * 1024 ^ v.power := by
      exact_mod_cast hmq.symm.trans hnq
    have hcarries {shown shown' : ℕ} {u v : ByteUnit}
        (h : 1 ≤ u.power ∧ u.power < 5 ∧ shown = 102400 ∧ shown' = 100 ∧ v.power = u.power + 1) :
        CarriesOver (⟨⟨false, shown⟩, u⟩ : Size).toText (⟨⟨false, shown'⟩, v⟩ : Size).toText := by
      obtain ⟨hlow, hhigh, rfl, rfl, hnext⟩ := h
      refine ⟨u.power, hlow, hhigh, Size.toText_eq_hundredthsText (by cases u <;> rfl), ?_⟩
      rw [← hnext]
      exact Size.toText_eq_hundredthsText (by cases v <;> rfl)
    rw [hmtext, hntext]
    rcases lt_trichotomy u.power v.power with hlt | heq | hgt
    · exact .inr (.inl (hcarries (hmshown.carries hnshown hlt hsame)))
    · obtain rfl := ByteUnit.power_injective heq
      left
      rw [Nat.eq_of_mul_eq_mul_right (by positivity) hsame]
    · exact .inr (.inr (hcarries (hnshown.carries hmshown hgt hsame.symm)))

theorem bytesText_around_mebibyte :
    bytesText 1048575 = (⟨⟨false, 102400⟩, .kb⟩ : Size).toText ∧
      bytesText 1048576 = (⟨⟨false, 100⟩, .mb⟩ : Size).toText :=
  ⟨by decide +kernel, by decide +kernel⟩

/-- Two neighbours in different units, of which the smaller is shown as `1024.00` of its own. -/
theorem bytesText_stays_in_unit_of_neighbours :
    1048575 < 2 ^ 64 ∧ 1048576 < 2 ^ 64 ∧ bytesText 1048575 ≠ bytesText 1048576 ∧
      (∃ amount, readParts? (bytesText 1048575) = some (amount, 1) ∧ 1 ≤ amount ∧ amount ≤ 1024 ∧
        (amount = 1024 ↔ 204799 * 1024 ^ 1 ≤ 200 * 1048575)) ∧
      (CarriesOver (bytesText 1048575) (bytesText 1048576) ∨
        CarriesOver (bytesText 1048576) (bytesText 1048575)) := by
  obtain ⟨hamounts, hquantities⟩ := bytesText_stays_in_unit
  obtain ⟨hless, hmore⟩ := bytesText_around_mebibyte
  have hne : bytesText 1048575 ≠ bytesText 1048576 := by decide +kernel
  obtain ⟨amount, k, hparts, -, hleast, -, hnext⟩ := hamounts 1048575 (by norm_num)
  have hk : (1 : ℕ) = k := by
    rw [hless, readParts?_toText] at hparts
    exact congrArg Prod.snd (Option.some.inj hparts)
  subst hk
  refine ⟨by norm_num, by norm_num, hne,
    ⟨amount, hparts, hleast Nat.one_ne_zero, hnext (by norm_num)⟩, ?_⟩
  refine (hquantities 1048575 (by norm_num) 1048576 (by norm_num) 1048576 ?_ ?_).resolve_left hne
  · rw [hless, readSize?_eq_some_iff]
    norm_num [ByteUnit.power]
  · rw [hmore, readSize?_eq_some_iff]
    norm_num [ByteUnit.power]

/-- What is shown reaches 1024 of a unit, and then says the same as another text. -/
theorem bytesText_reaches_next_unit :
    readParts? (bytesText 1048575) = some (1024, 1) ∧
      readSize? (bytesText 1048575) = some 1048576 ∧ readSize? (bytesText 1048576) = some 1048576 ∧
      bytesText 1048575 ≠ bytesText 1048576 := by
  obtain ⟨hless, hmore⟩ := bytesText_around_mebibyte
  refine ⟨?_, ?_, ?_, by decide +kernel⟩
  · rw [hless, readParts?_toText]
    norm_num [ByteUnit.power]
  · rw [hless, readSize?_eq_some_iff]
    norm_num [ByteUnit.power]
  · rw [hmore, readSize?_eq_some_iff]
    norm_num [ByteUnit.power]

end HostStatus
