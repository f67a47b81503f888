import HostStatus.Proofs.ExactSize

/-!
# Sizes read back keep the order of counts

`readSize?` reads the text of a size as a person does, a decimal number times a power of 1024, and
finds what the size says, `Size.hundredths`. Along growing counts that quantity never falls. Inside
one unit this is monotone rounding. Between units there is a barrier that two decimals cannot cross:
what is below 1024 of a unit is shown as at most `1024.00` of it, and what has reached the next unit
as at least `1.00` of that.
-/

namespace HostStatus

open Format

/-- The exact value of digits, a point and more digits. -/
def readDecimal? (cs : List Char) : Option ℚ :=
  let whole := cs.takeWhile Char.isDigit
  match cs.dropWhile Char.isDigit with
  | '.' :: fraction =>
    if whole ≠ [] ∧ fraction ≠ [] ∧ fraction.all Char.isDigit then
      some (Nat.ofDigitChars 10 (whole ++ fraction) 0 / 10 ^ fraction.length)
    else none
  | _ => none

/-- The exact number of bytes that a decimal number and a unit, with a space between them, stand
for. -/
def readSize? (text : String) : Option ℚ :=
  match text.toList.dropWhile (· ≠ ' ') with
  | ' ' :: unit => do
    let amount ← readDecimal? (text.toList.takeWhile (· ≠ ' '))
    let power ← ["B", "KB", "MB", "GB", "TB", "PB"].idxOf? (String.ofList unit)
    pure (amount * 1024 ^ power)
  | _ => none

theorem readDecimal?_hundredths (n : ℕ) :
    readDecimal? (Nat.toDigits 10 (n / 100) ++
      ['.', Nat.digitChar (n / 10 % 10), Nat.digitChar (n % 10)]) = some ((n : ℚ) / 100) := by
  have hten : n / 10 % 10 < 10 := Nat.mod_lt _ (by norm_num)
  have hone : n % 10 < 10 := Nat.mod_lt _ (by norm_num)
  have hdigits : ∀ c ∈ Nat.toDigits 10 (n / 100), c.isDigit = true := fun c hc =>
    Nat.isDigit_of_mem_toDigits (by norm_num) le_rfl hc
  have hvalue : Nat.ofDigitChars 10
      (Nat.toDigits 10 (n / 100) ++
        [Nat.digitChar (n / 10 % 10), Nat.digitChar (n % 10)]) 0 = n := by
    rw [Nat.ofDigitChars_append, Nat.ofDigitChars_ten_toDigits,
      Nat.ofDigitChars_cons_digitChar_of_lt_ten hten,
      Nat.ofDigitChars_cons_digitChar_of_lt_ten hone, Nat.ofDigitChars_nil]
    omega
  rw [readDecimal?, List.takeWhile_append_of_pos hdigits, List.dropWhile_append_of_pos hdigits]
  simp only [List.takeWhile_cons, List.dropWhile_cons, show Char.isDigit '.' = false from rfl,
    Bool.false_eq_true, if_false, List.append_nil]
  rw [if_pos ⟨Nat.toDigits_ne_nil, by simp, by simp [Nat.isDigit_digitChar, hten, hone]⟩, hvalue]
  norm_num

/-- The number in front of the space, and which of the units is behind it. -/
def readParts? (text : String) : Option (ℚ × ℕ) :=
  match text.toList.dropWhile (· ≠ ' ') with
  | ' ' :: unit => do
    let amount ← readDecimal? (text.toList.takeWhile (· ≠ ' '))
    let power ← ["B", "KB", "MB", "GB", "TB", "PB"].idxOf? (String.ofList unit)
    pure (amount, power)
  | _ => none

theorem readSize?_eq (text : String) :
    readSize? text = (readParts? text).map fun (amount, power) => amount * 1024 ^ power := by
  unfold readSize? readParts?
  split
  · next unit _ =>
    cases readDecimal? (text.toList.takeWhile (· ≠ ' ')) with
    | none => rfl
    | some amount =>
      cases ["B", "KB", "MB", "GB", "TB", "PB"].idxOf? (String.ofList unit) <;> rfl
  · rfl

theorem readParts?_toText (n : ℕ) (u : ByteUnit) :
    readParts? (⟨⟨false, n⟩, u⟩ : Size).toText = some ((n : ℚ) / 100, u.power) := by
  have hnospace : ∀ c ∈ Nat.toDigits 10 (n / 100) ++
      ['.', Nat.digitChar (n / 10 % 10), Nat.digitChar (n % 10)], decide (c ≠ ' ') = true := by
    intro c hc
    have hdigit : c.isDigit = true ∨ c = '.' := by
      rcases List.mem_append.1 hc with hwhole | hrest
      · exact .inl (Nat.isDigit_of_mem_toDigits (by norm_num) le_rfl hwhole)
      · simp only [List.mem_cons, List.not_mem_nil, or_false] at hrest
        rcases hrest with rfl | rfl | rfl
        · exact .inr rfl
        · exact .inl (by simp [Nat.isDigit_digitChar, Nat.mod_lt])
        · exact .inl (by simp [Nat.isDigit_digitChar, Nat.mod_lt])
    rw [decide_eq_true_eq]
    rintro rfl
    rcases hdigit with hdigit | hpoint
    · exact absurd hdigit (by decide)
    · exact absurd hpoint (by decide)
  rw [readParts?, Size.toList_toText, List.takeWhile_append_of_pos hnospace,
    List.dropWhile_append_of_pos hnospace]
  have hpower : ["B", "KB", "MB", "GB", "TB", "PB"].idxOf? u.symbol = some u.power := by
    cases u <;> decide
  simp only [List.takeWhile_cons, List.dropWhile_cons, ne_eq, not_true_eq_false, decide_false,
    Bool.false_eq_true, if_false, List.append_nil, readDecimal?_hundredths, String.ofList_toList,
    hpower, Option.bind_eq_bind, Option.bind_some, Option.pure_def]

/-- The text of a size says what the size says. -/
theorem readSize?_toText {s : Size} (h : s.amount.negative = false) :
    readSize? s.toText = some ((s.hundredths : ℚ) / 100) := by
  obtain ⟨⟨negative, n⟩, u⟩ := s
  subst h
  rw [readSize?_eq, readParts?_toText, Option.map_some, Size.hundredths, Nat.pow_eq]
  push_cast
  ring_nf

namespace Size

variable {x y : Double} {p q : ℕ}

theorem hundredths_ofQuanta (r : ℕ) (u : ByteUnit) :
    (⟨.ofQuanta .binary64 false r, u⟩ : Size).hundredths =
      Nearest.halfEven (r * 100) binary64.one * 1024 ^ u.power := by
  simp [hundredths, Decimal.Fixed.ofQuanta]

/-- Two decimals do not carry a count past the next unit. -/
theorem shown_le {r k : ℕ} (h : r * 1024 ^ k < 1024 ^ (k + 1) * binary64.one) :
    Nearest.halfEven (r * 100) binary64.one ≤ 102400 := by
  have hr : r < 1024 * binary64.one := by
    rw [pow_succ, mul_assoc, mul_comm] at h
    exact Nat.lt_of_mul_lt_mul_left h
  exact Nearest.halfEven_le_of_le_mul binary64.one_pos (by omega)

/-- Nor do they carry it below the unit that it has reached. -/
theorem le_shown {r k : ℕ} (hk : k ≠ 0)
    (h : ∀ j < k, 1024 ^ (j + 1) * binary64.one ≤ r * 1024 ^ k) :
    100 ≤ Nearest.halfEven (r * 100) binary64.one := by
  obtain ⟨j, rfl⟩ := Nat.exists_eq_add_one_of_ne_zero hk
  have hr : binary64.one ≤ r := by
    have hreached := h j (Nat.lt_succ_self j)
    rw [mul_comm] at hreached
    exact Nat.le_of_mul_le_mul_right hreached (by positivity)
  exact Nearest.le_halfEven_of_mul_le binary64.one_pos (by omega)

theorem hundredths_mono (hx : x.HasQuanta p) (hy : y.HasQuanta q) (h : p ≤ q) :
    ∃ s t, ofCount x = .ok s ∧ ofCount y = .ok t ∧ s.amount.negative = false ∧
      t.amount.negative = false ∧ s.hundredths ≤ t.hundredths := by
  have hone := binary64.one_pos
  obtain ⟨r, u, hs, rfl, hupper, hlower⟩ := ofCount_hasQuanta hx
  obtain ⟨r', u', ht, rfl, hupper', hlower'⟩ := ofCount_hasQuanta hy
  refine ⟨_, _, hs, ht, rfl, rfl, ?_⟩
  rw [hundredths_ofQuanta, hundredths_ofQuanta]
  have hu : u.power ≤ 5 := by cases u <;> decide
  have hu' : u'.power ≤ 5 := by cases u' <;> decide
  rcases lt_trichotomy u.power u'.power with hlt | heq | hgt
  · calc Nearest.halfEven (r * 100) binary64.one * 1024 ^ u.power
        ≤ 102400 * 1024 ^ u.power := Nat.mul_le_mul_right _ (shown_le (hupper (by omega)))
      _ = 100 * 1024 ^ (u.power + 1) := by ring
      _ ≤ 100 * 1024 ^ u'.power :=
        Nat.mul_le_mul_left 100 (Nat.pow_le_pow_right (by norm_num) hlt)
      _ ≤ Nearest.halfEven (r' * 100) binary64.one * 1024 ^ u'.power :=
        Nat.mul_le_mul_right _ (le_shown (by omega) hlower')
  · rw [heq] at h ⊢
    have hrr' : r ≤ r' := Nat.le_of_mul_le_mul_right h (by positivity)
    apply Nat.mul_le_mul_right
    exact Nearest.halfEven_mono hone hone (by gcongr)
  · -- The smaller count has reached a unit that the larger one has not.
    exfalso
    have hbound := hupper' (by omega)
    have hreached := hlower u'.power hgt
    omega

end Size

end HostStatus
