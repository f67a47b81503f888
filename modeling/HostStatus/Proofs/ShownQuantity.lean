import HostStatus.Proofs.SizeOrder
import HostStatus.Proofs.WholeCounts

/-!
# The order of shown quantities

`readQuantity?` reads a size with or without a minus sign, and what it finds never falls along
growing counts. Only minus zero is shown with the sign, and it says as little as zero: any other
count is in quanta, where `Size.hundredths_mono` has the order of units and roundings. Whole counts
follow, because they keep their order as they are rounded to doubles.
-/

namespace HostStatus

open Format

attribute [local irreducible] Format.one

/-- The exact number of bytes that a text says. -/
def readQuantity? (text : String) : Option ℚ :=
  match text.toList with
  | '-' :: cs => (readSize? (String.ofList cs)).map (-·)
  | _ => readSize? text

/-- What a size says, in bytes. -/
def Size.quantity (s : Size) : ℚ :=
  if s.amount.negative then -(s.hundredths / 100) else s.hundredths / 100

theorem readQuantity?_of_isDigit {text : String} (h : ∀ c ∈ text.toList.head?, c.isDigit = true) :
    readQuantity? text = readSize? text := by
  unfold readQuantity?
  split
  · next cs heq =>
    rw [heq] at h
    exact absurd (h '-' rfl) (by decide)
  · rfl

theorem readQuantity?_minus (text : String) :
    readQuantity? ("-" ++ text) = (readSize? text).map (-·) := by
  rw [readQuantity?, String.toList_append]
  change (readSize? (String.ofList text.toList)).map _ = _
  rw [String.ofList_toList]

namespace Size

variable {x y : Double} {s t : Size} {q : ℕ}

theorem toText_minus (n : ℕ) (u : ByteUnit) :
    (⟨⟨true, n⟩, u⟩ : Size).toText = "-" ++ (⟨⟨false, n⟩, u⟩ : Size).toText := by
  apply String.toList_injective
  simp [toText, Decimal.Fixed.toText, Decimal.Fixed.toChars]

theorem isDigit_head_toText {n : ℕ} {u : ByteUnit} :
    ∀ c ∈ (⟨⟨false, n⟩, u⟩ : Size).toText.toList.head?, c.isDigit = true := by
  intro c hc
  rw [toList_toText, List.append_assoc, List.head?_append_of_ne_nil _ Nat.toDigits_ne_nil] at hc
  exact Nat.isDigit_of_mem_toDigits (by norm_num) le_rfl (List.mem_of_mem_head? hc)

/-- The text of a size says what the size says. -/
theorem readQuantity?_toText (s : Size) : readQuantity? s.toText = some s.quantity := by
  obtain ⟨⟨negative, n⟩, u⟩ := s
  cases negative with
  | false =>
    rw [readQuantity?_of_isDigit isDigit_head_toText, readSize?_toText rfl]
    rfl
  | true =>
    rw [toText_minus, readQuantity?_minus, readSize?_toText rfl]
    rfl

/-! ## Counts of either sign -/

theorem quantity_of_hasQuanta (hx : x.HasQuanta q) (hs : ofCount x = .ok s) :
    s.quantity = s.hundredths / 100 := by
  obtain ⟨r, u, hsize, -⟩ := ofCount_hasQuanta hx
  obtain rfl := Except.ok.inj (hs.symm.trans hsize)
  rfl

theorem quantity_ofQuanta_zero (negative : Bool) (u : ByteUnit) :
    (⟨.ofQuanta .binary64 negative 0, u⟩ : Size).quantity = 0 := by
  have hshown : (⟨.ofQuanta .binary64 negative 0, u⟩ : Size).hundredths = 0 := by
    rw [hundredths, Decimal.Fixed.ofQuanta, Nat.zero_mul, Nearest.halfEven_of_dvd (Nat.zero_mod _),
      Nat.zero_div, Nat.zero_mul]
  rw [quantity, hshown, Nat.cast_zero, zero_div, neg_zero, ite_self]

/-- Minus zero says what zero says, and no other count has a minus sign. -/
theorem exists_hasQuanta_of_ok (hs : ofCount x = .ok s) :
    ∃ (z : Double) (q : ℕ) (t : Size), z.HasQuanta q ∧ ofCount z = .ok t ∧ z.value = x.value ∧
      t.quantity = s.quantity := by
  obtain ⟨hfinite, hvalue⟩ := accepted_of_ok hs
  rcases Binary.hasQuanta_or_minus_zero hfinite hvalue with ⟨q, hx⟩ | ⟨hzero, rfl⟩
  · exact ⟨x, q, s, hx, hs, rfl, rfl⟩
  · have hplus : (.finite false 0 hzero : Double).HasQuanta 0 := ⟨hzero, rfl⟩
    obtain ⟨r, u, hsize, hr, -⟩ := ofCount_hasQuanta hplus
    obtain rfl : r = 0 := (Nat.mul_eq_zero.1 hr).resolve_right (by positivity)
    obtain rfl := Except.ok.inj (hs.symm.trans (ofCount_minus_zero hzero))
    refine ⟨_, 0, _, hplus, hsize, ?_, ?_⟩
    · exact congrArg (fun z : ℤ => (z : ℚ) / binary64.one)
        (show Binary.signed false 0 = Binary.signed true 0 from rfl)
    · rw [quantity_ofQuanta_zero, quantity_ofQuanta_zero]

theorem quantity_mono (hs : ofCount x = .ok s) (ht : ofCount y = .ok t) (h : x.value ≤ y.value) :
    s.quantity ≤ t.quantity := by
  obtain ⟨x', p, s', hx, hs', hxvalue, hsquantity⟩ := exists_hasQuanta_of_ok hs
  obtain ⟨y', q, t', hy, ht', hyvalue, htquantity⟩ := exists_hasQuanta_of_ok ht
  have hpq : p ≤ q := by
    rw [← hxvalue, ← hyvalue, hx.value_eq, hy.value_eq,
      div_le_div_iff_of_pos_right binary64.cast_one_pos] at h
    exact_mod_cast h
  obtain ⟨s'', t'', hs'', ht'', -, -, hle⟩ := hundredths_mono hx hy hpq
  obtain rfl := Except.ok.inj (hs'.symm.trans hs'')
  obtain rfl := Except.ok.inj (ht'.symm.trans ht'')
  rw [← hsquantity, ← htquantity, quantity_of_hasQuanta hx hs', quantity_of_hasQuanta hy ht']
  gcongr

end Size

/-- Along growing counts, of which minus zero is one, what is shown and read back does not fall; nor
does it for whole counts, whether or not they are still different when they are held. -/
theorem readQuantity?_mono :
    (∀ (x y : Double) (s t : Size), Size.ofCount x = .ok s → Size.ofCount y = .ok t →
      x.value ≤ y.value →
        ∃ p q, readQuantity? s.toText = some p ∧ readQuantity? t.toText = some q ∧ p ≤ q) ∧
    ∀ m n : ℕ, m ≤ n → n < 2 ^ 64 →
      ∃ p q, readQuantity? (bytesText m) = some p ∧ readQuantity? (bytesText n) = some q ∧
        p ≤ q := by
  refine ⟨fun x y s t hs ht h => ?_, fun m n h hn => ?_⟩
  · exact ⟨_, _, Size.readQuantity?_toText s, Size.readQuantity?_toText t,
      Size.quantity_mono hs ht h⟩
  · obtain ⟨_, _, hs, -⟩ := Size.ofBytes_heldQuanta (h.trans_lt hn)
    obtain ⟨_, _, ht, -⟩ := Size.ofBytes_heldQuanta hn
    rw [bytesText_of_ofBytes hs, bytesText_of_ofBytes ht]
    refine ⟨_, _, Size.readQuantity?_toText _, Size.readQuantity?_toText _,
      Size.quantity_mono hs ht (value_ofNat_mono h hn)⟩

/-- Two neighbours in different units, of which the smaller is shown as `1024.00` of its own; and
two counts that are held as one. -/
theorem readQuantity?_mono_of_neighbours :
    (∃ s t, Size.ofCount (.ofNat 1048575) = .ok s ∧ Size.ofCount (.ofNat 1048576) = .ok t ∧
      s.toText = "1024.00 KB" ∧ t.toText = "1.00 MB" ∧
      ∃ p q, readQuantity? s.toText = some p ∧ readQuantity? t.toText = some q ∧ p ≤ q) ∧
    2 ^ 63 ≤ 2 ^ 63 + 1 ∧ 2 ^ 63 + 1 < 2 ^ 64 ∧
      ∃ p q, readQuantity? (bytesText (2 ^ 63)) = some p ∧
        readQuantity? (bytesText (2 ^ 63 + 1)) = some q ∧ p ≤ q := by
  obtain ⟨hcounts, hwhole⟩ := readQuantity?_mono
  obtain ⟨_, _, hs, -⟩ := Size.ofBytes_heldQuanta (show 1048575 < 2 ^ 64 by norm_num)
  obtain ⟨_, _, ht, -⟩ := Size.ofBytes_heldQuanta (show 1048576 < 2 ^ 64 by norm_num)
  refine ⟨⟨_, _, hs, ht, ?_, ?_,
    hcounts _ _ _ _ hs ht (value_ofNat_mono (by norm_num) (by norm_num))⟩, by norm_num, by norm_num,
    hwhole _ _ (by norm_num) (by norm_num)⟩
  · rw [← bytesText_of_ofBytes hs]
    decide +kernel
  · rw [← bytesText_of_ofBytes ht]
    decide +kernel

end HostStatus
