import HostStatus.Proofs.StringText
import HostStatus.Proofs.Value

/-!
# Numerals read back

A numeral is scanned into its parts, and as long as its digits make up no more than 64 bits it
stands for them, with as many places as are behind the point and the exponent added. `Denotes` says
this of a text with either sign in front. It holds of a decimal that is written with a fixed count
of places and of one that is written with an exponent.
-/

namespace HostStatus.Json

open Format Decimal

variable {n : ℕ} {rest : List Char}

/-! ## Scanning -/

/-- What follows does not go on with a numeral. -/
def EndsNumeral (rest : List Char) : Prop :=
  ∀ c ∈ rest.head?, c.isDigit = false ∧ c ≠ 'e' ∧ c ≠ 'E'

theorem EndsValue.endsNumeral (h : EndsValue rest) : EndsNumeral rest := by
  intro c hc
  rcases h c hc with rfl | rfl | rfl <;> decide

theorem scanDigits_append {digits : List Char} (hdigits : ∀ c ∈ digits, c.isDigit = true)
    (hrest : ∀ c ∈ rest.head?, c.isDigit = false) :
    scanDigits (digits ++ rest) = (digits, rest) := by
  rw [scanDigits, List.takeWhile_append_of_pos hdigits, List.dropWhile_append_of_pos hdigits]
  cases rest with
  | nil => simp
  | cons c rest =>
    have hc : c.isDigit = false := hrest c rfl
    simp [hc]

theorem scanSomeDigits_append {digits : List Char} (hsome : digits ≠ [])
    (hdigits : ∀ c ∈ digits, c.isDigit = true) (hrest : ∀ c ∈ rest.head?, c.isDigit = false) :
    scanSomeDigits (digits ++ rest) = .ok (digits, rest) := by
  cases digits with
  | nil => exact absurd rfl hsome
  | cons c digits =>
    have hc : c.isDigit = true := hdigits c List.mem_cons_self
    rw [← scanDigits_append hdigits hrest, List.cons_append, scanSomeDigits]
    simp only [hc, if_true]

theorem scanWhole_append {digits : List Char} (hsome : digits ≠ [])
    (hdigits : ∀ c ∈ digits, c.isDigit = true) (hzero : digits.head? = some '0' → digits = ['0'])
    (hrest : ∀ c ∈ rest.head?, c.isDigit = false) :
    scanWhole (digits ++ rest) = .ok (digits, rest) := by
  have hscan := scanSomeDigits_append hsome hdigits hrest
  unfold scanWhole
  split
  · next c cs heq =>
    -- Behind a leading zero there is no digit.
    have hdigits : digits = ['0'] := by
      apply hzero
      cases digits with
      | nil => exact absurd rfl hsome
      | cons d digits => exact congrArg some (List.cons.inj heq).1
    subst hdigits
    obtain rfl := (List.cons.inj heq).2
    rw [hrest c rfl, if_neg Bool.false_ne_true]
  · exact hscan

theorem isDigit_of_mem_toDigits {c : Char} (hc : c ∈ Nat.toDigits 10 n) : c.isDigit = true :=
  Nat.isDigit_of_mem_toDigits (by norm_num) le_rfl hc

theorem toDigits_eq_cons (n : ℕ) : ∃ c cs, Nat.toDigits 10 n = c :: cs ∧ c.isDigit = true := by
  obtain ⟨c, cs, hdigits⟩ := List.exists_cons_of_ne_nil (Nat.toDigits_ne_nil (n := n) (b := 10))
  refine ⟨c, cs, hdigits, isDigit_of_mem_toDigits (n := n) ?_⟩
  rw [hdigits]
  exact List.mem_cons_self

/-- The decimal digits of a number begin with a zero only if that is all. -/
theorem toDigits_eq_zero_of_head (h : (Nat.toDigits 10 n).head? = some '0') :
    Nat.toDigits 10 n = ['0'] := by
  induction n using Nat.strong_induction_on with
  | _ n ih =>
    rcases Nat.lt_or_ge n 10 with hn | hn
    · rw [Nat.toDigits_of_lt_base hn] at h ⊢
      simpa using h
    · exfalso
      rw [Nat.toDigits_of_base_le (by norm_num) hn,
        List.head?_append_of_ne_nil _ Nat.toDigits_ne_nil]
        at h
      have hvalue := Nat.ofDigitChars_ten_toDigits (n := n / 10)
      rw [ih (n / 10) (by omega) h] at hvalue
      have hzero : Nat.ofDigitChars 10 ['0'] 0 = 0 := rfl
      omega

theorem scanExponent_none (h : EndsNumeral rest) : scanExponent rest = .ok (none, rest) := by
  cases rest with
  | nil => rfl
  | cons c rest =>
    obtain ⟨_, hlower, hupper⟩ := h c rfl
    simp [scanExponent, hlower, hupper, pure, Except.pure]

/-- A point stands in front of the digits if there are any. -/
def fractionChars (fraction : List Char) : List Char :=
  if fraction = [] then [] else '.' :: fraction

theorem head_fractionChars {c : Char} (fraction : List Char)
    (hrest : ∀ c ∈ rest.head?, c.isDigit = false)
    (hc : c ∈ (fractionChars fraction ++ rest).head?) :
    c.isDigit = false := by
  unfold fractionChars at hc
  split at hc
  · exact hrest c hc
  · obtain rfl := Option.some.inj hc
    rfl

theorem scanFraction_fractionChars {fraction : List Char}
    (hdigits : ∀ c ∈ fraction, c.isDigit = true) (hrest : ∀ c ∈ rest.head?, c.isDigit = false)
    (hpoint : fraction = [] → rest.head? ≠ some '.') :
    scanFraction (fractionChars fraction ++ rest) = .ok (fraction, rest) := by
  unfold fractionChars
  split
  · next hnil =>
    rw [List.nil_append, hnil]
    unfold scanFraction
    split
    · exact absurd rfl (hpoint hnil)
    · rfl
  · next hsome => rw [List.cons_append, scanFraction, scanSomeDigits_append hsome hdigits hrest]

/-- The exponent is scanned into its sign and the digits of its magnitude. -/
theorem scanExponent_exponentChars (e : ℤ) (hrest : ∀ c ∈ rest.head?, c.isDigit = false) :
    scanExponent (Scaled.exponentChars e ++ rest) =
      .ok (some ⟨decide (e < 0), Nat.toDigits 10 e.natAbs⟩, rest) := by
  have hdigits (n : ℕ) : scanSomeDigits (Nat.toDigits 10 n ++ rest) =
      .ok (Nat.toDigits 10 n, rest) :=
    scanSomeDigits_append Nat.toDigits_ne_nil (fun _ => isDigit_of_mem_toDigits) hrest
  cases e with
  | ofNat n =>
    simp [scanExponent, Scaled.exponentChars, hdigits, bind, Except.bind, pure, Except.pure]
  | negSucc n =>
    simp [scanExponent, Scaled.exponentChars, hdigits, bind, Except.bind, pure, Except.pure]

theorem scanMagnitude_append (negative : Bool) {whole fraction cs cs' : List Char}
    {exponent : Option Exponent} (hwhole : whole ≠ []) (hdigits : ∀ c ∈ whole, c.isDigit = true)
    (hzero : whole.head? = some '0' → whole = ['0']) (hcs : ∀ c ∈ cs.head?, c.isDigit = false)
    (hfraction : scanFraction cs = .ok (fraction, cs'))
    (hexponent : scanExponent cs' = .ok (exponent, rest)) :
    scanMagnitude negative (whole ++ cs) = .ok (⟨negative, whole, fraction, exponent⟩, rest) := by
  simp only [scanMagnitude, scanWhole_append hwhole hdigits hzero hcs, hfraction, hexponent, bind,
    Except.bind, pure, Except.pure]

namespace Number

/-! ## The value of digits and a point -/

theorem le_ofDigitChars (digits : List Char) (significand : ℕ) :
    significand ≤ Nat.ofDigitChars 10 digits significand := by
  induction digits generalizing significand with
  | nil => exact le_rfl
  | cons c digits ih =>
    rw [Nat.ofDigitChars_cons]
    exact le_trans (by omega) (ih _)

/-- All digits are gathered if the number that they write has no more than 64 bits. -/
theorem gather_eq {digits : List Char} {significand : ℕ}
    (h : Nat.ofDigitChars 10 digits significand ≤ maxSignificand) :
    gather significand digits = (Nat.ofDigitChars 10 digits significand, []) := by
  induction digits generalizing significand with
  | nil => rfl
  | cons c digits ih =>
    rw [Nat.ofDigitChars_cons] at h ⊢
    have hnext : 10 * significand + digitValue c ≤ maxSignificand := (le_ofDigitChars _ _).trans h
    rw [gather, if_pos hnext]
    exact ih h

/-- Every place behind the point lowers the exponent by one. -/
theorem ofNumeral?_floating (negative : Bool) (whole fraction : List Char)
    (exponent : Option Exponent) (hform : fraction ≠ [] ∨ exponent ≠ none)
    (h : Nat.ofDigitChars 10 (whole ++ fraction) 0 ≤ maxSignificand) :
    ofNumeral? ⟨negative, whole, fraction, exponent⟩ =
      (floating? negative (Nat.ofDigitChars 10 (whole ++ fraction) 0) (-(fraction.length : ℤ))
        exponent).map .floating := by
  rw [Nat.ofDigitChars_append] at h ⊢
  have hwhole := gather_eq ((le_ofDigitChars fraction _).trans h)
  have hinteger : ¬(([] : List Char).isEmpty = true ∧ fraction.isEmpty = true ∧
      exponent.isNone = true) := by
    rw [List.isEmpty_iff, List.isEmpty_iff, Option.isNone_iff_eq_none]
    tauto
  simp only [ofNumeral?, hwhole, gather_eq h, if_neg hinteger, List.length_nil, Nat.sub_zero,
    Nat.cast_zero, zero_sub]

theorem floating?_exponent (negative : Bool) (c : ℕ) (k : ℤ) {e : ℤ} (he : e.natAbs ≤ maxExponent) :
    floating? negative c k (some ⟨decide (e < 0), Nat.toDigits 10 e.natAbs⟩) =
      (scaled? c (k + e)).map (withSign negative) := by
  rw [floating?]
  dsimp only
  rw [Nat.ofDigitChars_ten_toDigits, if_neg (Nat.not_lt.2 he)]
  split
  · next hneg =>
    have : k - e.natAbs = k + e := by
      have := of_decide_eq_true hneg
      omega
    rw [this]
  · next hneg =>
    have : k + e.natAbs = k + e := by
      have := of_decide_eq_false (Bool.eq_false_of_not_eq_true hneg)
      omega
    rw [this]

theorem toSingle_floating (x : Double) : (floating x).toSingle = x.convert .binary32 := rfl

theorem convert_withSign {x : Double} {t : ℕ} (hx : (x.convert .binary32).HasQuanta t)
    (negative : Bool) (h : binary32.Representable t) :
    (withSign negative x).convert .binary32 = .finite negative t h := by
  obtain ⟨_, heq⟩ := hx
  cases x with
  | nan s p hp => cases heq
  | infinite s => cases heq
  | finite s a ha =>
    rw [withSign]
    rw [Binary.convert, Binary.ofQuotient, Binary.ofQuanta] at heq ⊢
    split at heq
    · next hrep =>
      obtain ⟨rfl, rfl⟩ := Binary.finite.inj heq
      rw [dif_pos hrep, Bool.false_xor]
    · cases heq

end Number

/-! ## Reading a numeral -/

/-- The text of a numeral, without a sign, that is evaluated to `x`. -/
structure Denotes (text : List Char) (x : Double) : Prop where
  digit : ∃ c cs, text = c :: cs ∧ c.isDigit = true
  scan : ∀ negative rest, EndsNumeral rest → ∃ n,
    scanMagnitude negative (text ++ rest) = .ok (n, rest) ∧
      Number.ofNumeral? n = some (.floating (Number.withSign negative x))

theorem scanNumeral_digit (negative : Bool) {c : Char} (hc : c.isDigit = true) (cs : List Char) :
    scanNumeral ((if negative then ['-'] else []) ++ c :: cs) =
      scanMagnitude negative (c :: cs) := by
  cases negative with
  | true => rfl
  | false =>
    rw [if_neg Bool.false_ne_true, List.nil_append]
    unfold scanNumeral
    split
    · next heq =>
      -- A digit is not a minus sign.
      obtain rfl := (List.cons.inj heq).1
      cases hc
    · rfl

theorem readSingle_eq {c : Char} {cs : List Char} (h : c = '-' ∨ c.isDigit = true) :
    readSingle (c :: cs) = (scanNumber (c :: cs)).map fun (x, rest) => (x.toSingle, rest) := by
  have hblank : isBlank c = false := by
    rcases h with rfl | h
    · rfl
    · by_contra hblank
      rw [Bool.not_eq_false, isBlank] at hblank
      simp only [Bool.or_eq_true, decide_eq_true_eq, or_assoc] at hblank
      rcases hblank with rfl | rfl | rfl | rfl <;> cases h
  rw [readSingle, skipBlank_of_not_isBlank hblank]
  dsimp only
  rw [if_pos h]

namespace Denotes

variable {text : List Char} {x : Double}

theorem scanNumber (h : Denotes text x) (negative : Bool) (hrest : EndsNumeral rest) :
    scanNumber ((if negative then ['-'] else []) ++ (text ++ rest)) =
      .ok (.floating (Number.withSign negative x), rest) := by
  obtain ⟨n, hscan, hvalue⟩ := h.scan negative rest hrest
  obtain ⟨c, cs, rfl, hc⟩ := h.digit
  rw [List.cons_append] at hscan ⊢
  rw [Json.scanNumber, scanNumeral_digit negative hc, hscan]
  simp only [bind, Except.bind, hvalue, pure, Except.pure]

theorem readSingle (h : Denotes text x) (negative : Bool) (hrest : EndsNumeral rest) :
    readSingle ((if negative then ['-'] else []) ++ (text ++ rest)) =
      .ok ((Number.withSign negative x).convert .binary32, rest) := by
  have hscan := h.scanNumber negative hrest
  have hread : Json.readSingle ((if negative then ['-'] else []) ++ (text ++ rest)) =
      (Json.scanNumber ((if negative then ['-'] else []) ++ (text ++ rest))).map
        fun (x, rest) => (x.toSingle, rest) := by
    cases negative with
    | true => exact readSingle_eq (.inl rfl)
    | false =>
      obtain ⟨c, cs, rfl, hc⟩ := h.digit
      exact readSingle_eq (.inr hc)
  rw [hread, hscan, Except.map]
  dsimp only
  rw [Number.toSingle_floating]

end Denotes

/-- The digits behind the point are as many as there are places, with zeros in front. -/
theorem fixed_digits (places units : ℕ) :
    ∃ fraction, fraction.length = places + 1 ∧ (∀ c ∈ fraction, c.isDigit = true) ∧
      (⟨false, units⟩ : Fixed (places + 1)).toChars =
        Nat.toDigits 10 (units / 10 ^ (places + 1)) ++ '.' :: fraction ∧
      Nat.ofDigitChars 10 (Nat.toDigits 10 (units / 10 ^ (places + 1)) ++ fraction) 0 = units := by
  obtain ⟨fraction, hfraction⟩ : ∃ fraction, fraction = List.leftpad (places + 1) '0'
    (Nat.toDigits 10 (units % 10 ^ (places + 1))) := ⟨_, rfl⟩
  have hshort : (Nat.toDigits 10 (units % 10 ^ (places + 1))).length ≤ places + 1 :=
    (Nat.length_toDigits_le_iff (by norm_num) (Nat.succ_pos _)).2 (Nat.mod_lt _ (by positivity))
  have hlength : fraction.length = places + 1 := by
    rw [hfraction, List.length_leftpad]
    exact max_eq_left hshort
  refine ⟨fraction, hlength, ?_, ?_, ?_⟩
  · intro c hc
    rw [hfraction, List.leftpad, List.mem_append] at hc
    rcases hc with hc | hc
    · rw [List.eq_of_mem_replicate hc]
      rfl
    · exact isDigit_of_mem_toDigits hc
  · rw [hfraction, Fixed.toChars, if_neg Bool.false_ne_true, List.nil_append, Nat.pow_eq]
  · rw [Nat.ofDigitChars_append, Nat.ofDigitChars_ten_toDigits,
      Nat.ofDigitChars_eq_ofDigitChars_zero,
      hlength, hfraction, List.leftpad, Nat.ofDigitChars_append, Nat.ofDigitChars_replicate_zero,
      Nat.mul_zero, Nat.ofDigitChars_ten_toDigits]
    exact Nat.div_add_mod units _

/-- A numeral with places, an exponent or both stands for what its digits and its exponent make. -/
theorem denotes_of_parts {whole fraction tail : List Char} {exponent : Option Exponent} {x : Double}
    (hwhole : whole ≠ []) (hdigits : ∀ c ∈ whole ++ fraction, c.isDigit = true)
    (hzero : whole.head? = some '0' → whole = ['0']) (hform : fraction ≠ [] ∨ exponent ≠ none)
    (htail : ∀ rest, EndsNumeral rest → scanExponent (tail ++ rest) = .ok (exponent, rest) ∧
      (∀ c ∈ (tail ++ rest).head?, c.isDigit = false) ∧
      (fraction = [] → (tail ++ rest).head? ≠ some '.'))
    (hmax : Nat.ofDigitChars 10 (whole ++ fraction) 0 ≤ Number.maxSignificand)
    (hvalue : ∀ negative, Number.floating? negative (Nat.ofDigitChars 10 (whole ++ fraction) 0)
      (-(fraction.length : ℤ)) exponent = some (Number.withSign negative x)) :
    Denotes (whole ++ (fractionChars fraction ++ tail)) x := by
  rw [List.forall_mem_append] at hdigits
  constructor
  · obtain ⟨c, cs, rfl⟩ := List.exists_cons_of_ne_nil hwhole
    exact ⟨c, _, rfl, hdigits.1 c List.mem_cons_self⟩
  · intro negative rest hrest
    obtain ⟨hexponent, hhead, hpoint⟩ := htail rest hrest
    refine ⟨⟨negative, whole, fraction, exponent⟩, ?_, ?_⟩
    · rw [List.append_assoc, List.append_assoc]
      exact scanMagnitude_append negative hwhole hdigits.1 hzero
        (fun _ => head_fractionChars fraction hhead)
        (scanFraction_fractionChars hdigits.2 hhead hpoint) hexponent
    · rw [Number.ofNumeral?_floating negative whole fraction exponent hform hmax, hvalue,
        Option.map_some]

/-- So many units of a decimal place stand for that decimal. -/
theorem denotes_fixed {places units : ℕ} {x : Double} (hunits : units ≤ Number.maxSignificand)
    (hx : Number.scaled? units (.negSucc places) = some x) :
    Denotes (⟨false, units⟩ : Fixed (places + 1)).toChars x := by
  obtain ⟨fraction, hlength, hdigits, htext, hvalue⟩ := fixed_digits places units
  have hnonempty : fraction ≠ [] := by
    rw [← List.length_pos_iff, hlength]
    exact Nat.succ_pos _
  have hchars : '.' :: fraction = fractionChars fraction ++ [] := by
    rw [fractionChars, if_neg hnonempty, List.append_nil]
  rw [htext, hchars]
  refine denotes_of_parts Nat.toDigits_ne_nil ?_ toDigits_eq_zero_of_head (.inl hnonempty)
    (fun rest hrest => ⟨scanExponent_none hrest, fun c hc => (hrest c hc).1,
      fun hnil => absurd hnil hnonempty⟩) (hvalue.le.trans hunits) fun negative => ?_
  · rw [List.forall_mem_append]
    exact ⟨fun _ => isDigit_of_mem_toDigits, hdigits⟩
  · have hexponent : -((places + 1 : ℕ) : ℤ) = .negSucc places := rfl
    rw [hvalue, hlength, hexponent, Number.floating?, hx, Option.map_some]

/-- A digit, the others behind a point and an exponent stand for the decimal. -/
theorem denotes_scientific {d : Scaled} {x : Double} (hc : d.coefficient ≤ Number.maxSignificand)
    (hmagnitude : d.magnitude.natAbs ≤ Number.maxExponent)
    (hx : Number.scaled? d.coefficient d.exponent = some x) : Denotes d.scientificChars x := by
  obtain ⟨c, cs, hdigits, -⟩ := toDigits_eq_cons d.coefficient
  have hvalue : Nat.ofDigitChars 10 ([c] ++ cs) 0 = d.coefficient := by
    rw [List.singleton_append, ← hdigits, Nat.ofDigitChars_ten_toDigits]
  have hexponent : -(cs.length : ℤ) + d.magnitude = d.exponent := by
    rw [Scaled.magnitude, hdigits, List.length_cons]
    push_cast
    ring
  have htext : d.scientificChars =
      [c] ++ (fractionChars cs ++ Scaled.exponentChars d.magnitude) := by
    rw [Scaled.scientificChars, hdigits]
    cases cs with
    | nil => rfl
    | cons c' cs => rfl
  have hletter (rest : List Char) :
      (Scaled.exponentChars d.magnitude ++ rest).head? = some 'e' := by
    cases d.magnitude <;> rfl
  rw [htext]
  refine denotes_of_parts (List.cons_ne_nil c []) ?_ ?_ (.inr (Option.some_ne_none _))
    (fun rest hrest => ⟨scanExponent_exponentChars d.magnitude fun c hc => (hrest c hc).1, ?_, ?_⟩)
    (hvalue.le.trans hc) fun negative => ?_
  · rw [List.singleton_append, ← hdigits]
    exact fun _ => isDigit_of_mem_toDigits
  · intro hzero
    rw [List.head?_cons] at hzero
    rw [Option.some.inj hzero]
  · intro c' hc'
    rw [hletter] at hc'
    obtain rfl := Option.some.inj hc'
    rfl
  · intro _
    rw [hletter]
    decide
  · rw [hvalue, Number.floating?_exponent negative _ _ hmagnitude, hexponent, hx, Option.map_some]

end HostStatus.Json
