import HostStatus.Settings
import Mathlib.Data.List.TakeWhile
import Mathlib.Data.Nat.Notation

/-!
# Ports in writing

`SpellsNumber` is the grammar of a port: white space, perhaps a plus sign, digits, white space.
Trimming takes just the white space away, as what it leaves has none at either end, so that a text
is a port exactly if it has that form, and then it is the port of its digits, however many zeros
they begin with.
-/

namespace HostStatus

open Text

variable {cs before middle after digits : List Char}

/-! ## Trimming -/

namespace Text

theorem trimStart_append (hbefore : ∀ c ∈ before, isBlank c = true)
    (hmiddle : ∀ c ∈ middle.head?, isBlank c = false) :
    trimStart (before ++ middle) = middle := by
  rw [trimStart, List.dropWhile_append_of_pos hbefore]
  cases middle with
  | nil => rfl
  | cons c middle => rw [List.dropWhile_cons_of_neg (by simp [hmiddle c rfl])]

theorem exists_trimStart (cs : List Char) :
    ∃ before, cs = before ++ trimStart cs ∧ ∀ c ∈ before, isBlank c = true :=
  ⟨cs.takeWhile isBlank, List.takeWhile_append_dropWhile.symm,
    fun _ hc => List.mem_takeWhile_imp hc⟩

theorem trimEnd_append (hafter : ∀ c ∈ after, isBlank c = true)
    (hmiddle : ∀ c ∈ middle.getLast?, isBlank c = false) :
    trimEnd (middle ++ after) = middle := by
  rw [trimEnd, List.reverse_append, trimStart_append, List.reverse_reverse]
  · exact fun c hc => hafter c (List.mem_reverse.1 hc)
  · rwa [List.head?_reverse]

theorem exists_trimEnd (cs : List Char) :
    ∃ after, cs = trimEnd cs ++ after ∧ ∀ c ∈ after, isBlank c = true := by
  obtain ⟨before, heq, hbefore⟩ := exists_trimStart cs.reverse
  refine ⟨before.reverse, ?_, fun c hc => hbefore c (List.mem_reverse.1 hc)⟩
  rw [trimEnd, ← List.reverse_append, ← heq, List.reverse_reverse]

/-- What neither begins nor ends with white space is left. -/
theorem trim_append (hbefore : ∀ c ∈ before, isBlank c = true)
    (hafter : ∀ c ∈ after, isBlank c = true) (hne : middle ≠ [])
    (hhead : ∀ c ∈ middle.head?, isBlank c = false)
    (hlast : ∀ c ∈ middle.getLast?, isBlank c = false) :
    trim (before ++ middle ++ after) = middle := by
  rw [trim, List.append_assoc, trimStart_append hbefore, trimEnd_append hafter hlast]
  obtain ⟨c, middle, rfl⟩ := List.exists_cons_of_ne_nil hne
  exact hhead

/-- Only white space is taken away. -/
theorem exists_trim (cs : List Char) :
    ∃ before after, cs = before ++ trim cs ++ after ∧ (∀ c ∈ before, isBlank c = true) ∧
      ∀ c ∈ after, isBlank c = true := by
  obtain ⟨before, hstart, hbefore⟩ := exists_trimStart cs
  obtain ⟨after, hend, hafter⟩ := exists_trimEnd (trimStart cs)
  refine ⟨before, after, ?_, hbefore, hafter⟩
  rw [trim, List.append_assoc, ← hend, ← hstart]

theorem isBlank_of_isDigit {c : Char} (h : c.isDigit = true) : isBlank c = false := by
  have hbounds : 48 ≤ c.toNat ∧ c.toNat ≤ 57 := by
    simpa [Char.isDigit, UInt32.le_iff_toNat_le] using h
  rw [isBlank, CharSet.contains, whiteSpace, List.any_eq_false]
  intro range hrange
  simp only [List.mem_cons, List.not_mem_nil, or_false] at hrange
  simp only [Bool.and_eq_true, decide_eq_true_eq]
  rcases hrange with rfl | rfl | rfl | rfl | rfl | rfl | rfl | rfl | rfl | rfl <;> omega

/-- White space can be told from a sign and digits. -/
theorem trim_sign_digits {sign : List Char} (hbefore : ∀ c ∈ before, isBlank c = true)
    (hafter : ∀ c ∈ after, isBlank c = true) (hsign : sign = [] ∨ sign = ['+'])
    (hne : digits ≠ []) (hdigits : ∀ c ∈ digits, c.isDigit = true) :
    trim (before ++ (sign ++ digits) ++ after) = sign ++ digits := by
  obtain ⟨d, rest, rfl⟩ := List.exists_cons_of_ne_nil hne
  apply trim_append hbefore hafter (by simp)
  · intro c hc
    rcases hsign with rfl | rfl
    · exact isBlank_of_isDigit (hdigits c (List.mem_of_mem_head? hc))
    · obtain rfl := Option.some.inj hc
      rfl
  · intro c hc
    have hlast : c ∈ (d :: rest).getLast? := by
      rcases hsign with rfl | rfl
      · exact hc
      · rwa [List.singleton_append, List.getLast?_cons_cons] at hc
    exact isBlank_of_isDigit (hdigits c (List.mem_of_getLast? hlast))

end Text

/-! ## The grammar -/

/-- The text is white space, perhaps a plus sign, the digits of a number and white space. -/
def SpellsNumber (text : String) (n : ℕ) : Prop :=
  ∃ before sign digits after : List Char,
    text.toList = before ++ (sign ++ digits) ++ after ∧
      (∀ c ∈ before, isBlank c = true) ∧ (∀ c ∈ after, isBlank c = true) ∧
      (sign = [] ∨ sign = ['+']) ∧ digits ≠ [] ∧ (∀ c ∈ digits, c.isDigit = true) ∧
      Nat.ofDigitChars 10 digits 0 = n

/-- The text spells a number that a port can have. -/
def IsPortText (text : String) : Prop :=
  ∃ n, SpellsNumber text n ∧ n ≤ 65535

namespace Port

theorem number_injective {p q : Port} (h : p.number = q.number) : p = q := by
  cases p
  cases q
  cases h
  rfl

theorem ofNat?_eq_some {n : ℕ} {p : Port} : ofNat? n = some p ↔ n = p.number := by
  unfold ofNat?
  split
  · next h =>
    constructor
    · rintro ⟨⟩
      rfl
    · rintro rfl
      rfl
  · next h =>
    refine iff_of_false nofun ?_
    rintro rfl
    exact h p.number_lt

theorem ofDigits?_eq_some {p : Port} :
    ofDigits? digits = some p ↔ digits ≠ [] ∧ (∀ c ∈ digits, c.isDigit = true) ∧
      Nat.ofDigitChars 10 digits 0 = p.number := by
  rw [← List.all_eq_true, ← and_assoc]
  unfold ofDigits?
  split
  · next h => rw [ofNat?_eq_some, and_iff_right h]
  · next h => exact iff_of_false nofun fun hp => h hp.1

theorem parse?_eq_some {text : String} {p : Port} :
    parse? text = some p ↔ SpellsNumber text p.number := by
  constructor
  · intro h
    obtain ⟨before, after, htext, hbefore, hafter⟩ := exists_trim text.toList
    unfold parse? at h
    split at h
    · next digits heq =>
      rw [heq] at htext
      exact ⟨before, ['+'], digits, after, htext, hbefore, hafter, .inr rfl,
        ofDigits?_eq_some.1 h⟩
    · exact ⟨before, [], _, after, htext, hbefore, hafter, .inl rfl, ofDigits?_eq_some.1 h⟩
  · rintro ⟨before, sign, digits, after, htext, hbefore, hafter, hsign, hdigits⟩
    have hport := ofDigits?_eq_some.2 hdigits
    have htrim := trim_sign_digits hbefore hafter hsign hdigits.1 hdigits.2.1
    rw [← htext] at htrim
    unfold parse?
    rcases hsign with rfl | rfl
    · split
      · next rest heq =>
        -- A plus sign is no digit.
        exfalso
        rw [htrim, List.nil_append] at heq
        have hplus := hdigits.2.1 '+' (heq ▸ List.mem_cons_self)
        cases hplus
      · rwa [htrim]
    · rw [htrim]
      exact hport

theorem isPortText_iff {text : String} : IsPortText text ↔ (parse? text).isSome = true := by
  rw [Option.isSome_iff_exists]
  constructor
  · rintro ⟨n, hspells, hn⟩
    exact ⟨⟨n, Nat.lt_succ_of_le hn⟩, parse?_eq_some.2 hspells⟩
  · rintro ⟨p, hp⟩
    exact ⟨p.number, parse?_eq_some.1 hp, Nat.le_of_lt_succ p.number_lt⟩

instance (text : String) : Decidable (IsPortText text) :=
  decidable_of_iff _ isPortText_iff.symm

end Port

end HostStatus
