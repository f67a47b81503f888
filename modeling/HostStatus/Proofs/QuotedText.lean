import HostStatus.Text.Quoted
import HostStatus.Text.Hexadecimal
import Mathlib.Data.Nat.Digits.Lemmas
import Mathlib.Tactic.IntervalCases

/-!
# Reading quoted text back

Quoted text holds printable characters only, so it has no control and no end of a line. A character
between the quotation marks stands there in one of three forms, and `readChar?` tells from the first
characters of a text which character that is and where the next one begins. Text therefore has no
two readings, whatever it looks like itself: what has the form of an escape was written with its
backslash escaped.

A quotation mark between the outer ones stands behind a backslash. That is enough to find the
opening mark in a longer text, if what comes before it does not end in a backslash.
-/

namespace HostStatus.Text

/-- The controls below the space and those above the printable part of ASCII. -/
def IsControl (c : Char) : Prop :=
  c.toNat < 0x20 ∨ 0x7f ≤ c.toNat ∧ c.toNat < 0xa0

/-- The characters that end a line: feeds of lines, tabulations and pages, the return, the next line
and the two separators. -/
def EndsLine (c : Char) : Prop :=
  0xa ≤ c.toNat ∧ c.toNat ≤ 0xd ∨ c.toNat = 0x85 ∨ c.toNat = 0x2028 ∨ c.toNat = 0x2029

def IsSingleLine (cs : List Char) : Prop :=
  ∀ c ∈ cs, ¬IsControl c ∧ ¬EndsLine c

variable {c d : Char} {cs ds s t : List Char}

/-! ## Printable characters -/

theorem not_isPrintable_of_mem {range : ℕ × ℕ} (h : range ∈ unprintable)
    (hfirst : range.1 ≤ c.toNat)
    (hlast : c.toNat ≤ range.2) : isPrintable c = false := by
  have hcontains : unprintable.contains c = true :=
    List.any_eq_true.2 ⟨range, h, by simp only [hfirst, hlast, decide_true, Bool.and_self]⟩
  rw [isPrintable, hcontains, Bool.not_true]

theorem not_isControl_of_isPrintable (h : isPrintable c = true) : ¬IsControl c := by
  intro hcontrol
  have hlow : (0x0, 0x1f) ∈ unprintable := by decide +kernel
  have hhigh : (0x7f, 0xa0) ∈ unprintable := by decide +kernel
  refine Bool.eq_false_iff.1 ?_ h
  rcases hcontrol with hc | ⟨hfirst, hlast⟩
  · exact not_isPrintable_of_mem hlow (Nat.zero_le _) (Nat.le_of_lt_succ hc)
  · exact not_isPrintable_of_mem hhigh hfirst hlast.le

theorem not_endsLine_of_isPrintable (h : isPrintable c = true) : ¬EndsLine c := by
  have hcontrol := not_isControl_of_isPrintable h
  have hseparators : (0x2028, 0x202f) ∈ unprintable := by decide +kernel
  have hseparator : ¬(0x2028 ≤ c.toNat ∧ c.toNat ≤ 0x202f) := fun ⟨hfirst, hlast⟩ =>
    Bool.eq_false_iff.1 (not_isPrintable_of_mem hseparators hfirst hlast) h
  unfold IsControl at hcontrol
  unfold EndsLine
  omega

theorem isSingleLine_of_isPrintable (h : ∀ c ∈ cs, isPrintable c = true) : IsSingleLine cs :=
  fun c hc => ⟨not_isControl_of_isPrintable (h c hc), not_endsLine_of_isPrintable (h c hc)⟩

theorem isSingleLine_of_ascii
    (h : (cs.all fun c => decide (0x20 ≤ c.toNat ∧ c.toNat < 0x7f)) = true) : IsSingleLine cs := by
  intro c hc
  have hbounds : 0x20 ≤ c.toNat ∧ c.toNat < 0x7f := of_decide_eq_true (List.all_eq_true.1 h c hc)
  unfold IsControl EndsLine
  omega

theorem isSingleLine_append :
    IsSingleLine (cs ++ ds) ↔ IsSingleLine cs ∧ IsSingleLine ds :=
  List.forall_mem_append

theorem isPrintable_of_ascii (hfirst : 0x20 ≤ c.toNat) (hlast : c.toNat < 0x7f) :
    isPrintable c = true := by
  have hoff : ∀ range ∈ unprintable, range.2 < 0x20 ∨ 0x7f ≤ range.1 := by decide +kernel
  rw [isPrintable, Bool.not_eq_true']
  refine Bool.eq_false_iff.2 fun h => ?_
  obtain ⟨range, hrange, hc⟩ := List.any_eq_true.1 h
  rw [Bool.and_eq_true, decide_eq_true_eq, decide_eq_true_eq] at hc
  have := hoff range hrange
  omega

theorem hexadecimal_digitChar {n : ℕ} (h : n < 16) :
    0x20 ≤ (Nat.digitChar n).toNat ∧ (Nat.digitChar n).toNat < 0x7f ∧ Nat.digitChar n ≠ '}' ∧
      Nat.digitChar n ≠ '"' ∧ hexValue? (Nat.digitChar n) = some n := by
  interval_cases n <;> decide

theorem exists_digitChar_of_mem_toDigits {n : ℕ} (h : c ∈ Nat.toDigits 16 n) :
    ∃ k < 16, c = Nat.digitChar k := by
  induction n using Nat.strong_induction_on with
  | _ n ih =>
    rcases Nat.lt_or_ge n 16 with hn | hn
    · rw [Nat.toDigits_of_lt_base hn, List.mem_singleton] at h
      exact ⟨n, hn, h⟩
    · rw [Nat.toDigits_of_base_le (by decide) hn, List.mem_append, List.mem_singleton] at h
      rcases h with h | h
      · exact ih (n / 16) (Nat.div_lt_self (by omega) (by decide)) h
      · exact ⟨n % 16, Nat.mod_lt n (by decide), h⟩

namespace Quoted

/-! ## One character -/

/-- The characters that have an escape of their own, with what stands behind the backslash. -/
def letters : List (Char × Char) :=
  [('"', '"'), ('\\', '\\'), ('\n', 'n'), ('\r', 'r'), ('\t', 't'), ('\x00', '0')]

/-- The texts that can stand for a character. -/
inductive Form : Char → List Char → Prop
  | itself {c : Char} (hprintable : isPrintable c = true) (hquote : c ≠ '"') (hslash : c ≠ '\\') :
      Form c [c]
  | letter {c l : Char} (h : (c, l) ∈ letters) : Form c ['\\', l]
  | codePoint {c : Char} : Form c ('\\' :: 'u' :: '\x7b' :: Nat.toDigits 16 c.toNat ++ ['\x7d'])

theorem form_encodeChar (c : Char) : Form c (encodeChar c) := by
  unfold encodeChar
  split
  case h_7 hquote hslash _ _ _ _ =>
    split
    case isTrue h => exact .itself h hquote hslash
    case isFalse => exact .codePoint
  all_goals exact .letter (by decide)

theorem Form.isPrintable_of_mem (h : Form c cs) (hd : d ∈ cs) : isPrintable d = true := by
  cases h with
  | itself hprintable =>
    rw [List.mem_singleton.1 hd]
    exact hprintable
  | letter hl =>
    have hletters : ∀ pair ∈ letters, 0x20 ≤ pair.2.toNat ∧ pair.2.toNat < 0x7f := by
      unfold letters
      decide
    rcases List.mem_pair.1 hd with rfl | rfl
    · exact isPrintable_of_ascii (by decide) (by decide)
    · obtain ⟨hfirst, hlast⟩ := hletters _ hl
      exact isPrintable_of_ascii hfirst hlast
  | codePoint =>
    rcases List.mem_append.1 hd with hd | hd
    · simp only [List.mem_cons] at hd
      rcases hd with rfl | rfl | rfl | hd
      · exact isPrintable_of_ascii (by decide) (by decide)
      · exact isPrintable_of_ascii (by decide) (by decide)
      · exact isPrintable_of_ascii (by decide) (by decide)
      · obtain ⟨k, hk, rfl⟩ := exists_digitChar_of_mem_toDigits hd
        obtain ⟨hfirst, hlast, -⟩ := hexadecimal_digitChar hk
        exact isPrintable_of_ascii hfirst hlast
    · rw [List.mem_singleton.1 hd]
      exact isPrintable_of_ascii (by decide) (by decide)

/-! ## Reading one character -/

/-- The number whose hexadecimal digits come after those of `n`, up to the closing brace. -/
def readCodePoint? (n : ℕ) : List Char → Option (ℕ × List Char)
  | [] => none
  | c :: cs =>
    if c = '\x7d' then some (n, cs)
    else hexValue? c >>= fun digit => readCodePoint? (16 * n + digit) cs

/-- The character that a text begins with, and the text behind it. -/
def readChar? : List Char → Option (Char × List Char)
  | '\\' :: 'u' :: '\x7b' :: cs =>
    (readCodePoint? 0 cs).map fun (n, rest) => (Char.ofNat n, rest)
  | '\\' :: l :: cs => (letters.find? (·.2 = l)).map fun pair => (pair.1, cs)
  | c :: cs => some (c, cs)
  | [] => none

theorem readCodePoint?_digitChar {n k : ℕ} (h : k < 16) :
    readCodePoint? n (Nat.digitChar k :: cs) = readCodePoint? (16 * n + k) cs := by
  obtain ⟨-, -, hbrace, -, hvalue⟩ := hexadecimal_digitChar h
  rw [readCodePoint?, if_neg hbrace, hvalue]
  rfl

theorem readCodePoint?_toDigits (n : ℕ) (cs : List Char) :
    readCodePoint? 0 (Nat.toDigits 16 n ++ cs) = readCodePoint? n cs := by
  induction n using Nat.strong_induction_on generalizing cs with
  | _ n ih =>
    rcases Nat.lt_or_ge n 16 with hn | hn
    · rw [Nat.toDigits_of_lt_base hn, List.singleton_append, readCodePoint?_digitChar hn,
        Nat.mul_zero, Nat.zero_add]
    · rw [Nat.toDigits_of_base_le (by decide) hn, List.append_assoc,
        ih (n / 16) (Nat.div_lt_self (by omega) (by decide)), List.singleton_append,
        readCodePoint?_digitChar (Nat.mod_lt n (by decide)), Nat.div_add_mod]

theorem readChar?_itself (h : c ≠ '\\') : readChar? (c :: cs) = some (c, cs) := by
  rw [readChar?]
  · exact fun _ hc => absurd hc h
  · exact fun _ _ hc => absurd hc h

theorem readChar?_letter (h : d ≠ 'u') :
    readChar? ('\\' :: d :: cs) =
      (letters.find? (·.2 = d)).map fun pair => (pair.1, cs) := by
  rw [readChar?]
  exact fun _ hd => absurd hd h

theorem Form.readChar?_append (h : Form c cs) (rest : List Char) :
    readChar? (cs ++ rest) = some (c, rest) := by
  cases h with
  | itself _ _ hslash => exact readChar?_itself hslash
  | letter hl =>
    have hletters : ∀ pair ∈ letters, pair.2 ≠ 'u' ∧ letters.find? (·.2 = pair.2) = some pair := by
      decide
    obtain ⟨hu, hfound⟩ := hletters _ hl
    change readChar? ('\\' :: _ :: rest) = _
    rw [readChar?_letter hu, hfound]
    rfl
  | codePoint =>
    change (readCodePoint? 0 (Nat.toDigits 16 c.toNat ++ ['\x7d'] ++ rest)).map _ = _
    rw [List.append_assoc, readCodePoint?_toDigits, List.singleton_append, readCodePoint?,
      if_pos rfl, Option.map_some]
    dsimp only
    rw [Char.ofNat_toNat]

theorem encodeChar_append_injective (h : encodeChar c ++ s = encodeChar d ++ t) :
    c = d ∧ s = t := by
  have hc := (form_encodeChar c).readChar?_append s
  rw [h, (form_encodeChar d).readChar?_append t] at hc
  cases hc
  exact ⟨rfl, rfl⟩

/-! ## Text between quotation marks -/

theorem Form.quote_not_mem_codePoint :
    '"' ∉ '\\' :: 'u' :: '\x7b' :: Nat.toDigits 16 c.toNat ++ ['\x7d'] := by
  intro h
  rcases List.mem_append.1 h with h | h
  · simp only [List.mem_cons] at h
    rcases h with h | h | h | h
    · cases h
    · cases h
    · cases h
    · obtain ⟨k, hk, hquote⟩ := exists_digitChar_of_mem_toDigits h
      obtain ⟨-, -, -, hne, -⟩ := hexadecimal_digitChar hk
      exact hne hquote.symm
  · cases List.mem_singleton.1 h

/-- A quotation mark within the text of a character is the end of its escape. -/
theorem Form.exists_eq_append_slash (h : Form c cs) {p q : List Char} (hcs : cs = p ++ '"' :: q) :
    ∃ p', p = p' ++ ['\\'] := by
  cases h with
  | itself _ hquote =>
    cases p with
    | nil => exact absurd (List.cons.inj hcs).1 hquote
    | cons x p => cases p <;> cases hcs
  | letter =>
    cases p with
    | nil => exact absurd (List.cons.inj hcs).1 (by decide)
    | cons x p =>
      obtain ⟨hx, hrest⟩ := List.cons.inj hcs
      cases p with
      | nil => exact ⟨[], by rw [← hx, List.nil_append]⟩
      | cons y p => cases p <;> cases hrest
  | codePoint =>
    have hmem : '"' ∈ p ++ '"' :: q := List.mem_append_right p List.mem_cons_self
    rw [← hcs] at hmem
    exact absurd hmem quote_not_mem_codePoint

theorem exists_eq_append_slash {p q : List Char} (h : cs.flatMap encodeChar = p ++ '"' :: q) :
    ∃ p', p = p' ++ ['\\'] := by
  induction cs generalizing p with
  | nil => exact absurd h.symm (List.append_ne_nil_of_right_ne_nil p (List.cons_ne_nil _ _))
  | cons c cs ih =>
    rw [List.flatMap_cons, List.append_eq_append_iff] at h
    rcases h with ⟨p', rfl, hrest⟩ | ⟨r, hfirst, hrest⟩
    · obtain ⟨p'', rfl⟩ := ih hrest
      exact ⟨encodeChar c ++ p'', (List.append_assoc ..).symm⟩
    · cases r with
      | nil =>
        obtain ⟨p', hp'⟩ := ih (p := []) hrest.symm
        exact absurd hp'.symm (List.append_ne_nil_of_right_ne_nil p' (List.cons_ne_nil _ _))
      | cons x r =>
        obtain ⟨rfl, -⟩ := List.cons.inj hrest
        exact (form_encodeChar c).exists_eq_append_slash hfirst

theorem flatMap_encodeChar_eq_nil : cs.flatMap encodeChar = [] ↔ cs = [] := by
  cases cs with
  | nil => exact iff_of_true rfl rfl
  | cons c cs =>
    refine iff_of_false (fun h => ?_) (List.cons_ne_nil c cs)
    rw [List.flatMap_cons, List.append_eq_nil_iff] at h
    have hread := (form_encodeChar c).readChar?_append []
    rw [h.1] at hread
    cases hread

theorem flatMap_encodeChar_injective (h : cs.flatMap encodeChar = ds.flatMap encodeChar) :
    cs = ds := by
  induction cs generalizing ds with
  | nil => exact (flatMap_encodeChar_eq_nil.1 h.symm).symm
  | cons c cs ih =>
    cases ds with
    | nil => exact flatMap_encodeChar_eq_nil.1 h
    | cons d ds =>
      obtain ⟨rfl, hrest⟩ := encodeChar_append_injective h
      rw [ih hrest]

theorem isPrintable_of_mem_encode (h : d ∈ encode cs) : isPrintable d = true := by
  have hquote : isPrintable '"' = true := isPrintable_of_ascii (by decide) (by decide)
  rcases List.mem_append.1 h with h | h
  · rcases List.mem_cons.1 h with rfl | h
    · exact hquote
    · obtain ⟨c, -, hd⟩ := List.mem_flatMap.1 h
      exact (form_encodeChar c).isPrintable_of_mem hd
  · rw [List.mem_singleton.1 h]
    exact hquote

/-- The opening quotation mark of the second text is none within the first one, since those stand
behind a backslash. -/
theorem eq_of_append_encode_eq {r : List Char} (ht : (s ++ r).getLast? ≠ some '\\')
    (h : '"' :: cs.flatMap encodeChar = r ++ '"' :: ds.flatMap encodeChar) : r = [] ∧ cs = ds := by
  cases r with
  | nil => exact ⟨rfl, flatMap_encodeChar_injective (List.cons.inj h).2⟩
  | cons x r =>
    -- the opening mark of the second text would be a mark within the first
    obtain ⟨p, rfl⟩ := exists_eq_append_slash (List.cons.inj h).2
    refine absurd ?_ ht
    rw [← List.cons_append, ← List.append_assoc, List.getLast?_concat]

/-- What comes before quoted text and the text itself are told apart, whatever they hold, if the
former does not end in a backslash. -/
theorem append_encode_injective (hs : s.getLast? ≠ some '\\') (ht : t.getLast? ≠ some '\\')
    (h : s ++ encode cs = t ++ encode ds) : s = t ∧ cs = ds := by
  have h : s ++ '"' :: cs.flatMap encodeChar = t ++ '"' :: ds.flatMap encodeChar := by
    rw [encode, encode, ← List.append_assoc, ← List.append_assoc] at h
    exact List.append_cancel_right h
  rcases List.append_eq_append_iff.1 h with ⟨r, rfl, hr⟩ | ⟨r, rfl, hr⟩
  · obtain ⟨rfl, hcs⟩ := eq_of_append_encode_eq ht hr
    exact ⟨(List.append_nil s).symm, hcs⟩
  · obtain ⟨rfl, hcs⟩ := eq_of_append_encode_eq hs hr
    exact ⟨List.append_nil t, hcs.symm⟩

end Quoted

end HostStatus.Text
