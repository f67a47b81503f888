import HostStatus.Proofs.JsonGrammar

/-!
# Strings that need not be read

A string that nobody reads is looked at one escape at a time, so that the two halves of a surrogate
pair may stand alone. `exists_passedString` and `exists_spellsString` give back the text that was
passed over or read. Whether such a string can be read does not depend on what follows it.
-/

namespace HostStatus.Json

variable {c : Char} {cs text rest : List Char}

/-! ## Strings that are passed over -/

/-- One character as it is written, or half of one. -/
inductive PassedChar : List Char → Prop where
  | plain {c : Char} (hquote : c ≠ '"') (hslash : c ≠ '\\') (hcontrol : 0x20 ≤ c.toNat) :
      PassedChar [c]
  | letter {e : Char} (he : (simpleEscape? e).isSome = true) : PassedChar ['\\', e]
  | numbered {a b d e : Char} (hn : (hexQuad? a b d e).isSome = true) :
      PassedChar ['\\', 'u', a, b, d, e]

/-- What may stand between quotation marks. -/
inductive PassedString : List Char → Prop where
  | nil : PassedString []
  | cons {text rest : List Char} (hc : PassedChar text) (hcs : PassedString rest) :
      PassedString (text ++ rest)

theorem SpellsChar.passed (h : SpellsChar c text) (hrest : PassedString rest) :
    PassedString (text ++ rest) := by
  cases h with
  | plain hquote hslash hcontrol => exact .cons (.plain hquote hslash hcontrol) hrest
  | letter he => exact .cons (.letter (Option.isSome_of_eq_some he)) hrest
  | numbered hn => exact .cons (.numbered (Option.isSome_of_eq_some hn)) hrest
  | paired hn _ hm =>
    have htrailing := PassedString.cons (.numbered (Option.isSome_of_eq_some hm)) hrest
    have hboth := PassedString.cons (.numbered (Option.isSome_of_eq_some hn)) htrailing
    exact hboth

theorem SpellsString.passed (h : SpellsString cs text) : PassedString text := by
  induction h with
  | nil => exact .nil
  | cons hc _ ih => exact hc.passed ih

theorem skipString_plain (hquote : c ≠ '"') (hslash : c ≠ '\\') (hcontrol : 0x20 ≤ c.toNat)
    (cs : List Char) : skipString (c :: cs) = skipString cs := by
  rw [skipString.eq_def]
  split
  · next heq => cases heq
  · next heq => exact absurd (List.cons.inj heq).1 hquote
  · next heq => exact absurd (List.cons.inj heq).1 hslash
  · next heq => exact absurd (List.cons.inj heq).1 hslash
  · next heq => exact absurd (List.cons.inj heq).1 hslash
  · next heq => exact absurd (List.cons.inj heq).1 hslash
  · next heq =>
    obtain ⟨rfl, rfl⟩ := List.cons.inj heq
    exact if_neg (Nat.not_lt.2 hcontrol)

theorem PassedChar.skipString (h : PassedChar text) (rest : List Char) :
    skipString (text ++ rest) = skipString rest := by
  cases h with
  | plain hquote hslash hcontrol => exact skipString_plain hquote hslash hcontrol rest
  | letter he =>
    unfold simpleEscape? at he
    split at he <;> first | rfl | cases he
  | numbered hn => simp [Json.skipString, hn]

theorem PassedString.skipString (h : PassedString text) (rest : List Char) :
    skipString (text ++ '"' :: rest) = .ok rest := by
  induction h with
  | nil => rfl
  | cons hc hcs ih => rw [List.append_assoc, hc.skipString, ih]

theorem exists_passedString (h : skipString cs = .ok rest) :
    ∃ text, PassedString text ∧ cs = text ++ '"' :: rest := by
  fun_induction skipString cs with
  | case1 => cases h
  | case2 cs =>
    obtain rfl := Except.ok.inj h
    exact ⟨[], .nil, rfl⟩
  | case3 => cases h
  | case4 a b c d cs hn ih =>
    obtain ⟨text, htext, rfl⟩ := ih h
    exact ⟨_, .cons (.numbered hn) htext, rfl⟩
  | case5 => cases h
  | case6 => cases h
  | case7 c cs _ _ he ih =>
    obtain ⟨text, htext, rfl⟩ := ih h
    exact ⟨_, .cons (.letter he) htext, rfl⟩
  | case8 => cases h
  | case9 => cases h
  | case10 c cs hquote hend _ _ hescape hcontrol ih =>
    have hslash : c ≠ '\\' := fun hc => by
      cases cs with
      | nil => exact hend hc rfl
      | cons d cs => exact hescape d cs hc rfl
    obtain ⟨text, htext, rfl⟩ := ih h
    exact ⟨_, .cons (.plain hquote hslash (Nat.le_of_not_lt hcontrol)) htext, rfl⟩

/-! ## Strings that are read -/

theorem exists_of_consChar {read : Except ReadError (Scanned (List Char))} {s : List Char}
    (h : consChar c read = .ok (s, rest)) : ∃ s', s = c :: s' ∧ read = .ok (s', rest) := by
  cases read with
  | error e => cases h
  | ok scanned =>
    cases h
    exact ⟨_, rfl, rfl⟩

theorem exists_spellsString {s : List Char} (h : scanString cs = .ok (s, rest)) :
    ∃ text, SpellsString s text ∧ cs = text ++ '"' :: rest := by
  fun_induction scanString cs generalizing s with
  | case2 =>
    cases h
    exact ⟨[], .nil, rfl⟩
  | case9 a b c d n hn _ hleading e f g k cs m hm htrailing ih =>
    obtain ⟨s, rfl, hrest⟩ := exists_of_consChar h
    obtain ⟨text, htext, rfl⟩ := ih hrest
    exact ⟨_, .cons (.paired hn hleading hm htrailing) htext, rfl⟩
  | case13 a b c d cs n hn htrailing hleading ih =>
    obtain ⟨s, rfl, hrest⟩ := exists_of_consChar h
    obtain ⟨text, htext, rfl⟩ := ih hrest
    have hchar := SpellsChar.numbered hn (Bool.eq_false_of_not_eq_true hleading)
      (Bool.eq_false_of_not_eq_true htrailing)
    exact ⟨_, .cons hchar htext, rfl⟩
  | case15 c cs _ _ e he ih =>
    obtain ⟨s, rfl, hrest⟩ := exists_of_consChar h
    obtain ⟨text, htext, rfl⟩ := ih hrest
    exact ⟨_, .cons (.letter he) htext, rfl⟩
  | case18 c cs hquote hend _ _ hescape hcontrol ih =>
    have hslash : c ≠ '\\' := fun hc => by
      cases cs with
      | nil => exact hend hc rfl
      | cons d cs => exact hescape d cs hc rfl
    obtain ⟨s, rfl, hrest⟩ := exists_of_consChar h
    obtain ⟨text, htext, rfl⟩ := ih hrest
    exact ⟨_, .cons (.plain hquote hslash (Nat.le_of_not_lt hcontrol)) htext, rfl⟩
  | _ => cases h

/-- Either the string can be read, or it is refused whatever follows it. -/
def ReadOrRefused (text : List Char) : Prop :=
  (∃ s, SpellsString s text) ∨ ∀ rest, scanString (text ++ '"' :: rest) = .error .malformed

theorem ReadOrRefused.cons (hc : SpellsChar c text) (h : ReadOrRefused cs) :
    ReadOrRefused (text ++ cs) := by
  rcases h with ⟨s, hs⟩ | hrefused
  · exact .inl ⟨_, .cons hc hs⟩
  · refine .inr fun rest => ?_
    rw [List.append_assoc, hc.scanString, hrefused]
    rfl

/-- A leading surrogate is refused where no escape follows. -/
theorem scanString_leading {a b d e : Char} {n : ℕ} (hn : hexQuad? a b d e = some n)
    (hleading : isLeading n = true) (hslash : c ≠ '\\') (cs : List Char) :
    scanString ('\\' :: 'u' :: a :: b :: d :: e :: c :: cs) = .error .malformed := by
  simp [scanString, hn, hleading, isLeading_or_isTrailing hleading, hslash]

/-- A leading surrogate has to be followed by a trailing one. -/
theorem PassedChar.readOrRefused_leading {a b d e : Char} {n : ℕ} (hn : hexQuad? a b d e = some n)
    (hleading : isLeading n = true) (hc : PassedChar text) (h : ReadOrRefused cs) :
    ReadOrRefused (['\\', 'u', a, b, d, e] ++ (text ++ cs)) := by
  have hnot := isLeading_or_isTrailing hleading
  cases hc with
  | plain _ hslash => exact .inr fun rest => scanString_leading hn hleading hslash _
  | @letter c he =>
    have hu : c ≠ 'u' := by
      rintro rfl
      cases he
    refine .inr fun rest => ?_
    simp [scanString, hn, hleading, hnot, hu]
  | @numbered a' b' d' e' hm =>
    obtain ⟨m, hm⟩ := Option.isSome_iff_exists.1 hm
    cases htrailing : isTrailing m with
    | true =>
      have hread := h.cons (.paired hn hleading hm htrailing)
      exact hread
    | false =>
      refine .inr fun rest => ?_
      simp [scanString, hn, hleading, hnot, hm, htrailing]

/-- The second part is the invariant: a string is also looked at behind a leading surrogate. -/
theorem PassedString.readOrRefused_and (h : PassedString text) :
    ReadOrRefused text ∧ ∀ ⦃a b d e n⦄, hexQuad? a b d e = some n → isLeading n = true →
      ReadOrRefused (['\\', 'u', a, b, d, e] ++ text) := by
  induction h with
  | nil =>
    refine ⟨.inl ⟨[], .nil⟩, fun a b d e n hn hleading => .inr fun rest => ?_⟩
    exact scanString_leading hn hleading (by decide) rest
  | @cons _ cs hc _ ih =>
    refine ⟨?_, fun a b d e n hn hleading => hc.readOrRefused_leading hn hleading ih.1⟩
    cases hc with
    | plain hquote hslash hcontrol => exact ih.1.cons (.plain hquote hslash hcontrol)
    | letter he =>
      obtain ⟨c, hc⟩ := Option.isSome_iff_exists.1 he
      exact ih.1.cons (.letter hc)
    | @numbered a b d e hn =>
      obtain ⟨n, hn⟩ := Option.isSome_iff_exists.1 hn
      cases htrailing : isTrailing n with
      | true =>
        refine .inr fun rest => ?_
        simp [scanString, hn, htrailing]
      | false =>
        cases hleading : isLeading n with
        | true => exact ih.2 hn hleading
        | false => exact ih.1.cons (.numbered hn hleading htrailing)

/-- What is made of a string does not depend on what follows it. -/
theorem PassedString.scanString_append (h : PassedString text) (rest : List Char) :
    scanString (text ++ '"' :: rest) =
      (scanString (text ++ ['"'])).map fun (s, _) => (s, rest) := by
  rcases h.readOrRefused_and.1 with ⟨s, hs⟩ | hrefused
  · rw [hs.scanString, hs.scanString]
    rfl
  · rw [hrefused, hrefused]
    rfl

end HostStatus.Json
