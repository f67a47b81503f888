import HostStatus.Proofs.NumeralText

/-!
# Texts of JSON values

`Spells` relates a phrase, a JSON value or a part of one, to its texts. A character of a string may
stand for itself or be escaped in several ways, a numeral may be followed by an exponent in either
letter, and blanks may stand around every token. The compact text of a value is one of its texts.

The scanners take a string or a numeral off the front of what follows it, in whichever way it is
written, since a numeral ends where `Delimits` says.
-/

namespace HostStatus.Json

variable {c : Char} {cs text rest : List Char}

def Blanks (cs : List Char) : Prop :=
  ∀ c ∈ cs, isBlank c = true

theorem Blanks.nil : Blanks [] := by
  simp [Blanks]

/-! ## Strings -/

/-- The ways to write one character of a string. -/
inductive SpellsChar : Char → List Char → Prop where
  | plain {c : Char} (hquote : c ≠ '"') (hslash : c ≠ '\\') (hcontrol : 0x20 ≤ c.toNat) :
      SpellsChar c [c]
  | letter {c e : Char} (he : simpleEscape? e = some c) : SpellsChar c ['\\', e]
  | numbered {a b d e : Char} {n : ℕ} (hn : hexQuad? a b d e = some n)
      (hleading : isLeading n = false) (htrailing : isTrailing n = false) :
      SpellsChar (Char.ofNat n) ['\\', 'u', a, b, d, e]
  | paired {a b d e a' b' d' e' : Char} {n m : ℕ} (hn : hexQuad? a b d e = some n)
      (hleading : isLeading n = true) (hm : hexQuad? a' b' d' e' = some m)
      (htrailing : isTrailing m = true) :
      SpellsChar (Char.ofNat (0x10000 + (n - 0xd800) * 0x400 + (m - 0xdc00)))
        ['\\', 'u', a, b, d, e, '\\', 'u', a', b', d', e']

/-- What stands between the quotation marks of a string. -/
inductive SpellsString : List Char → List Char → Prop where
  | nil : SpellsString [] []
  | cons {c : Char} {cs text rest : List Char} (hc : SpellsChar c text)
      (hcs : SpellsString cs rest) : SpellsString (c :: cs) (text ++ rest)

theorem isLeading_or_isTrailing {n : ℕ} (h : isLeading n = true) : isTrailing n = false := by
  simp only [isLeading, isTrailing, Bool.and_eq_true, decide_eq_true_eq, Bool.and_eq_false_iff,
    decide_eq_false_iff_not] at h ⊢
  omega

theorem SpellsChar.scanString (h : SpellsChar c text) (rest : List Char) :
    scanString (text ++ rest) = consChar c (scanString rest) := by
  cases h with
  | plain hquote hslash hcontrol => exact scanString_plain hquote hslash hcontrol rest
  | letter he =>
    unfold simpleEscape? at he
    split at he <;> first | cases he; rfl | cases he
  | numbered hn hleading htrailing =>
    simp [Json.scanString, hn, hleading, htrailing]
  | paired hn hleading hm htrailing =>
    simp [Json.scanString, hn, hleading, isLeading_or_isTrailing hleading, hm, htrailing]

theorem SpellsString.scanString (h : SpellsString cs text) (rest : List Char) :
    scanString (text ++ '"' :: rest) = .ok (cs, rest) := by
  induction h with
  | nil => rfl
  | cons hc hcs ih =>
    rw [List.append_assoc, hc.scanString, ih]
    rfl

/-! ## Numerals -/

def Digits (digits : List Char) : Prop :=
  ∀ c ∈ digits, c.isDigit = true

theorem digits_of_all {digits : List Char} (h : digits.all Char.isDigit = true) : Digits digits :=
  fun c hc => List.all_eq_true.1 h c hc

/-- An exponent is written behind either letter, with a sign or without. -/
inductive SpellsExponent : Option Exponent → List Char → Prop where
  | none : SpellsExponent none []
  | some {letter : Char} {sign digits : List Char} (hletter : letter = 'e' ∨ letter = 'E')
      (hsign : sign = [] ∨ sign = ['+'] ∨ sign = ['-']) (hsome : digits ≠ [])
      (hdigits : Digits digits) :
      SpellsExponent (some ⟨decide (sign = ['-']), digits⟩) (letter :: (sign ++ digits))

/-- The digits before the point begin with a zero only if that is all. -/
structure SpellsNumeral (n : Numeral) (text : List Char) : Prop where
  whole_ne_nil : n.whole ≠ []
  whole : Digits n.whole
  zero : n.whole.head? = some '0' → n.whole = ['0']
  fraction : Digits n.fraction
  text_eq : ∃ tail, SpellsExponent n.exponent tail ∧
    text = (if n.negative then ['-'] else []) ++ (n.whole ++ (fractionChars n.fraction ++ tail))

/-- What may stand behind a value, blanks included. -/
def Delimits (rest : List Char) : Prop :=
  ∀ c ∈ rest.head?, c = ',' ∨ c = '}' ∨ c = ']' ∨ isBlank c = true

theorem isBlank_iff : isBlank c = true ↔ c = ' ' ∨ c = '\n' ∨ c = '\t' ∨ c = '\r' := by
  simp [isBlank, or_assoc]

theorem EndsValue.delimits (h : EndsValue rest) : Delimits rest := by
  intro c hc
  rcases h c hc with rfl | rfl | rfl <;> simp

theorem Delimits.append_blanks {blanks : List Char} (hblanks : Blanks blanks)
    (hrest : Delimits rest) : Delimits (blanks ++ rest) := by
  cases blanks with
  | nil => exact hrest
  | cons b blanks =>
    intro c hc
    obtain rfl := Option.some.inj hc
    exact .inr (.inr (.inr (hblanks b List.mem_cons_self)))

/-- No numeral goes on behind a value. -/
theorem Delimits.head (h : Delimits rest) (hc : c ∈ rest.head?) :
    c.isDigit = false ∧ c ≠ 'e' ∧ c ≠ 'E' ∧ c ≠ '.' := by
  rcases h c hc with rfl | rfl | rfl | hblank
  · decide
  · decide
  · decide
  · rcases isBlank_iff.1 hblank with rfl | rfl | rfl | rfl <;> decide

theorem SpellsExponent.head {exponent : Option Exponent} (h : SpellsExponent exponent text)
    (hrest : Delimits rest) (hc : c ∈ (text ++ rest).head?) : c.isDigit = false ∧ c ≠ '.' := by
  cases h with
  | none =>
    obtain ⟨hdigit, -, -, hpoint⟩ := hrest.head hc
    exact ⟨hdigit, hpoint⟩
  | some hletter =>
    obtain rfl := Option.some.inj hc
    rcases hletter with rfl | rfl <;> decide

theorem SpellsExponent.scan {exponent : Option Exponent} (h : SpellsExponent exponent text)
    (hrest : Delimits rest) : scanExponent (text ++ rest) = .ok (exponent, rest) := by
  cases h with
  | none =>
    exact scanExponent_none fun c hc =>
      ⟨(hrest.head hc).1, (hrest.head hc).2.1, (hrest.head hc).2.2.1⟩
  | @some letter sign digits hletter hsign hsome hdigits =>
    have hscan : scanSomeDigits (digits ++ rest) = .ok (digits, rest) :=
      scanSomeDigits_append hsome hdigits fun c hc => (hrest.head hc).1
    rw [List.cons_append, List.append_assoc, scanExponent]
    dsimp only
    rw [if_pos hletter]
    rcases hsign with rfl | rfl | rfl
    · obtain ⟨d, ds, rfl⟩ := List.exists_cons_of_ne_nil hsome
      have hd : d.isDigit = true := hdigits d List.mem_cons_self
      rw [List.nil_append]
      split
      · next heq => rw [(List.cons.inj heq).1] at hd; cases hd
      · next heq => rw [(List.cons.inj heq).1] at hd; cases hd
      · rw [hscan]
        rfl
    · simp only [List.singleton_append, hscan]
      rfl
    · simp only [List.singleton_append, hscan]
      rfl

theorem SpellsNumeral.scan {n : Numeral} (h : SpellsNumeral n text) (hrest : Delimits rest) :
    scanNumeral (text ++ rest) = .ok (n, rest) := by
  obtain ⟨tail, htail, rfl⟩ := h.text_eq
  have htailHead : ∀ c ∈ (tail ++ rest).head?, c.isDigit = false := fun c hc =>
    (htail.head hrest hc).1
  have hfraction : scanFraction (fractionChars n.fraction ++ (tail ++ rest)) =
      .ok (n.fraction, tail ++ rest) :=
    scanFraction_fractionChars h.fraction htailHead fun _ hpoint =>
      (htail.head hrest (c := '.') hpoint).2 rfl
  have hmagnitude := scanMagnitude_append n.negative h.whole_ne_nil h.whole h.zero
    (fun _ => head_fractionChars n.fraction htailHead) hfraction (htail.scan hrest)
  obtain ⟨c, cs, hwhole⟩ := List.exists_cons_of_ne_nil h.whole_ne_nil
  have hc : c.isDigit = true := h.whole c (by rw [hwhole]; exact List.mem_cons_self)
  rw [List.append_assoc, List.append_assoc, List.append_assoc]
  rw [hwhole, List.cons_append] at hmagnitude ⊢
  rw [scanNumeral_digit n.negative hc, hmagnitude, ← hwhole]

theorem SpellsNumeral.head {n : Numeral} (h : SpellsNumeral n text) :
    ∃ c cs, text = c :: cs ∧ (c = '-' ∨ c.isDigit = true) := by
  obtain ⟨tail, -, rfl⟩ := h.text_eq
  obtain ⟨c, cs, hwhole⟩ := List.exists_cons_of_ne_nil h.whole_ne_nil
  have hc : c.isDigit = true := h.whole c (by rw [hwhole]; exact List.mem_cons_self)
  rw [hwhole]
  cases n.negative with
  | true => exact ⟨'-', _, rfl, .inl rfl⟩
  | false => exact ⟨c, _, rfl, .inr hc⟩

/-! ## Values -/

/-- A value, or a part of one that has texts of its own. -/
inductive Phrase where
  | value (j : Json)
  | spaced (j : Json)
  | items (items : List Json)
  | member (key : String) (j : Json)
  | members (members : List (String × Json))

/-- The texts of a phrase. A spaced value has blanks around it, and there is at least one among
items and among members. -/
inductive Spells : Phrase → List Char → Prop where
  | null : Spells (.value .null) "null".toList
  | boolean (b : Bool) :
      Spells (.value (.boolean b)) (if b then "true".toList else "false".toList)
  | number {numeral : String} {n : Numeral} (hn : SpellsNumeral n numeral.toList) :
      Spells (.value (.number numeral)) numeral.toList
  | string {s : String} {text : List Char} (hs : SpellsString s.toList text) :
      Spells (.value (.string s)) ('"' :: (text ++ ['"']))
  | noItems {blanks : List Char} (hblanks : Blanks blanks) :
      Spells (.value (.array [])) ('[' :: (blanks ++ [']']))
  | array {items : List Json} {text : List Char} (hitems : Spells (.items items) text) :
      Spells (.value (.array items)) ('[' :: (text ++ [']']))
  | noMembers {blanks : List Char} (hblanks : Blanks blanks) :
      Spells (.value (.object [])) ('\x7b' :: (blanks ++ ['\x7d']))
  | object {members : List (String × Json)} {text : List Char}
      (hmembers : Spells (.members members) text) :
      Spells (.value (.object members)) ('\x7b' :: (text ++ ['\x7d']))
  | spaced {j : Json} {before text after : List Char} (hbefore : Blanks before)
      (hvalue : Spells (.value j) text) (hafter : Blanks after) :
      Spells (.spaced j) (before ++ (text ++ after))
  | lastItem {item : Json} {text : List Char} (hitem : Spells (.spaced item) text) :
      Spells (.items [item]) text
  | nextItem {item : Json} {items : List Json} {text rest : List Char}
      (hitem : Spells (.spaced item) text) (hitems : Spells (.items items) rest) :
      Spells (.items (item :: items)) (text ++ ',' :: rest)
  | member {key : String} {j : Json} {before quoted between text : List Char}
      (hbefore : Blanks before) (hkey : SpellsString key.toList quoted) (hbetween : Blanks between)
      (hvalue : Spells (.spaced j) text) :
      Spells (.member key j) (before ++ '"' :: (quoted ++ '"' :: (between ++ ':' :: text)))
  | lastMember {key : String} {j : Json} {text : List Char}
      (hmember : Spells (.member key j) text) :
      Spells (.members [(key, j)]) text
  | nextMember {key : String} {j : Json} {members : List (String × Json)} {text rest : List Char}
      (hmember : Spells (.member key j) text) (hmembers : Spells (.members members) rest) :
      Spells (.members ((key, j) :: members)) (text ++ ',' :: rest)

/-! ## Compact texts -/

/-- Keys are distinct within each object, and all numerals are numerals, of a kind. -/
inductive IsProper (accepts : Numeral → Prop) : Json → Prop where
  | null : IsProper accepts .null
  | boolean (b : Bool) : IsProper accepts (.boolean b)
  | number {numeral : String} {n : Numeral} (hn : SpellsNumeral n numeral.toList)
      (haccepts : accepts n) : IsProper accepts (.number numeral)
  | string (s : String) : IsProper accepts (.string s)
  | array {items : List Json} (hitems : ∀ item ∈ items, IsProper accepts item) :
      IsProper accepts (.array items)
  | object {members : List (String × Json)} (hkeys : (members.map Prod.fst).Nodup)
      (hmembers : ∀ member ∈ members, IsProper accepts member.2) :
      IsProper accepts (.object members)

theorem spellsChar_escapeChar (c : Char) : SpellsChar c (escapeChar c) := by
  unfold escapeChar
  split
  · exact .letter rfl
  · exact .letter rfl
  · exact .letter rfl
  · exact .letter rfl
  · exact .letter rfl
  · exact .letter rfl
  · exact .letter rfl
  · next hquote hslash _ _ _ _ _ =>
    split
    · next hcontrol =>
      have hnumbered := SpellsChar.numbered (hexQuad?_digitChar hcontrol)
        (by simp [isLeading]; omega) (by simp [isTrailing]; omega)
      rwa [Char.ofNat_toNat] at hnumbered
    · next hcontrol => exact .plain hquote hslash (Nat.le_of_not_lt hcontrol)

theorem spellsString_escaped (cs : List Char) : SpellsString cs (cs.flatMap escapeChar) := by
  induction cs with
  | nil => exact .nil
  | cons c cs ih =>
    rw [List.flatMap_cons]
    exact .cons (spellsChar_escapeChar c) ih

theorem Spells.unspaced {j : Json} (h : Spells (.value j) text) : Spells (.spaced j) text := by
  have hspaced := Spells.spaced .nil h .nil
  rwa [List.nil_append, List.append_nil] at hspaced

theorem spells_items {items : List Json} (hsome : items ≠ [])
    (h : ∀ item ∈ items, Spells (.value item) item.toChars) :
    Spells (.items items) (separated (itemTexts items)) := by
  induction items with
  | nil => exact absurd rfl hsome
  | cons item items ih =>
    rw [List.forall_mem_cons] at h
    cases items with
    | nil => exact .lastItem h.1.unspaced
    | cons next items => exact .nextItem h.1.unspaced (ih (List.cons_ne_nil _ _) h.2)

theorem spells_member {j : Json} (key : String) (h : Spells (.value j) j.toChars) :
    Spells (.member key j) (quoteChars key.toList ++ ':' :: j.toChars) := by
  have hmember := Spells.member .nil (spellsString_escaped key.toList) .nil h.unspaced
  rw [quoteChars, List.append_assoc, List.cons_append]
  exact hmember

theorem spells_members {members : List (String × Json)} (hsome : members ≠ [])
    (h : ∀ member ∈ members, Spells (.value member.2) member.2.toChars) :
    Spells (.members members) (separated (memberTexts members)) := by
  induction members with
  | nil => exact absurd rfl hsome
  | cons member members ih =>
    rw [List.forall_mem_cons] at h
    cases members with
    | nil => exact .lastMember (spells_member _ h.1)
    | cons next members => exact .nextMember (spells_member _ h.1) (ih (List.cons_ne_nil _ _) h.2)

/-- A value is spelled by its compact text. -/
theorem IsProper.spells {accepts : Numeral → Prop} {j : Json} (h : j.IsProper accepts) :
    Spells (.value j) j.toChars := by
  induction h with
  | null => exact .null
  | boolean b => exact .boolean b
  | number hn => exact .number hn
  | string s => exact .string (spellsString_escaped s.toList)
  | @array items hitems ih =>
    cases items with
    | nil => exact .noItems .nil
    | cons item items => exact .array (spells_items (List.cons_ne_nil _ _) ih)
  | @object members hkeys hmembers ih =>
    cases members with
    | nil => exact .noMembers .nil
    | cons member members => exact .object (spells_members (List.cons_ne_nil _ _) ih)

end HostStatus.Json
