import HostStatus.Proofs.TreeReading

/-!
# Trees that are found

What is passed over or read is a tree as it is written: `Finds read` says this of a reader. It holds
of the leaves, of `skipValueTo` by induction on its fuel, and of a record if it holds of its fields.
-/

namespace HostStatus.Json

variable {α β δ : Type} {c : Char} {cs text rest : List Char} {fuel count : ℕ} {first : Bool}
  {draft final : δ}

theorem bind_eq_ok {read : Except ReadError α} {next : α → Except ReadError β} {y : β} :
    (do next (← read)) = .ok y ↔ ∃ x, read = .ok x ∧ next x = .ok y := by
  cases read with
  | error e => exact iff_of_false (fun h => by cases h) (fun ⟨_, h, _⟩ => by cases h)
  | ok x =>
    refine ⟨fun h => ⟨x, rfl, h⟩, fun ⟨_, hx, hy⟩ => ?_⟩
    cases hx
    exact hy

theorem map_eq_ok {read : Except ReadError α} {f : α → β} {y : β} :
    read.map f = .ok y ↔ ∃ x, read = .ok x ∧ f x = y := by
  cases read with
  | error e => exact iff_of_false (fun h => by cases h) (fun ⟨_, h, _⟩ => by cases h)
  | ok x =>
    refine ⟨fun h => ⟨x, rfl, Except.ok.inj h⟩, fun ⟨_, hx, hy⟩ => ?_⟩
    cases hx
    exact congrArg Except.ok hy

/-! ## Blanks and numerals -/

theorem exists_blanks (cs : List Char) : ∃ blanks, Blanks blanks ∧ cs = blanks ++ skipBlank cs :=
  ⟨cs.takeWhile isBlank, fun _ hc => List.mem_takeWhile_imp hc,
    (List.takeWhile_append_dropWhile).symm⟩

theorem Blanks.append {before after : List Char} (hbefore : Blanks before) (hafter : Blanks after) :
    Blanks (before ++ after) :=
  List.forall_mem_append.2 ⟨hbefore, hafter⟩

theorem eq_append_of_scanWord {word : List Char} (h : scanWord word cs = .ok rest) :
    cs = word ++ rest := by
  fun_induction scanWord word cs with
  | case1 cs => exact Except.ok.inj h
  | case2 => cases h
  | case3 c word cs ih => rw [ih h, List.cons_append]
  | case4 => cases h

theorem eq_append_of_scanSomeDigits {digits : List Char}
    (h : scanSomeDigits cs = .ok (digits, rest)) :
    digits ≠ [] ∧ Digits digits ∧ cs = digits ++ rest := by
  cases cs with
  | nil => cases h
  | cons c cs =>
    rw [scanSomeDigits] at h
    split at h
    · next hc =>
      obtain ⟨rfl, rfl⟩ := Prod.mk.inj (Except.ok.inj h)
      refine ⟨?_, fun d hd => List.mem_takeWhile_imp hd, List.takeWhile_append_dropWhile.symm⟩
      rw [List.takeWhile_cons_of_pos hc]
      exact List.cons_ne_nil _ _
    · cases h

/-- A zero in front is all that there is in front of the point. -/
theorem eq_append_of_scanWhole {whole : List Char} (h : scanWhole cs = .ok (whole, rest)) :
    whole ≠ [] ∧ Digits whole ∧ (whole.head? = some '0' → whole = ['0']) ∧ cs = whole ++ rest := by
  unfold scanWhole at h
  split at h
  · split at h
    · cases h
    · obtain ⟨rfl, rfl⟩ := Prod.mk.inj (Except.ok.inj h)
      exact ⟨List.cons_ne_nil _ _, digits_of_all rfl, fun _ => rfl, rfl⟩
  · next hzero =>
    obtain ⟨hsome, hdigits, rfl⟩ := eq_append_of_scanSomeDigits h
    refine ⟨hsome, hdigits, fun hhead => ?_, rfl⟩
    match whole, hhead with
    | [_], hhead => exact congrArg (· :: []) (Option.some.inj hhead)
    | _ :: d :: whole, hhead =>
      obtain rfl := Option.some.inj hhead
      exact absurd rfl (hzero d (whole ++ rest))

theorem eq_append_of_scanFraction {fraction : List Char}
    (h : scanFraction cs = .ok (fraction, rest)) :
    Digits fraction ∧ cs = fractionChars fraction ++ rest := by
  unfold scanFraction at h
  split at h
  · obtain ⟨hsome, hdigits, rfl⟩ := eq_append_of_scanSomeDigits h
    rw [fractionChars, if_neg hsome]
    exact ⟨hdigits, rfl⟩
  · obtain ⟨rfl, rfl⟩ := Prod.mk.inj (Except.ok.inj h)
    exact ⟨digits_of_all rfl, rfl⟩

theorem exists_exponent {exponent : Option Exponent} (h : scanExponent cs = .ok (exponent, rest)) :
    ∃ text, SpellsExponent exponent text ∧ cs = text ++ rest := by
  unfold scanExponent at h
  cases cs with
  | nil =>
    obtain ⟨rfl, rfl⟩ := Prod.mk.inj (Except.ok.inj h)
    exact ⟨[], .none, rfl⟩
  | cons c cs =>
    dsimp only at h
    split at h
    · next hletter =>
      obtain ⟨⟨digits, rest'⟩, hscan, heq⟩ := bind_eq_ok.1 h
      obtain ⟨rfl, rfl⟩ := Prod.mk.inj (Except.ok.inj heq)
      clear h heq
      split at hscan <;> dsimp only at hscan
      · obtain ⟨hsome, hdigits, rfl⟩ := eq_append_of_scanSomeDigits hscan
        exact ⟨_, .some hletter (.inr (.inl rfl)) hsome hdigits, rfl⟩
      · obtain ⟨hsome, hdigits, rfl⟩ := eq_append_of_scanSomeDigits hscan
        exact ⟨_, .some hletter (.inr (.inr rfl)) hsome hdigits, rfl⟩
      · obtain ⟨hsome, hdigits, rfl⟩ := eq_append_of_scanSomeDigits hscan
        exact ⟨_, .some hletter (.inl rfl) hsome hdigits, rfl⟩
    · obtain ⟨rfl, rfl⟩ := Prod.mk.inj (Except.ok.inj h)
      exact ⟨[], .none, rfl⟩

theorem exists_magnitude {n : Numeral} {negative : Bool}
    (h : scanMagnitude negative cs = .ok (n, rest)) :
    ∃ text, SpellsNumeral n ((if negative then ['-'] else []) ++ text) ∧ cs = text ++ rest := by
  obtain ⟨⟨whole, cs₁⟩, hwhole, h⟩ := bind_eq_ok.1 h
  obtain ⟨⟨fraction, cs₂⟩, hfraction, h⟩ := bind_eq_ok.1 h
  obtain ⟨⟨exponent, cs₃⟩, hexponent, h⟩ := bind_eq_ok.1 h
  obtain ⟨rfl, rfl⟩ := Prod.mk.inj (Except.ok.inj h)
  obtain ⟨hsome, hdigits, hzero, rfl⟩ := eq_append_of_scanWhole hwhole
  obtain ⟨hplaces, rfl⟩ := eq_append_of_scanFraction hfraction
  obtain ⟨tail, htail, rfl⟩ := exists_exponent hexponent
  refine ⟨whole ++ (fractionChars fraction ++ tail), ?_, by simp only [List.append_assoc]⟩
  exact ⟨hsome, hdigits, hzero, hplaces, tail, htail, rfl⟩

theorem exists_numeral {n : Numeral} (h : scanNumeral cs = .ok (n, rest)) :
    ∃ text, SpellsNumeral n text ∧ cs = text ++ rest := by
  unfold scanNumeral at h
  split at h
  · obtain ⟨text, htext, rfl⟩ := exists_magnitude h
    exact ⟨_, htext, rfl⟩
  · obtain ⟨text, htext, rfl⟩ := exists_magnitude h
    exact ⟨_, htext, rfl⟩

/-! ## Values that are passed over -/

/-- A value was taken off the front, with blanks before it. -/
def FoundValue (cs rest : List Char) : Prop :=
  ∃ before tree text, Blanks before ∧ Written (.value tree) text ∧ cs = before ++ (text ++ rest)

theorem FoundValue.of_skipBlank (h : FoundValue (skipBlank cs) rest) : FoundValue cs rest := by
  obtain ⟨blanks, hblanks, hcs⟩ := exists_blanks cs
  obtain ⟨before, tree, text, hbefore, htext, heq⟩ := h
  refine ⟨blanks ++ before, tree, text, hblanks.append hbefore, htext, ?_⟩
  rw [hcs, heq, List.append_assoc]

theorem FoundValue.of_written {tree : Tree} (h : Written (.value tree) text)
    (hcs : cs = text ++ rest) : FoundValue cs rest :=
  ⟨[], tree, text, .nil, h, hcs⟩

/-- The blanks behind the value are its own. -/
theorem FoundValue.spaced (h : FoundValue cs rest) :
    ∃ tree text, Written (.spaced tree) text ∧ cs = text ++ skipBlank rest := by
  obtain ⟨before, tree, text, hbefore, htext, rfl⟩ := h
  obtain ⟨after, hafter, hrest⟩ := exists_blanks rest
  refine ⟨tree, _, .spaced hbefore htext hafter, ?_⟩
  rw [List.append_assoc, List.append_assoc, ← hrest]

def FoundItems (cs rest : List Char) : Prop :=
  ∃ items text, Written (.items items) text ∧ cs = text ++ ']' :: rest

def FoundMembers (cs rest : List Char) : Prop :=
  ∃ members text, Written (.members members) text ∧ cs = text ++ '\x7d' :: rest

theorem exists_colon (h : skipColon cs = .ok rest) :
    ∃ between, Blanks between ∧ cs = between ++ ':' :: rest := by
  obtain ⟨blanks, hblanks, hcs⟩ := exists_blanks cs
  unfold skipColon at h
  split at h
  · cases h
  · next heq =>
    obtain rfl := Except.ok.inj h
    exact ⟨blanks, hblanks, heq ▸ hcs⟩
  · cases h

theorem foundValue_of_skipValueTo
    (hitems : ∀ ⦃cs rest⦄, skipItems fuel cs = .ok rest → FoundItems cs rest)
    (hmembers : ∀ ⦃cs rest⦄, skipMembers fuel cs = .ok rest → FoundMembers cs rest)
    (h : skipValueTo (fuel + 1) cs = .ok rest) : FoundValue cs rest := by
  apply FoundValue.of_skipBlank
  rw [skipValueTo] at h
  split at h
  · cases h
  · next heq =>
    rw [heq, eq_append_of_scanWord h]
    exact .of_written (.leaf .null) rfl
  · next heq =>
    rw [heq, eq_append_of_scanWord h]
    exact .of_written (.leaf (.boolean true)) rfl
  · next heq =>
    rw [heq, eq_append_of_scanWord h]
    exact .of_written (.leaf (.boolean false)) rfl
  · next heq =>
    obtain ⟨text, htext, rfl⟩ := exists_passedString h
    rw [heq]
    exact .of_written (.leaf (.string htext)) (by simp)
  · next cs' heq =>
    rw [heq]
    split at h
    · cases h
    · next hend =>
      obtain rfl := Except.ok.inj h
      obtain ⟨blanks, hblanks, hcs⟩ := exists_blanks cs'
      exact .of_written (.noItems hblanks) (by rw [hcs, hend]; simp)
    · rw [skipItems_skipBlank] at h
      obtain ⟨items, text, htext, rfl⟩ := hitems h
      exact .of_written (.array htext) (by simp)
  · next cs' heq =>
    rw [heq]
    split at h
    · cases h
    · next hend =>
      obtain rfl := Except.ok.inj h
      obtain ⟨blanks, hblanks, hcs⟩ := exists_blanks cs'
      exact .of_written (.noMembers hblanks) (by rw [hcs, hend]; simp)
    · rw [skipMembers_skipBlank] at h
      obtain ⟨members, text, htext, rfl⟩ := hmembers h
      exact .of_written (.object htext) (by simp)
  · next heq =>
    rw [heq]
    split at h
    · unfold skipNumeral at h
      split at h
      · next hscan =>
        obtain rfl := Except.ok.inj h
        obtain ⟨text, htext, hcs⟩ := exists_numeral hscan
        exact .of_written (.leaf (.numeral htext)) hcs
      · cases h
    · cases h

theorem foundItems_of_skipItems
    (hvalue : ∀ ⦃cs rest⦄, skipValueTo fuel cs = .ok rest → FoundValue cs rest)
    (hitems : ∀ ⦃cs rest⦄, skipItems fuel cs = .ok rest → FoundItems cs rest)
    (h : skipItems (fuel + 1) cs = .ok rest) : FoundItems cs rest := by
  rw [skipItems] at h
  obtain ⟨cs', hskip, hend⟩ := bind_eq_ok.1 h
  obtain ⟨tree, text, htext, hcs⟩ := (hvalue hskip).spaced
  split at hend
  · cases hend
  · next heq =>
    obtain rfl := Except.ok.inj hend
    exact ⟨_, _, .lastItem htext, by rw [hcs, heq]⟩
  · next heq =>
    obtain ⟨items, others, hothers, rfl⟩ := hitems hend
    exact ⟨_, _, .nextItem htext hothers, by rw [hcs, heq]; simp⟩
  · cases hend

theorem foundMembers_of_skipMembers
    (hvalue : ∀ ⦃cs rest⦄, skipValueTo fuel cs = .ok rest → FoundValue cs rest)
    (hmembers : ∀ ⦃cs rest⦄, skipMembers fuel cs = .ok rest → FoundMembers cs rest)
    (h : skipMembers (fuel + 1) cs = .ok rest) : FoundMembers cs rest := by
  rw [skipMembers] at h
  split at h
  · cases h
  · next hquote =>
    obtain ⟨before, hbefore, hcs⟩ := exists_blanks cs
    obtain ⟨cs₁, hstring, hbehindKey⟩ := bind_eq_ok.1 h
    obtain ⟨key, hkey, rfl⟩ := exists_passedString hstring
    obtain ⟨cs₂, hcolon, hbehindColon⟩ := bind_eq_ok.1 hbehindKey
    obtain ⟨between, hbetween, rfl⟩ := exists_colon hcolon
    obtain ⟨cs₃, hskip, hend⟩ := bind_eq_ok.1 hbehindColon
    obtain ⟨tree, text, htext, rfl⟩ := (hvalue hskip).spaced
    have hmember := Written.member hbefore hkey hbetween htext
    split at hend
    · cases hend
    · next heq =>
      obtain rfl := Except.ok.inj hend
      exact ⟨_, _, .lastMember hmember, by rw [hcs, hquote, heq]; simp⟩
    · next heq =>
      obtain ⟨members, others, hothers, rfl⟩ := hmembers hend
      exact ⟨_, _, .nextMember hmember hothers, by rw [hcs, hquote, heq]; simp⟩
    · cases hend
  · cases h

theorem found_of_skip (fuel : ℕ) :
    (∀ ⦃cs rest⦄, skipValueTo fuel cs = .ok rest → FoundValue cs rest) ∧
      (∀ ⦃cs rest⦄, skipItems fuel cs = .ok rest → FoundItems cs rest) ∧
        ∀ ⦃cs rest⦄, skipMembers fuel cs = .ok rest → FoundMembers cs rest := by
  induction fuel with
  | zero => refine ⟨?_, ?_, ?_⟩ <;> intro cs rest h <;> cases h
  | succ fuel ih =>
    obtain ⟨hvalue, hitems, hmembers⟩ := ih
    exact ⟨fun _ _ => foundValue_of_skipValueTo hitems hmembers,
      fun _ _ => foundItems_of_skipItems hvalue hitems,
      fun _ _ => foundMembers_of_skipMembers hvalue hmembers⟩

/-! ## Values that are read -/

/-- What the reader takes is a value as it is written. -/
def Finds (read : List Char → Except ReadError (Scanned α)) : Prop :=
  ∀ ⦃cs x rest⦄, read cs = .ok (x, rest) → FoundValue cs rest

theorem refuse_ne_ok (expected : Expected) (cs : List Char) (x : α) :
    refuse expected cs ≠ .ok x := by
  intro h
  obtain ⟨found, -, hthrow⟩ := bind_eq_ok.1 h
  cases hthrow

theorem readString_finds : Finds readString := by
  intro cs s rest h
  apply FoundValue.of_skipBlank
  rw [readString] at h
  split at h
  · next heq =>
    obtain ⟨⟨s, rest⟩, hscan, hs⟩ := map_eq_ok.1 h
    cases hs
    obtain ⟨text, htext, rfl⟩ := exists_spellsString hscan
    rw [heq]
    exact .of_written (.leaf (.string htext.passed)) (by simp)
  · exact absurd h (refuse_ne_ok _ _ _)

theorem exists_numeral_of_scanNumber {x : Number} (h : scanNumber cs = .ok (x, rest)) :
    ∃ text, IsLeaf text ∧ cs = text ++ rest := by
  obtain ⟨⟨n, rest'⟩, hscan, hvalue⟩ := bind_eq_ok.1 h
  obtain ⟨text, htext, rfl⟩ := exists_numeral hscan
  dsimp only at hvalue
  split at hvalue
  · cases hvalue
    exact ⟨text, .numeral htext, rfl⟩
  · cases hvalue

theorem readSingle_finds : Finds readSingle := by
  intro cs x rest h
  apply FoundValue.of_skipBlank
  rw [readSingle] at h
  split at h
  · next heq =>
    rw [heq]
    split at h
    · obtain ⟨⟨n, rest⟩, hscan, hn⟩ := map_eq_ok.1 h
      cases hn
      obtain ⟨text, htext, hcs⟩ := exists_numeral_of_scanNumber hscan
      exact .of_written (.leaf htext) hcs
    · exact absurd h (refuse_ne_ok _ _ _)
  · cases h

theorem FieldReader.ofOption_finds {key : String} {get : δ → Option β} {fill : δ → β → δ}
    {read : List Char → Except ReadError (Scanned β)} (h : Finds read) (draft : δ) :
    Finds ((FieldReader.ofOption key get fill read).read draft) := by
  intro cs next rest hread
  obtain ⟨⟨x, rest⟩, hx, heq⟩ := map_eq_ok.1 hread
  cases heq
  exact h hx

namespace RecordReader

variable {r : RecordReader δ α}

theorem foundValue_of_readMember (hfields : ∀ field ∈ r.fields, ∀ draft, Finds (field.read draft))
    {key : String} (h : r.readMember key draft cs = .ok (final, rest)) :
    ∃ between cs', Blanks between ∧ FoundValue cs' rest ∧ cs = between ++ ':' :: cs' := by
  rw [readMember] at h
  split at h
  · next field hfind =>
    split at h
    · cases h
    · obtain ⟨cs', hcolon, hread⟩ := bind_eq_ok.1 h
      obtain ⟨between, hbetween, rfl⟩ := exists_colon hcolon
      exact ⟨between, cs', hbetween,
        hfields field (List.mem_of_find?_eq_some hfind) draft hread, rfl⟩
  · obtain ⟨cs', hcolon, hbehind⟩ := bind_eq_ok.1 h
    obtain ⟨between, hbetween, rfl⟩ := exists_colon hcolon
    obtain ⟨rest', hskip, heq⟩ := bind_eq_ok.1 hbehind
    cases heq
    exact ⟨between, cs', hbetween, (found_of_skip _).1 hskip, rfl⟩

theorem exists_lead (h : atKey first (skipBlank cs) = .ok rest) :
    ∃ lead before, Leads first lead ∧ Blanks before ∧ cs = lead ++ (before ++ '"' :: rest) := by
  obtain ⟨blanks, hblanks, hcs⟩ := exists_blanks cs
  cases first with
  | true =>
    unfold atKey at h
    rw [if_pos rfl] at h
    dsimp only at h
    split at h
    · cases h
    · next heq =>
      obtain rfl := Except.ok.inj h
      exact ⟨[], blanks, rfl, hblanks, heq ▸ hcs⟩
    · cases h
  | false =>
    unfold atKey at h
    rw [if_neg Bool.false_ne_true] at h
    dsimp only at h
    split at h
    · next cs' hcomma =>
      obtain ⟨before, hbefore, hcs'⟩ := exists_blanks cs'
      split at h
      · cases h
      · next hquote =>
        obtain rfl := Except.ok.inj h
        refine ⟨blanks ++ [','], before, ⟨blanks, hblanks, rfl⟩, hbefore, ?_⟩
        rw [hcs, hcomma, hcs', hquote, List.append_assoc]
        rfl
      · cases h
    · cases h

/-- One member was taken, unless there is none. -/
theorem member_of_readMembers (hfields : ∀ field ∈ r.fields, ∀ draft, Finds (field.read draft))
    (h : r.readMembers (fuel + 1) first draft cs = .ok (final, rest)) :
    skipBlank cs = '\x7d' :: rest ∨ ∃ lead key tree text next cs', Leads first lead ∧
      Written (.member key tree) text ∧ cs = lead ++ (text ++ skipBlank cs') ∧
        r.readMembers fuel false next cs' = .ok (final, rest) := by
  rw [readMembers] at h
  split at h
  · cases h
  · next hbrace =>
    obtain ⟨rfl, rfl⟩ := Prod.mk.inj (Except.ok.inj h)
    exact .inl hbrace
  · obtain ⟨cs₁, hat, hbehindLead⟩ := bind_eq_ok.1 h
    obtain ⟨⟨s, cs₂⟩, hscan, hbehindKey⟩ := bind_eq_ok.1 hbehindLead
    obtain ⟨⟨next, cs₃⟩, hread, hothers⟩ := bind_eq_ok.1 hbehindKey
    obtain ⟨lead, before, hlead, hbefore, hcs⟩ := exists_lead hat
    obtain ⟨key, hkey, rfl⟩ := exists_spellsString hscan
    obtain ⟨between, cs', hbetween, hvalue, rfl⟩ := foundValue_of_readMember hfields hread
    obtain ⟨tree, text, htext, rfl⟩ := hvalue.spaced
    have hmember := Written.member hbefore hkey.passed hbetween htext
    exact .inr ⟨lead, key, tree, _, next, cs₃, hlead, hmember, by rw [hcs]; simp, hothers⟩

/-- Nothing more, or more members behind what stands in front of them. -/
theorem found_of_readMembers (hfields : ∀ field ∈ r.fields, ∀ draft, Finds (field.read draft))
    (h : r.readMembers fuel first draft cs = .ok (final, rest)) :
    skipBlank cs = '\x7d' :: rest ∨
      ∃ lead cs', Leads first lead ∧ FoundMembers cs' rest ∧ cs = lead ++ cs' := by
  induction fuel generalizing first draft cs with
  | zero => cases h
  | succ fuel ih =>
    rcases member_of_readMembers hfields h with
      hend | ⟨lead, key, tree, text, next, cs', hlead, hmember, rfl, hothers⟩
    · exact .inl hend
    · refine .inr ⟨lead, _, hlead, ?_, rfl⟩
      rcases ih hothers with hend | ⟨comma, cs', ⟨after, hafter, rfl⟩, ⟨_, _, hmembers, rfl⟩, rfl⟩
      · exact ⟨_, _, .lastMember hmember, by rw [hend]⟩
      · refine ⟨_, _, .nextMember hmember hmembers, ?_⟩
        rw [List.append_assoc, List.singleton_append, skipBlank_blanks_cons hafter rfl]
        simp

/-- One item was taken, unless no field is left. -/
theorem item_of_readItems {field : FieldReader δ} {fields : List (FieldReader δ)}
    (hfield : Finds (field.read draft))
    (h : r.readItems count (field :: fields) draft cs = .ok (final, rest)) :
    ∃ lead tree text next cs', Leads (decide (count = 0)) lead ∧ Written (.spaced tree) text ∧
      cs = lead ++ (text ++ skipBlank cs') ∧
        r.readItems (count + 1) fields next cs' = .ok (final, rest) := by
  obtain ⟨blanks, hblanks, hcs⟩ := exists_blanks cs
  rw [readItems] at h
  split at h
  · cases h
  · cases h
  · next heq =>
    split at h
    · next hcount =>
      obtain ⟨⟨next, cs'⟩, hread, hothers⟩ := bind_eq_ok.1 h
      rw [← heq] at hread
      obtain ⟨tree, text, htext, rfl⟩ := (hfield hread).of_skipBlank.spaced
      refine ⟨[], tree, text, next, cs', ?_, htext, rfl, hothers⟩
      rw [decide_eq_true hcount]
      rfl
    · next hcount =>
      split at h
      · next rest' _ hcomma =>
        have hread : ∃ next cs', field.read draft (skipBlank rest') = .ok (next, cs') ∧
            r.readItems (count + 1) fields next cs' = .ok (final, rest) := by
          split at h
          · cases h
          · cases h
          · obtain ⟨⟨next, cs'⟩, hread, hothers⟩ := bind_eq_ok.1 h
            exact ⟨next, cs', hread, hothers⟩
        obtain ⟨next, cs', hread, hothers⟩ := hread
        obtain ⟨tree, text, htext, rfl⟩ := (hfield hread).of_skipBlank.spaced
        refine ⟨blanks ++ [','], tree, text, next, cs', ?_, htext, ?_, hothers⟩
        · rw [decide_eq_false hcount]
          exact ⟨blanks, hblanks, rfl⟩
        · rw [hcs, heq, hcomma]
          simp
      · cases h

theorem found_of_readItems {fields : List (FieldReader δ)}
    (hfields : ∀ field ∈ fields, ∀ draft, Finds (field.read draft))
    (h : r.readItems count fields draft cs = .ok (final, rest)) :
    skipBlank cs = ']' :: rest ∨
      ∃ lead cs', Leads (decide (count = 0)) lead ∧ FoundItems cs' rest ∧ cs = lead ++ cs' := by
  induction fields generalizing count draft cs with
  | nil =>
    rw [readItems] at h
    split at h
    · cases h
    · next hbracket =>
      obtain ⟨rfl, rfl⟩ := Prod.mk.inj (Except.ok.inj h)
      exact .inl hbracket
    · cases h
  | cons field fields ih =>
    rw [List.forall_mem_cons] at hfields
    obtain ⟨lead, tree, text, next, cs', hlead, htext, rfl, hothers⟩ :=
      item_of_readItems (hfields.1 draft) h
    refine .inr ⟨lead, _, hlead, ?_, rfl⟩
    rcases ih hfields.2 hothers with
      hend | ⟨comma, cs', ⟨after, hafter, rfl⟩, ⟨_, _, hitems, rfl⟩, rfl⟩
    · exact ⟨_, _, .lastItem htext, by rw [hend]⟩
    · refine ⟨_, _, .nextItem htext hitems, ?_⟩
      rw [List.append_assoc, List.singleton_append, skipBlank_blanks_cons hafter rfl]
      simp

theorem read_finds (hfields : ∀ field ∈ r.fields, ∀ draft, Finds (field.read draft)) :
    Finds r.read := by
  intro cs x rest h
  apply FoundValue.of_skipBlank
  rw [read] at h
  split at h
  · next cs' heq =>
    rw [heq]
    obtain ⟨⟨draft, rest'⟩, hitems, hfinish⟩ := bind_eq_ok.1 h
    obtain ⟨_, -, hx⟩ := bind_eq_ok.1 hfinish
    cases hx
    rcases found_of_readItems hfields hitems with hend | ⟨_, _, rfl, ⟨_, _, htext, rfl⟩, rfl⟩
    · obtain ⟨blanks, hblanks, hcs⟩ := exists_blanks cs'
      exact .of_written (.noItems hblanks) (by rw [hcs, hend]; simp)
    · exact .of_written (.array htext) (by simp)
  · next cs' heq =>
    rw [heq]
    obtain ⟨⟨draft, rest'⟩, hmembers, hfinish⟩ := bind_eq_ok.1 h
    obtain ⟨_, -, hx⟩ := bind_eq_ok.1 hfinish
    cases hx
    rcases found_of_readMembers hfields hmembers with hend | ⟨_, _, rfl, ⟨_, _, htext, rfl⟩, rfl⟩
    · obtain ⟨blanks, hblanks, hcs⟩ := exists_blanks cs'
      exact .of_written (.noMembers hblanks) (by rw [hcs, hend]; simp)
    · exact .of_written (.object htext) (by simp)
  · exact absurd h (refuse_ne_ok _ _ _)

/-- A text that is read is the text of a tree. -/
theorem exists_written_of_readText (hfields : ∀ field ∈ r.fields, ∀ draft, Finds (field.read draft))
    {text : String} {x : α} (h : r.readText text = .ok x) :
    ∃ tree, Written (.spaced tree) text.toList := by
  obtain ⟨⟨x, rest⟩, hread, hend⟩ := bind_eq_ok.1 h
  obtain ⟨tree, written, hwritten, htext⟩ := (read_finds hfields hread).spaced
  dsimp only at hend
  split at hend
  · next hblank =>
    rw [hblank, List.append_nil] at htext
    exact ⟨tree, htext ▸ hwritten⟩
  · cases hend

end RecordReader

end HostStatus.Json
