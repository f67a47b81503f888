import HostStatus.Proofs.WrittenTrees
import Mathlib.Data.List.DropRight

/-!
# Values that are passed over

However a value is written, it is passed over in whole, with its own blanks around it if it has any.
`Written.passed` is by induction on the way it is written. Each item and each member takes one step
of the fuel and at least two characters with the comma, so twice the length of a text is enough.
-/

namespace HostStatus.Json

variable {c : Char} {cs key text rest blanks : List Char} {q : Part} {tree : Tree}
  {items : List Tree} {members : List (List Char × Tree)} {j : Json} {fuel : ℕ}

/-! ## Blanks in front -/

theorem skipBlank_append_blanks (h : Blanks blanks) (cs : List Char) :
    skipBlank (blanks ++ cs) = skipBlank cs :=
  List.dropWhile_append_of_pos h

theorem skipBlank_blanks_cons (h : Blanks blanks) (hc : isBlank c = false) (cs : List Char) :
    skipBlank (blanks ++ c :: cs) = c :: cs := by
  rw [skipBlank_append_blanks h, skipBlank_of_not_isBlank hc]

theorem skipBlank_skipBlank (cs : List Char) : skipBlank (skipBlank cs) = skipBlank cs :=
  List.dropWhile_idempotent isBlank cs

theorem Written.skipBlank_append (h : Written (.value tree) text) (rest : List Char) :
    skipBlank (text ++ rest) = text ++ rest := by
  obtain ⟨c, cs, rfl, hc, -⟩ := h.value_head
  exact skipBlank_of_not_isBlank hc (cs ++ rest)

theorem Written.spaced_head (h : Written (.spaced tree) text) (rest : List Char) :
    ∃ c cs, skipBlank (text ++ rest) = c :: cs ∧ c ≠ ']' := by
  cases h with
  | @spaced _ _ _ after hbefore hvalue hafter =>
    obtain ⟨c, cs, hcs, -, hc, -⟩ := hvalue.value_head
    refine ⟨c, cs ++ (after ++ rest), ?_, hc⟩
    rw [List.append_assoc, skipBlank_append_blanks hbefore, List.append_assoc,
      hvalue.skipBlank_append, hcs]
    rfl

theorem Written.items_head (h : Written (.items items) text) (rest : List Char) :
    ∃ c cs, skipBlank (text ++ rest) = c :: cs ∧ c ≠ ']' := by
  cases h with
  | lastItem hitem => exact hitem.spaced_head rest
  | nextItem hitem hitems =>
    rw [List.append_assoc]
    exact hitem.spaced_head _

theorem Written.member_head (h : Written (.member key tree) text) (rest : List Char) :
    ∃ cs, skipBlank (text ++ rest) = '"' :: cs := by
  cases h with
  | member hbefore hkey hbetween hvalue =>
    rw [List.append_assoc, skipBlank_append_blanks hbefore]
    exact ⟨_, rfl⟩

theorem Written.members_head (h : Written (.members members) text) (rest : List Char) :
    ∃ cs, skipBlank (text ++ rest) = '"' :: cs := by
  cases h with
  | lastMember hmember => exact hmember.member_head rest
  | nextMember hmember hmembers =>
    rw [List.append_assoc]
    exact hmember.member_head _

/-! ## Steps -/

theorem skipValueTo_skipBlank (fuel : ℕ) (cs : List Char) :
    skipValueTo fuel (skipBlank cs) = skipValueTo fuel cs := by
  cases fuel with
  | zero => rfl
  | succ fuel => rw [skipValueTo, skipValueTo, skipBlank_skipBlank]

theorem skipItems_skipBlank (fuel : ℕ) (cs : List Char) :
    skipItems fuel (skipBlank cs) = skipItems fuel cs := by
  cases fuel with
  | zero => rfl
  | succ fuel => rw [skipItems, skipItems, skipValueTo_skipBlank]

theorem skipMembers_skipBlank (fuel : ℕ) (cs : List Char) :
    skipMembers fuel (skipBlank cs) = skipMembers fuel cs := by
  cases fuel with
  | zero => rfl
  | succ fuel => rw [skipMembers, skipMembers, skipBlank_skipBlank]

theorem skipValueTo_blanks (h : Blanks blanks) (fuel : ℕ) (cs : List Char) :
    skipValueTo fuel (blanks ++ cs) = skipValueTo fuel cs := by
  rw [← skipValueTo_skipBlank, skipBlank_append_blanks h, skipValueTo_skipBlank]

theorem skipValueTo_numeral (hc : c = '-' ∨ c.isDigit = true) (fuel : ℕ) (cs : List Char) :
    skipValueTo (fuel + 1) (c :: cs) = skipNumeral (c :: cs) := by
  rw [skipValueTo, skipBlank_of_not_isBlank (begins_of_numeral hc).1]
  split
  · next heq => cases heq
  · next heq => rw [(List.cons.inj heq).1] at hc; exact absurd hc (by decide)
  · next heq => rw [(List.cons.inj heq).1] at hc; exact absurd hc (by decide)
  · next heq => rw [(List.cons.inj heq).1] at hc; exact absurd hc (by decide)
  · next heq => rw [(List.cons.inj heq).1] at hc; exact absurd hc (by decide)
  · next heq => rw [(List.cons.inj heq).1] at hc; exact absurd hc (by decide)
  · next heq => rw [(List.cons.inj heq).1] at hc; exact absurd hc (by decide)
  · next heq =>
    obtain ⟨rfl, rfl⟩ := List.cons.inj heq
    exact if_pos hc

theorem skipValueTo_bracket (fuel : ℕ) (cs : List Char) :
    skipValueTo (fuel + 1) ('[' :: cs) =
      match skipBlank cs with
      | [] => .error .unfinished
      | ']' :: rest => .ok rest
      | rest => skipItems fuel rest := rfl

theorem skipValueTo_brace (fuel : ℕ) (cs : List Char) :
    skipValueTo (fuel + 1) ('\x7b' :: cs) =
      match skipBlank cs with
      | [] => .error .unfinished
      | '\x7d' :: rest => .ok rest
      | rest => skipMembers fuel rest := rfl

theorem skipValueTo_items (h : ∃ c cs', skipBlank cs = c :: cs' ∧ c ≠ ']') (fuel : ℕ) :
    skipValueTo (fuel + 1) ('[' :: cs) = skipItems fuel cs := by
  obtain ⟨c, cs', hcs, hc⟩ := h
  rw [← skipItems_skipBlank fuel cs, skipValueTo_bracket, hcs]
  split
  · next heq => cases heq
  · next heq => exact absurd (List.cons.inj heq).1 hc
  · rfl

theorem skipValueTo_members (h : ∃ cs', skipBlank cs = '"' :: cs') (fuel : ℕ) :
    skipValueTo (fuel + 1) ('\x7b' :: cs) = skipMembers fuel cs := by
  obtain ⟨cs', hcs⟩ := h
  rw [← skipMembers_skipBlank fuel cs, skipValueTo_brace, hcs]
  rfl

/-- What follows the value of a member. -/
theorem skipMembers_member {before between : List Char} (hbefore : Blanks before)
    (hkey : PassedString key) (hbetween : Blanks between) (fuel : ℕ) (cs : List Char) :
    skipMembers (fuel + 1) (before ++ '"' :: (key ++ '"' :: (between ++ ':' :: cs))) = (do
      let cs ← skipValueTo fuel cs
      match skipBlank cs with
      | [] => .error .unfinished
      | '\x7d' :: rest => .ok rest
      | ',' :: rest => skipMembers fuel rest
      | _ => .error .malformed) := by
  have hcolon : skipColon (between ++ ':' :: cs) = .ok cs := by
    rw [skipColon, skipBlank_append_blanks hbetween]
    rfl
  rw [skipMembers, skipBlank_append_blanks hbefore, skipBlank_of_not_isBlank rfl]
  change (skipString _ >>= fun cs => skipColon cs >>= _) = _
  rw [hkey.skipString]
  change (skipColon _ >>= _) = _
  rw [hcolon]
  rfl

/-! ## All values -/

/-- What is left of a text by passing over a part at its front. -/
def Passed : Part → List Char → Prop
  | .value _, text => ∀ rest fuel, Delimits rest → 2 * text.length < fuel →
    skipValueTo fuel (text ++ rest) = .ok rest
  | .spaced _, text => ∀ rest fuel, Delimits rest → 2 * text.length < fuel →
    ∃ after, Blanks after ∧ skipValueTo fuel (text ++ rest) = .ok (after ++ rest)
  | .items _, text => ∀ rest fuel, 2 * text.length + 1 < fuel →
    skipItems fuel (text ++ ']' :: rest) = .ok rest
  | .member _ _, text => ∀ rest fuel, 2 * text.length < fuel →
    skipMembers (fuel + 1) (text ++ '\x7d' :: rest) = .ok rest ∧
      skipMembers (fuel + 1) (text ++ ',' :: rest) = skipMembers fuel rest
  | .members _, text => ∀ rest fuel, 2 * text.length + 1 < fuel →
    skipMembers fuel (text ++ '\x7d' :: rest) = .ok rest

theorem delimits_cons (h : c = ',' ∨ c = '\x7d' ∨ c = ']') (rest : List Char) :
    Delimits (c :: rest) :=
  (endsValue_cons h rest).delimits

theorem IsLeaf.skipValueTo {lexeme : List Char} (h : IsLeaf lexeme) (hrest : Delimits rest)
    (fuel : ℕ) : skipValueTo (fuel + 1) (lexeme ++ rest) = .ok rest := by
  cases h with
  | null => rfl
  | boolean b => cases b <;> rfl
  | numeral hn =>
    have hscan := hn.scan hrest
    obtain ⟨c, cs, rfl, hc⟩ := hn.head
    rw [List.cons_append] at hscan ⊢
    rw [skipValueTo_numeral hc, skipNumeral, hscan]
  | string htext =>
    rw [List.cons_append, List.append_assoc]
    exact htext.skipString rest

theorem Written.passed (h : Written q text) : Passed q text := by
  induction h with
  | leaf hlexeme =>
    intro rest fuel hrest hfuel
    obtain ⟨fuel, rfl⟩ := Nat.exists_eq_succ_of_ne_zero (Nat.ne_zero_of_lt hfuel)
    exact hlexeme.skipValueTo hrest fuel
  | noItems hblanks =>
    intro rest fuel _ hfuel
    obtain ⟨fuel, rfl⟩ := Nat.exists_eq_succ_of_ne_zero (Nat.ne_zero_of_lt hfuel)
    rw [List.cons_append, List.append_assoc, skipValueTo_bracket, skipBlank_append_blanks hblanks]
    rfl
  | array hitems ih =>
    intro rest fuel _ hfuel
    obtain ⟨fuel, rfl⟩ := Nat.exists_eq_succ_of_ne_zero (Nat.ne_zero_of_lt hfuel)
    simp only [List.length_cons, List.length_append, List.length_nil] at hfuel
    rw [List.cons_append, List.append_assoc, skipValueTo_items (hitems.items_head _)]
    exact ih rest fuel (by omega)
  | noMembers hblanks =>
    intro rest fuel _ hfuel
    obtain ⟨fuel, rfl⟩ := Nat.exists_eq_succ_of_ne_zero (Nat.ne_zero_of_lt hfuel)
    rw [List.cons_append, List.append_assoc, skipValueTo_brace, skipBlank_append_blanks hblanks]
    rfl
  | object hmembers ih =>
    intro rest fuel _ hfuel
    obtain ⟨fuel, rfl⟩ := Nat.exists_eq_succ_of_ne_zero (Nat.ne_zero_of_lt hfuel)
    simp only [List.length_cons, List.length_append, List.length_nil] at hfuel
    rw [List.cons_append, List.append_assoc, skipValueTo_members (hmembers.members_head _)]
    exact ih rest fuel (by omega)
  | spaced hbefore hvalue hafter ih =>
    intro rest fuel hrest hfuel
    simp only [List.length_append] at hfuel
    refine ⟨_, hafter, ?_⟩
    rw [List.append_assoc, skipValueTo_blanks hbefore, List.append_assoc]
    exact ih _ fuel (hrest.append_blanks hafter) (by omega)
  | lastItem hitem ih =>
    intro rest fuel hfuel
    obtain ⟨fuel, rfl⟩ := Nat.exists_eq_succ_of_ne_zero (Nat.ne_zero_of_lt hfuel)
    obtain ⟨after, hafter, hskip⟩ :=
      ih (']' :: rest) fuel (delimits_cons (.inr (.inr rfl)) rest) (by omega)
    rw [skipItems, hskip]
    simp only [bind, Except.bind, skipBlank_append_blanks hafter]
    rfl
  | nextItem hitem hitems ih ihs =>
    intro rest fuel hfuel
    obtain ⟨fuel, rfl⟩ := Nat.exists_eq_succ_of_ne_zero (Nat.ne_zero_of_lt hfuel)
    simp only [List.length_cons, List.length_append] at hfuel
    obtain ⟨after, hafter, hskip⟩ := ih _ fuel (delimits_cons (.inl rfl) _) (by omega)
    rw [List.append_assoc, List.cons_append, skipItems, hskip]
    simp only [bind, Except.bind, skipBlank_append_blanks hafter]
    exact ihs rest fuel (by omega)
  | member hbefore hkey hbetween hvalue ih =>
    intro rest fuel hfuel
    simp only [List.length_cons, List.length_append] at hfuel
    simp only [List.append_assoc, List.cons_append, skipMembers_member hbefore hkey hbetween]
    constructor
    · obtain ⟨after, hafter, hskip⟩ :=
        ih ('\x7d' :: rest) fuel (delimits_cons (.inr (.inl rfl)) rest) (by omega)
      rw [hskip]
      simp only [bind, Except.bind, skipBlank_append_blanks hafter]
      rfl
    · obtain ⟨after, hafter, hskip⟩ :=
        ih (',' :: rest) fuel (delimits_cons (.inl rfl) rest) (by omega)
      rw [hskip]
      simp only [bind, Except.bind, skipBlank_append_blanks hafter]
      rfl
  | lastMember hmember ih =>
    intro rest fuel hfuel
    obtain ⟨fuel, rfl⟩ := Nat.exists_eq_succ_of_ne_zero (Nat.ne_zero_of_lt hfuel)
    exact (ih rest fuel (by omega)).1
  | nextMember hmember hmembers ih ihs =>
    intro rest fuel hfuel
    obtain ⟨fuel, rfl⟩ := Nat.exists_eq_succ_of_ne_zero (Nat.ne_zero_of_lt hfuel)
    simp only [List.length_cons, List.length_append] at hfuel
    rw [List.append_assoc, List.cons_append]
    exact (ih _ fuel (by omega)).2.trans (ihs rest fuel (by omega))

/-- A value with blanks around it is passed over, and what follows it is left. -/
theorem Written.skipValue_spaced (h : Written (.spaced tree) text) (hrest : Delimits rest) :
    ∃ after, Blanks after ∧ skipValue (text ++ rest) = .ok (after ++ rest) :=
  h.passed rest _ hrest (by rw [List.length_append]; omega)

end HostStatus.Json
