import HostStatus.Json.Record
import HostStatus.Proofs.PassedValues

/-!
# What readers make of a tree

`ReadsTree read tree` says that a reader makes of all texts of a tree what it makes of the compact
one, errors included, and leaves what follows. Strings and numbers are read so. A record is read so
if its fields are, and `ofTree` says what is made of it: `readMembers_member` and `readItems_item`
are one step of the reader, in whatever way the part is written, and the record is by induction on
its parts.
-/

namespace HostStatus.Json

variable {α β δ : Type} {c : Char} {cs key lead lexeme text rest : List Char} {tree : Tree}
  {items : List Tree} {members : List (List Char × Tree)} {fuel count : ℕ} {first : Bool}
  {draft : δ}

/-- What a reader makes of a tree by its compact text. -/
def evaluate (read : List Char → Except ReadError (Scanned α)) (tree : Tree) : Except ReadError α :=
  (read tree.compact).map Prod.fst

/-- The reader makes the same of a tree however it is written. -/
def ReadsTree (read : List Char → Except ReadError (Scanned α)) (tree : Tree) : Prop :=
  ∀ ⦃text before rest : List Char⦄, Written (.value tree) text → Blanks before → Delimits rest →
    read (before ++ (text ++ rest)) = (evaluate read tree).map (·, rest)

theorem evaluate_eq {read : List Char → Except ReadError (Scanned α)} {outcome : Except ReadError α}
    (h : read tree.compact = outcome.map (·, rest)) : evaluate read tree = outcome := by
  rw [evaluate, h]
  cases outcome <;> rfl

theorem delimits_nil : Delimits [] := by
  simp [Delimits]

theorem ReadsTree.spaced {read : List Char → Except ReadError (Scanned α)}
    (hread : ReadsTree read tree) (h : Written (.spaced tree) text) (hrest : Delimits rest) :
    ∃ after, Blanks after ∧ read (text ++ rest) = (evaluate read tree).map (·, after ++ rest) ∧
      read (skipBlank (text ++ rest)) = (evaluate read tree).map (·, after ++ rest) := by
  cases h with
  | @spaced _ before _ after hbefore hvalue hafter =>
    refine ⟨after, hafter, ?_, ?_⟩
    · rw [List.append_assoc, List.append_assoc]
      exact hread hvalue hbefore (hrest.append_blanks hafter)
    · rw [List.append_assoc, skipBlank_append_blanks hbefore, List.append_assoc,
        hvalue.skipBlank_append]
      exact hread hvalue .nil (hrest.append_blanks hafter)

/-! ## Numerals -/

theorem SpellsNumeral.scanNumber {n : Numeral} (h : SpellsNumeral n text) (hrest : Delimits rest) :
    scanNumber (text ++ rest) =
      (Number.ofNumeral? n).elim (.error .malformed) fun x => .ok (x, rest) := by
  rw [Json.scanNumber, h.scan hrest]
  simp only [bind, Except.bind]
  cases Number.ofNumeral? n <;> rfl

theorem SpellsNumeral.scanNumber_append {n : Numeral} (h : SpellsNumeral n text)
    (hrest : Delimits rest) :
    Json.scanNumber (text ++ rest) = (Json.scanNumber text).map fun (x, _) => (x, rest) := by
  have hwhole := h.scanNumber delimits_nil
  rw [List.append_nil] at hwhole
  rw [h.scanNumber hrest, hwhole]
  cases Number.ofNumeral? n <;> rfl

theorem scanFound_numeral (hc : c = '-' ∨ c.isDigit = true) (cs : List Char) :
    scanFound (c :: cs) = (scanNumber (c :: cs)).map fun (n, _) => n.found := by
  unfold scanFound
  split
  · next heq => rw [(List.cons.inj heq).1] at hc; exact absurd hc (by decide)
  · next heq => rw [(List.cons.inj heq).1] at hc; exact absurd hc (by decide)
  · next heq => rw [(List.cons.inj heq).1] at hc; exact absurd hc (by decide)
  · next heq => rw [(List.cons.inj heq).1] at hc; exact absurd hc (by decide)
  · next heq => rw [(List.cons.inj heq).1] at hc; exact absurd hc (by decide)
  · next heq => rw [(List.cons.inj heq).1] at hc; exact absurd hc (by decide)
  · next heq =>
    obtain ⟨rfl, rfl⟩ := List.cons.inj heq
    exact if_pos hc
  · next heq => cases heq

theorem readString_numeral (hc : c = '-' ∨ c.isDigit = true) (cs : List Char) :
    readString (c :: cs) = refuse .string (c :: cs) := by
  rw [readString, skipBlank_of_not_isBlank (begins_of_numeral hc).1]
  split
  · next heq => rw [(List.cons.inj heq).1] at hc; exact absurd hc (by decide)
  · rfl

theorem readSingle_numeral (hc : c = '-' ∨ c.isDigit = true) (cs : List Char) :
    readSingle (c :: cs) = (scanNumber (c :: cs)).map fun (n, rest) => (n.toSingle, rest) := by
  rw [readSingle, skipBlank_of_not_isBlank (begins_of_numeral hc).1]
  exact if_pos hc

theorem read_numeral (r : RecordReader δ α) (hc : c = '-' ∨ c.isDigit = true) (cs : List Char) :
    r.read (c :: cs) = refuse (.record r.name) (c :: cs) := by
  rw [RecordReader.read, skipBlank_of_not_isBlank (begins_of_numeral hc).1]
  split
  · next heq => rw [(List.cons.inj heq).1] at hc; exact absurd hc (by decide)
  · next heq => rw [(List.cons.inj heq).1] at hc; exact absurd hc (by decide)
  · rfl

/-! ## Leaves -/

theorem IsLeaf.scanFound_append (h : IsLeaf lexeme) (hrest : Delimits rest) :
    scanFound (lexeme ++ rest) = scanFound lexeme := by
  cases h with
  | null => rfl
  | boolean b => cases b <;> rfl
  | numeral hn =>
    have hscan := hn.scanNumber_append hrest
    obtain ⟨c, cs, rfl, hc⟩ := hn.head
    rw [List.cons_append] at hscan ⊢
    rw [scanFound_numeral hc, scanFound_numeral hc, hscan]
    cases scanNumber (c :: cs) <;> rfl
  | @string text htext =>
    rw [List.cons_append, List.append_assoc]
    simp only [scanFound, List.singleton_append, htext.scanString_append rest]
    cases scanString (text ++ ['"']) <;> rfl

/-- What stands in the place of something else does not depend on how it is written. -/
theorem Written.scanFound (h : Written (.value tree) text) (hrest : Delimits rest) :
    scanFound (text ++ rest) = scanFound tree.compact := by
  cases h with
  | leaf hlexeme => exact hlexeme.scanFound_append hrest
  | noItems => rfl
  | array => rfl
  | noMembers => rfl
  | object => rfl

theorem Written.refuse (h : Written (.value tree) text) (hrest : Delimits rest)
    (expected : Expected) :
    (refuse expected (text ++ rest) : Except ReadError α) = refuse expected tree.compact := by
  rw [Json.refuse, Json.refuse, h.scanFound hrest]

theorem map_refuse (f : α → β) (expected : Expected) (cs : List Char) :
    (refuse expected cs : Except ReadError α).map f = refuse expected cs := by
  rw [refuse, refuse]
  cases scanFound cs <;> rfl

theorem Written.refuse_evaluate (h : Written (.value tree) text) (hrest : Delimits rest)
    (expected : Expected) :
    (Json.refuse expected (text ++ rest) : Except ReadError (Scanned α)) =
      (evaluate (Json.refuse expected) tree : Except ReadError α).map (·, rest) := by
  rw [evaluate, map_refuse, map_refuse, h.refuse hrest]

theorem readString_readsTree (tree : Tree) : ReadsTree readString tree := by
  intro text before rest h hbefore hrest
  have hskip : readString (before ++ (text ++ rest)) = readString (text ++ rest) := by
    rw [readString, readString, skipBlank_append_blanks hbefore]
  have hrefuse := h.refuse_evaluate (α := String) hrest .string
  rw [hskip]
  cases h with
  | leaf hlexeme =>
    cases hlexeme with
    | null => exact hrefuse
    | boolean b => cases b <;> exact hrefuse
    | numeral hn =>
      obtain ⟨c, cs, rfl, hc⟩ := hn.head
      rw [evaluate, Tree.compact, List.cons_append, readString_numeral hc, readString_numeral hc]
      exact hrefuse
    | @string text htext =>
      rw [evaluate, Tree.compact, List.cons_append, List.append_assoc, List.singleton_append,
        readString_quote, readString_quote, htext.scanString_append rest]
      cases scanString (text ++ ['"']) <;> rfl
  | noItems => exact hrefuse
  | array => exact hrefuse
  | noMembers => exact hrefuse
  | object => exact hrefuse

theorem readSingle_readsTree (tree : Tree) : ReadsTree readSingle tree := by
  intro text before rest h hbefore hrest
  have hskip : readSingle (before ++ (text ++ rest)) = readSingle (text ++ rest) := by
    rw [readSingle, readSingle, skipBlank_append_blanks hbefore]
  have hrefuse := h.refuse_evaluate (α := Single) hrest .single
  rw [hskip]
  cases h with
  | leaf hlexeme =>
    cases hlexeme with
    | null => exact hrefuse
    | boolean b => cases b <;> exact hrefuse
    | numeral hn =>
      have hscan := hn.scanNumber_append hrest
      obtain ⟨c, cs, rfl, hc⟩ := hn.head
      rw [List.cons_append] at hscan ⊢
      rw [evaluate, Tree.compact, readSingle_numeral hc, readSingle_numeral hc, hscan]
      cases scanNumber (c :: cs) <;> rfl
    | string => exact hrefuse
  | noItems => exact hrefuse
  | array => exact hrefuse
  | noMembers => exact hrefuse
  | object => exact hrefuse

/-! ## Records -/

namespace RecordReader

variable (r : RecordReader δ α)

/-- One value whose key was taken. -/
def takeValue (key : String) (draft : δ) (tree : Tree) : Except ReadError δ :=
  match r.fields.find? (·.key = key) with
  | some field =>
    if field.isFilled draft then .error (.unfit (.duplicateField key))
    else evaluate (field.read draft) tree
  | none => .ok draft

def takeMember (draft : δ) (member : List Char × Tree) : Except ReadError δ := do
  let (key, _) ← scanString (member.1 ++ ['"'])
  r.takeValue (String.ofList key) draft member.2

def takeMembers (draft : δ) (members : List (List Char × Tree)) : Except ReadError δ :=
  members.foldlM r.takeMember draft

/-- Items are fields in order of declaration; there must be as many. -/
def takeItems : (count : ℕ) → List (FieldReader δ) → δ → List Tree → Except ReadError δ
  | _, [], draft, [] => .ok draft
  | _, [], _, _ :: _ => .error .malformed
  | count, _ :: _, _, [] => .error (.unfit (.tooFewItems count r.name r.fields.length))
  | count, field :: fields, draft, item :: items => do
    takeItems (count + 1) fields (← evaluate (field.read draft) item) items

def ofTree (tree : Tree) : Except ReadError α :=
  match tree with
  | .leaf lexeme => refuse (.record r.name) lexeme
  | .array items => do r.finish (← r.takeItems 0 r.fields r.empty items)
  | .object members => do r.finish (← r.takeMembers r.empty members)

/-- All fields make the same of a tree however it is written. -/
def FieldsRead (tree : Tree) : Prop :=
  ∀ field ∈ r.fields, ∀ draft, ReadsTree (field.read draft) tree

variable {r}

/-! ### Members -/

/-- What stands in front of a part: nothing in front of the first, else a comma. -/
def Leads (first : Bool) (lead : List Char) : Prop :=
  match first with
  | true => lead = []
  | false => ∃ blanks, Blanks blanks ∧ lead = blanks ++ [',']

theorem readMember_spaced {between : List Char} (hbetween : Blanks between)
    (h : Written (.spaced tree) text) (hfields : r.FieldsRead tree) (hrest : Delimits rest)
    (key : String) (draft : δ) :
    ∃ after, Blanks after ∧
      r.readMember key draft (between ++ ':' :: (text ++ rest)) =
        (r.takeValue key draft tree).map (·, after ++ rest) := by
  have hcolon (cs : List Char) : skipColon (between ++ ':' :: cs) = .ok cs := by
    rw [skipColon, skipBlank_append_blanks hbetween]
    rfl
  rw [RecordReader.readMember, takeValue]
  cases hfind : r.fields.find? (·.key = key) with
  | none =>
    obtain ⟨after, hafter, hskip⟩ := h.skipValue_spaced hrest
    refine ⟨after, hafter, ?_⟩
    simp only [hcolon, hskip, bind, Except.bind]
    rfl
  | some field =>
    obtain ⟨after, hafter, hread, -⟩ :=
      (hfields field (List.mem_of_find?_eq_some hfind) draft).spaced h hrest
    refine ⟨after, hafter, ?_⟩
    simp only [hcolon, hread, bind, Except.bind]
    split <;> rfl

theorem atKey_leads (hlead : Leads first lead) {before : List Char} (hbefore : Blanks before)
    (cs : List Char) :
    ∃ c cs', skipBlank (lead ++ (before ++ '"' :: cs)) = c :: cs' ∧ c ≠ '\x7d' ∧
      RecordReader.atKey first (c :: cs') = .ok cs := by
  have hquote : skipBlank (before ++ '"' :: cs) = '"' :: cs := by
    rw [skipBlank_append_blanks hbefore]
    rfl
  cases first with
  | true =>
    obtain rfl := hlead
    exact ⟨'"', cs, hquote, by decide, rfl⟩
  | false =>
    obtain ⟨blanks, hblanks, rfl⟩ := hlead
    refine ⟨',', before ++ '"' :: cs, ?_, by decide, ?_⟩
    · rw [List.append_assoc, skipBlank_append_blanks hblanks]
      rfl
    · rw [RecordReader.atKey, if_neg Bool.false_ne_true]
      simp only [hquote]

theorem readMembers_key (hlead : Leads first lead) {before : List Char} (hbefore : Blanks before)
    (fuel : ℕ) (draft : δ) (cs : List Char) :
    r.readMembers (fuel + 1) first draft (lead ++ (before ++ '"' :: cs)) = (do
      let (key, cs) ← scanString cs
      let (draft, cs) ← r.readMember (String.ofList key) draft cs
      r.readMembers fuel false draft cs) := by
  obtain ⟨c, cs', hcs, hc, hat⟩ := atKey_leads hlead hbefore cs
  rw [RecordReader.readMembers, hcs]
  split
  · next heq => cases heq
  · next heq => exact absurd (List.cons.inj heq).1 hc
  · rw [hat]
    rfl

/-- One member is taken, whichever it is. -/
theorem readMembers_member (hlead : Leads first lead) (h : Written (.member key tree) text)
    (hfields : r.FieldsRead tree) (hrest : Delimits rest) (fuel : ℕ) (draft : δ) :
    ∃ after, Blanks after ∧
      r.readMembers (fuel + 1) first draft (lead ++ (text ++ rest)) = (do
        let draft ← r.takeMember draft (key, tree)
        r.readMembers fuel false draft (after ++ rest)) := by
  cases h with
  | @member _ _ before between text hbefore hkey hbetween hvalue =>
    have hstep := readMembers_key (r := r) hlead hbefore fuel draft
      (key ++ '"' :: (between ++ ':' :: (text ++ rest)))
    rw [hkey.scanString_append] at hstep
    simp only [List.append_assoc, List.cons_append]
    rw [hstep, takeMember]
    cases scanString (key ++ ['"']) with
    | error e => exact ⟨[], .nil, rfl⟩
    | ok scanned =>
      obtain ⟨after, hafter, hmember⟩ :=
        readMember_spaced hbetween hvalue hfields hrest (String.ofList scanned.1) draft
      refine ⟨after, hafter, ?_⟩
      simp only [bind, Except.bind, Except.map, hmember]
      cases r.takeValue (String.ofList scanned.1) draft tree <;> rfl

theorem readMembers_members (hlead : Leads first lead) (h : Written (.members members) text)
    (hfields : ∀ member ∈ members, r.FieldsRead member.2) (rest : List Char)
    (hfuel : text.length + 1 < fuel) :
    r.readMembers fuel first draft (lead ++ (text ++ '\x7d' :: rest)) =
      (r.takeMembers draft members).map (·, rest) := by
  induction members generalizing text lead fuel first draft with
  | nil => cases h
  | cons member members ih =>
    obtain ⟨fuel, rfl⟩ := Nat.exists_eq_succ_of_ne_zero (Nat.ne_zero_of_lt hfuel)
    rw [List.forall_mem_cons] at hfields
    rw [takeMembers, List.foldlM_cons]
    cases h with
    | lastMember hmember =>
      obtain ⟨fuel, rfl⟩ := Nat.exists_eq_succ_of_ne_zero (show fuel ≠ 0 by omega)
      obtain ⟨after, hafter, hstep⟩ := readMembers_member hlead hmember hfields.1
        (delimits_cons (.inr (.inl rfl)) rest) (fuel + 1) draft
      rw [hstep]
      cases r.takeMember draft _ with
      | error e => rfl
      | ok next =>
        simp only [bind, Except.bind, List.foldlM_nil, RecordReader.readMembers,
          skipBlank_append_blanks hafter]
        rfl
    | @nextMember _ _ _ text others hmember hmembers =>
      simp only [List.length_append, List.length_cons] at hfuel
      rw [List.append_assoc, List.cons_append]
      obtain ⟨after, hafter, hstep⟩ := readMembers_member hlead hmember hfields.1
        (delimits_cons (.inl rfl) (others ++ '\x7d' :: rest)) fuel draft
      rw [hstep]
      cases r.takeMember draft _ with
      | error e => rfl
      | ok next =>
        have hnext : r.readMembers fuel false next
            (after ++ [','] ++ (others ++ '\x7d' :: rest)) =
              (r.takeMembers next members).map (·, rest) :=
          ih ⟨after, hafter, rfl⟩ hmembers hfields.2 (by omega)
        rw [List.append_assoc, List.singleton_append] at hnext
        exact hnext

/-! ### Items -/

theorem readItems_comma {blanks : List Char} (hblanks : Blanks blanks) (count : ℕ)
    (field : FieldReader δ) (fields : List (FieldReader δ)) (draft : δ) (cs : List Char) :
    r.readItems (count + 1) (field :: fields) draft (blanks ++ ',' :: cs) =
      (match skipBlank cs with
      | [] => .error .unfinished
      | ']' :: _ => .error .malformed
      | rest => do
        let (draft, cs) ← field.read draft rest
        r.readItems (count + 2) fields draft cs) := by
  rw [RecordReader.readItems, skipBlank_append_blanks hblanks]
  rfl

/-- One item is taken, if a field is left for it. -/
theorem readItems_item {field : FieldReader δ} (fields : List (FieldReader δ))
    (hlead : Leads (decide (count = 0)) lead) (h : Written (.spaced tree) text)
    (hread : ReadsTree (field.read draft) tree) (hrest : Delimits rest) :
    ∃ after, Blanks after ∧
      r.readItems count (field :: fields) draft (lead ++ (text ++ rest)) = (do
        let draft ← evaluate (field.read draft) tree
        r.readItems (count + 1) fields draft (after ++ rest)) := by
  obtain ⟨after, hafter, -, hread⟩ := hread.spaced h hrest
  obtain ⟨c, cs, hcs, hc⟩ := h.spaced_head rest
  refine ⟨after, hafter, ?_⟩
  rw [hcs] at hread
  cases count with
  | zero =>
    obtain rfl : lead = [] := hlead
    rw [List.nil_append, RecordReader.readItems, hcs]
    split
    · next heq => cases heq
    · next heq => exact absurd (List.cons.inj heq).1 hc
    · next heq =>
      obtain ⟨rfl, rfl⟩ := List.cons.inj heq
      rw [if_pos rfl, hread]
      cases evaluate (field.read draft) tree <;> rfl
  | succ count =>
    obtain ⟨blanks, hblanks, rfl⟩ := hlead
    rw [List.append_assoc, List.singleton_append, readItems_comma hblanks, hcs]
    split
    · next heq => cases heq
    · next heq => exact absurd (List.cons.inj heq).1 hc
    · rw [hread]
      cases evaluate (field.read draft) tree <;> rfl

/-- There is no field for an item. -/
theorem readItems_surplus (hlead : Leads first lead) (h : Written (.items items) text)
    (rest : List Char) (count : ℕ) (draft : δ) :
    r.readItems count [] draft (lead ++ (text ++ rest)) = .error .malformed := by
  rw [RecordReader.readItems]
  cases first with
  | true =>
    obtain rfl : lead = [] := hlead
    obtain ⟨c, cs, hcs, hc⟩ := h.items_head rest
    rw [List.nil_append, hcs]
    split
    · next heq => cases heq
    · next heq => exact absurd (List.cons.inj heq).1 hc
    · rfl
  | false =>
    obtain ⟨blanks, hblanks, rfl⟩ := hlead
    rw [List.append_assoc, skipBlank_append_blanks hblanks]
    rfl

theorem readItems_nil {blanks : List Char} (hblanks : Blanks blanks) (fields : List (FieldReader δ))
    (rest : List Char) (count : ℕ) (draft : δ) :
    r.readItems count fields draft (blanks ++ ']' :: rest) =
      (r.takeItems count fields draft []).map (·, rest) := by
  cases fields with
  | nil =>
    rw [RecordReader.readItems, skipBlank_append_blanks hblanks]
    rfl
  | cons field fields =>
    rw [RecordReader.readItems, skipBlank_append_blanks hblanks]
    rfl

theorem readItems_items (fields : List (FieldReader δ)) (hlead : Leads (decide (count = 0)) lead)
    (h : Written (.items items) text)
    (hfields : ∀ item ∈ items, ∀ field ∈ fields, ∀ draft, ReadsTree (field.read draft) item)
    (rest : List Char) (draft : δ) :
    r.readItems count fields draft (lead ++ (text ++ ']' :: rest)) =
      (r.takeItems count fields draft items).map (·, rest) := by
  induction items generalizing text lead count draft fields with
  | nil => cases h
  | cons item items ih =>
    cases fields with
    | nil => exact readItems_surplus hlead h _ count draft
    | cons field fields =>
      have hread := hfields item List.mem_cons_self field List.mem_cons_self draft
      rw [takeItems]
      cases h with
      | lastItem hitem =>
        obtain ⟨after, hafter, hstep⟩ :=
          readItems_item fields hlead hitem hread (delimits_cons (.inr (.inr rfl)) rest)
        rw [hstep]
        cases evaluate (field.read draft) item with
        | error e => rfl
        | ok next => exact readItems_nil hafter fields rest (count + 1) next
      | @nextItem _ _ text others hitem hitems =>
        rw [List.append_assoc, List.cons_append]
        obtain ⟨after, hafter, hstep⟩ := readItems_item fields hlead hitem hread
          (delimits_cons (.inl rfl) (others ++ ']' :: rest))
        rw [hstep]
        cases evaluate (field.read draft) item with
        | error e => rfl
        | ok next =>
          have hcomma : Leads (decide (count + 1 = 0)) (after ++ [',']) :=
            show Leads false _ from ⟨after, hafter, rfl⟩
          have hnext : r.readItems (count + 1) fields next
              (after ++ [','] ++ (others ++ ']' :: rest)) =
                (r.takeItems (count + 1) fields next items).map (·, rest) :=
            ih fields hcomma hitems
              (fun item hitem field hfield => hfields item (List.mem_cons_of_mem _ hitem) field
                (List.mem_cons_of_mem _ hfield)) next
          rw [List.append_assoc, List.singleton_append] at hnext
          exact hnext

/-! ### Whole records -/

theorem read_bracket (r : RecordReader δ α) (cs : List Char) :
    r.read ('[' :: cs) = (do
      let (draft, cs) ← r.readItems 0 r.fields r.empty cs
      pure (← r.finish draft, cs)) := rfl

theorem read_brace (r : RecordReader δ α) (cs : List Char) :
    r.read ('\x7b' :: cs) = (do
      let (draft, cs) ← r.readMembers (cs.length + 1) true r.empty cs
      pure (← r.finish draft, cs)) := rfl

theorem bind_finish (taken : Except ReadError δ) (rest : List Char) :
    (do
      let (draft, cs) ← taken.map (·, rest)
      pure (← r.finish draft, cs) : Except ReadError (Scanned α)) =
      (do r.finish (← taken) : Except ReadError α).map (·, rest) := by
  cases taken with
  | error e => rfl
  | ok draft =>
    simp only [bind, Except.bind, Except.map]
    cases r.finish draft <;> rfl

theorem read_written {before : List Char} (h : Written (.value tree) text)
    (hfields : ∀ child ∈ tree.children, r.FieldsRead child) (hbefore : Blanks before)
    (hrest : Delimits rest) :
    r.read (before ++ (text ++ rest)) = (r.ofTree tree).map (·, rest) := by
  have hskip : r.read (before ++ (text ++ rest)) = r.read (text ++ rest) := by
    rw [RecordReader.read, RecordReader.read, skipBlank_append_blanks hbefore]
  rw [hskip]
  have hrefuse := h.refuse (α := Scanned α) hrest (.record r.name)
  cases h with
  | leaf hlexeme =>
    rw [ofTree, map_refuse]
    cases hlexeme with
    | null => exact hrefuse
    | boolean b => cases b <;> exact hrefuse
    | numeral hn =>
      obtain ⟨c, cs, rfl, hc⟩ := hn.head
      rw [List.cons_append, read_numeral r hc]
      exact hrefuse
    | string => exact hrefuse
  | noItems hblanks =>
    rw [List.cons_append, List.append_assoc, List.singleton_append, read_bracket,
      readItems_nil hblanks, bind_finish]
    rfl
  | @array items text hitems =>
    have hfirst : Leads (decide (0 = 0)) [] := rfl
    have hread := readItems_items (r := r) r.fields hfirst hitems
      (fun item hitem field hfield => hfields item hitem field hfield) rest r.empty
    rw [List.nil_append] at hread
    rw [List.cons_append, List.append_assoc, List.singleton_append, read_bracket, hread,
      bind_finish]
    rfl
  | noMembers hblanks =>
    rw [List.cons_append, List.append_assoc, List.singleton_append, read_brace,
      RecordReader.readMembers, skipBlank_append_blanks hblanks]
    rfl
  | @object members text hmembers =>
    have hread : r.readMembers ((text ++ '\x7d' :: rest).length + 1) true r.empty
        ([] ++ (text ++ '\x7d' :: rest)) = (r.takeMembers r.empty members).map (·, rest) :=
      readMembers_members (show Leads true [] from rfl) hmembers
        (fun member hmember => hfields member.2 (List.mem_map_of_mem hmember)) rest (by simp)
    rw [List.nil_append] at hread
    rw [List.cons_append, List.append_assoc, List.singleton_append, read_brace, hread, bind_finish]
    rfl

theorem evaluate_read (htree : tree.WellFormed)
    (hfields : ∀ child ∈ tree.children, r.FieldsRead child) :
    evaluate r.read tree = r.ofTree tree := by
  have hread := read_written htree.written hfields .nil delimits_nil
  rw [List.append_nil, List.nil_append] at hread
  exact evaluate_eq hread

theorem read_readsTree (hfields : ∀ child ∈ tree.children, r.FieldsRead child) :
    ReadsTree r.read tree := by
  intro text before rest h hbefore hrest
  rw [evaluate_read h.wellFormed hfields]
  exact read_written h hfields hbefore hrest

/-- A text is read as its tree is, in whichever way it is written. -/
theorem readText_written {text : String} (h : Written (.spaced tree) text.toList)
    (hfields : ∀ child ∈ tree.children, r.FieldsRead child) : r.readText text = r.ofTree tree := by
  obtain ⟨after, hafter, hread, -⟩ := (read_readsTree hfields).spaced h delimits_nil
  rw [List.append_nil, List.append_nil, evaluate_read h.wellFormed hfields] at hread
  rw [RecordReader.readText, hread]
  have hblank : skipBlank after = [] := by
    rw [← List.append_nil after, skipBlank_append_blanks hafter]
    rfl
  cases r.ofTree tree with
  | error e => rfl
  | ok x =>
    simp only [Except.map, bind, Except.bind, hblank]
    rfl

end RecordReader

end HostStatus.Json
