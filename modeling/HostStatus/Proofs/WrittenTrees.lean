import HostStatus.Proofs.PassedStrings

/-!
# Values as they are written

A `Tree` is a value as it stands in a text, less the blanks between its tokens: strings, keys and
numerals are kept in the way they are written. `Written` relates a tree, or a part of one, to its
texts, which differ in blanks alone. It holds of all that may be passed over, whether or not it can
be read.

A value is spelled by a text just if it is conveyed by a tree of which this is a text.
-/

namespace HostStatus.Json

variable {c : Char} {lexeme key text rest blanks : List Char} {p : Phrase} {j : Json}

/-! ## Trees and their texts -/

inductive Tree where
  /-- A word, a numeral, or a string between its quotation marks. -/
  | leaf (lexeme : List Char)
  | array (items : List Tree)
  | object (members : List (List Char × Tree))

def Tree.children : Tree → List Tree
  | .leaf _ => []
  | .array items => items
  | .object members => members.map Prod.snd

inductive IsLeaf : List Char → Prop where
  | null : IsLeaf "null".toList
  | boolean (b : Bool) : IsLeaf (if b then "true".toList else "false".toList)
  | numeral {n : Numeral} {text : List Char} (hn : SpellsNumeral n text) : IsLeaf text
  | string {text : List Char} (htext : PassedString text) : IsLeaf ('"' :: (text ++ ['"']))

/-- A tree, or a part of one that has texts of its own. -/
inductive Part where
  | value (tree : Tree)
  | spaced (tree : Tree)
  | items (items : List Tree)
  | member (key : List Char) (tree : Tree)
  | members (members : List (List Char × Tree))

variable {q : Part} {tree : Tree} {items trees : List Tree}
  {members parts : List (List Char × Tree)}

/-- The texts of a part. A spaced value has blanks around it, and there is at least one among items
and among members. -/
inductive Written : Part → List Char → Prop where
  | leaf {lexeme : List Char} (hlexeme : IsLeaf lexeme) : Written (.value (.leaf lexeme)) lexeme
  | noItems {blanks : List Char} (hblanks : Blanks blanks) :
      Written (.value (.array [])) ('[' :: (blanks ++ [']']))
  | array {items : List Tree} {text : List Char} (hitems : Written (.items items) text) :
      Written (.value (.array items)) ('[' :: (text ++ [']']))
  | noMembers {blanks : List Char} (hblanks : Blanks blanks) :
      Written (.value (.object [])) ('\x7b' :: (blanks ++ ['\x7d']))
  | object {members : List (List Char × Tree)} {text : List Char}
      (hmembers : Written (.members members) text) :
      Written (.value (.object members)) ('\x7b' :: (text ++ ['\x7d']))
  | spaced {tree : Tree} {before text after : List Char} (hbefore : Blanks before)
      (hvalue : Written (.value tree) text) (hafter : Blanks after) :
      Written (.spaced tree) (before ++ (text ++ after))
  | lastItem {item : Tree} {text : List Char} (hitem : Written (.spaced item) text) :
      Written (.items [item]) text
  | nextItem {item : Tree} {items : List Tree} {text rest : List Char}
      (hitem : Written (.spaced item) text) (hitems : Written (.items items) rest) :
      Written (.items (item :: items)) (text ++ ',' :: rest)
  | member {key : List Char} {tree : Tree} {before between text : List Char}
      (hbefore : Blanks before) (hkey : PassedString key) (hbetween : Blanks between)
      (hvalue : Written (.spaced tree) text) :
      Written (.member key tree) (before ++ '"' :: (key ++ '"' :: (between ++ ':' :: text)))
  | lastMember {key : List Char} {tree : Tree} {text : List Char}
      (hmember : Written (.member key tree) text) : Written (.members [(key, tree)]) text
  | nextMember {key : List Char} {tree : Tree} {members : List (List Char × Tree)}
      {text rest : List Char} (hmember : Written (.member key tree) text)
      (hmembers : Written (.members members) rest) :
      Written (.members ((key, tree) :: members)) (text ++ ',' :: rest)

theorem Written.unspaced (h : Written (.value tree) text) : Written (.spaced tree) text := by
  have hspaced := Written.spaced .nil h .nil
  rwa [List.nil_append, List.append_nil] at hspaced

/-! ## What a text begins with -/

/-- A character that begins a value: neither blank nor the end of something else. -/
def Begins (c : Char) : Prop :=
  isBlank c = false ∧ c ≠ ']' ∧ c ≠ '\x7d'

instance (c : Char) : Decidable (Begins c) :=
  inferInstanceAs (Decidable (_ ∧ _ ∧ _))

theorem begins_of_numeral (hc : c = '-' ∨ c.isDigit = true) : Begins c := by
  rcases hc with rfl | hc
  · decide
  · refine ⟨Bool.eq_false_of_not_eq_true fun hblank => ?_, ?_, ?_⟩
    · rcases isBlank_iff.1 hblank with rfl | rfl | rfl | rfl <;> cases hc
    · rintro rfl
      cases hc
    · rintro rfl
      cases hc

theorem IsLeaf.head (h : IsLeaf lexeme) : ∃ c cs, lexeme = c :: cs ∧ Begins c := by
  cases h with
  | null => exact ⟨_, _, rfl, by decide⟩
  | boolean b => cases b <;> exact ⟨_, _, rfl, by decide⟩
  | numeral hn =>
    obtain ⟨c, cs, htext, hc⟩ := hn.head
    exact ⟨c, cs, htext, begins_of_numeral hc⟩
  | string => exact ⟨_, _, rfl, by decide⟩

theorem Written.value_head (h : Written (.value tree) text) :
    ∃ c cs, text = c :: cs ∧ Begins c := by
  cases h with
  | leaf hlexeme => exact hlexeme.head
  | noItems => exact ⟨_, _, rfl, by decide⟩
  | array => exact ⟨_, _, rfl, by decide⟩
  | noMembers => exact ⟨_, _, rfl, by decide⟩
  | object => exact ⟨_, _, rfl, by decide⟩

/-! ## Compact texts -/

namespace Tree

mutual

/-- The text without blanks. -/
def compact : Tree → List Char
  | leaf lexeme => lexeme
  | array items => '[' :: (separated (itemTexts items) ++ [']'])
  | object members => '\x7b' :: (separated (memberTexts members) ++ ['\x7d'])

def itemTexts : List Tree → List (List Char)
  | [] => []
  | item :: items => item.compact :: itemTexts items

def memberTexts : List (List Char × Tree) → List (List Char)
  | [] => []
  | (key, tree) :: members => ('"' :: (key ++ '"' :: ':' :: tree.compact)) :: memberTexts members

end

/-- All leaves and all keys are such. -/
inductive WellFormed : Tree → Prop where
  | leaf {lexeme : List Char} (hlexeme : IsLeaf lexeme) : WellFormed (.leaf lexeme)
  | array {items : List Tree} (hitems : ∀ item ∈ items, WellFormed item) :
      WellFormed (.array items)
  | object {members : List (List Char × Tree)} (hkeys : ∀ member ∈ members, PassedString member.1)
      (hmembers : ∀ member ∈ members, WellFormed member.2) : WellFormed (.object members)

theorem wellFormed_array : (array items).WellFormed ↔ ∀ item ∈ items, item.WellFormed :=
  ⟨fun | .array hitems => hitems, .array⟩

theorem wellFormed_object :
    (object members).WellFormed ↔
      ∀ member ∈ members, PassedString member.1 ∧ member.2.WellFormed := by
  constructor
  · intro h member hmember
    cases h with
    | object hkeys hmembers => exact ⟨hkeys member hmember, hmembers member hmember⟩
  · exact fun h => .object (fun member hmember => (h member hmember).1)
      fun member hmember => (h member hmember).2

end Tree

def Part.WellFormed : Part → Prop
  | .value tree => tree.WellFormed
  | .spaced tree => tree.WellFormed
  | .items items => ∀ item ∈ items, item.WellFormed
  | .member key tree => PassedString key ∧ tree.WellFormed
  | .members members =>
    (∀ member ∈ members, PassedString member.1) ∧ ∀ member ∈ members, member.2.WellFormed

theorem Written.wellFormed (h : Written q text) : q.WellFormed := by
  induction h with
  | leaf hlexeme => exact .leaf hlexeme
  | noItems => exact .array (by simp)
  | array _ ih => exact .array ih
  | noMembers => exact .object (by simp) (by simp)
  | object _ ih => exact .object ih.1 ih.2
  | spaced _ _ _ ih => exact ih
  | lastItem _ ih => exact List.forall_mem_singleton.2 ih
  | nextItem _ _ ih ihs => exact List.forall_mem_cons.2 ⟨ih, ihs⟩
  | member _ hkey _ _ ih => exact ⟨hkey, ih⟩
  | lastMember _ ih => exact ⟨List.forall_mem_singleton.2 ih.1, List.forall_mem_singleton.2 ih.2⟩
  | nextMember _ _ ih ihs =>
    exact ⟨List.forall_mem_cons.2 ⟨ih.1, ihs.1⟩, List.forall_mem_cons.2 ⟨ih.2, ihs.2⟩⟩

theorem written_items (hsome : items ≠ [])
    (h : ∀ item ∈ items, Written (.value item) item.compact) :
    Written (.items items) (separated (Tree.itemTexts items)) := by
  induction items with
  | nil => exact absurd rfl hsome
  | cons item items ih =>
    rw [List.forall_mem_cons] at h
    cases items with
    | nil => exact .lastItem h.1.unspaced
    | cons next items => exact .nextItem h.1.unspaced (ih (List.cons_ne_nil _ _) h.2)

theorem written_member (hkey : PassedString key) (h : Written (.value tree) tree.compact) :
    Written (.member key tree) ('"' :: (key ++ '"' :: ':' :: tree.compact)) :=
  .member .nil hkey .nil h.unspaced

theorem written_members (hsome : members ≠ []) (hkeys : ∀ member ∈ members, PassedString member.1)
    (h : ∀ member ∈ members, Written (.value member.2) member.2.compact) :
    Written (.members members) (separated (Tree.memberTexts members)) := by
  induction members with
  | nil => exact absurd rfl hsome
  | cons member members ih =>
    rw [List.forall_mem_cons] at hkeys h
    cases members with
    | nil => exact .lastMember (written_member hkeys.1 h.1)
    | cons next members =>
      exact .nextMember (written_member hkeys.1 h.1) (ih (List.cons_ne_nil _ _) hkeys.2 h.2)

theorem Tree.WellFormed.written (h : tree.WellFormed) : Written (.value tree) tree.compact := by
  induction h with
  | leaf hlexeme => exact .leaf hlexeme
  | @array items _ ih =>
    cases items with
    | nil => exact .noItems .nil
    | cons item items => exact .array (written_items (List.cons_ne_nil _ _) ih)
  | @object members hkeys _ ih =>
    cases members with
    | nil => exact .noMembers .nil
    | cons member members => exact .object (written_members (List.cons_ne_nil _ _) hkeys ih)

/-! ## Values that trees convey -/

/-- Strings and keys can be read, and read as those of the value; numerals are kept as they are. -/
inductive Conveys : Part → Phrase → Prop where
  | null : Conveys (.value (.leaf "null".toList)) (.value .null)
  | boolean (b : Bool) :
      Conveys (.value (.leaf (if b then "true".toList else "false".toList))) (.value (.boolean b))
  | number {numeral : String} {n : Numeral} (hn : SpellsNumeral n numeral.toList) :
      Conveys (.value (.leaf numeral.toList)) (.value (.number numeral))
  | string {s : String} {text : List Char} (hs : SpellsString s.toList text) :
      Conveys (.value (.leaf ('"' :: (text ++ ['"'])))) (.value (.string s))
  | array {trees : List Tree} {items : List Json} (h : Conveys (.items trees) (.items items)) :
      Conveys (.value (.array trees)) (.value (.array items))
  | object {parts : List (List Char × Tree)} {members : List (String × Json)}
      (h : Conveys (.members parts) (.members members)) :
      Conveys (.value (.object parts)) (.value (.object members))
  | spaced {tree : Tree} {j : Json} (h : Conveys (.value tree) (.value j)) :
      Conveys (.spaced tree) (.spaced j)
  | noItems : Conveys (.items []) (.items [])
  | nextItem {tree : Tree} {j : Json} {trees : List Tree} {items : List Json}
      (hitem : Conveys (.spaced tree) (.spaced j))
      (hitems : Conveys (.items trees) (.items items)) :
      Conveys (.items (tree :: trees)) (.items (j :: items))
  | member {quoted : List Char} {key : String} {tree : Tree} {j : Json}
      (hkey : SpellsString key.toList quoted) (hvalue : Conveys (.spaced tree) (.spaced j)) :
      Conveys (.member quoted tree) (.member key j)
  | noMembers : Conveys (.members []) (.members [])
  | nextMember {quoted : List Char} {key : String} {tree : Tree} {j : Json}
      {parts : List (List Char × Tree)} {members : List (String × Json)}
      (hmember : Conveys (.member quoted tree) (.member key j))
      (hmembers : Conveys (.members parts) (.members members)) :
      Conveys (.members ((quoted, tree) :: parts)) (.members ((key, j) :: members))

theorem Conveys.eq_value (h : Conveys q (.value j)) : ∃ tree, q = .value tree := by
  cases h <;> exact ⟨_, rfl⟩

theorem Conveys.eq_spaced (h : Conveys q (.spaced j)) : ∃ tree, q = .spaced tree := by
  cases h
  exact ⟨_, rfl⟩

theorem Conveys.eq_items {items : List Json} (h : Conveys q (.items items)) :
    ∃ trees, q = .items trees := by
  cases h <;> exact ⟨_, rfl⟩

theorem Conveys.eq_member {key : String} (h : Conveys q (.member key j)) :
    ∃ quoted tree, q = .member quoted tree := by
  cases h
  exact ⟨_, _, rfl⟩

theorem Conveys.eq_members {members : List (String × Json)} (h : Conveys q (.members members)) :
    ∃ parts, q = .members parts := by
  cases h <;> exact ⟨_, rfl⟩

theorem Conveys.exists_of_mem_items {items : List Json} (h : Conveys (.items trees) (.items items))
    (htree : tree ∈ trees) : ∃ j, Conveys (.value tree) (.value j) := by
  induction trees generalizing items with
  | nil => cases htree
  | cons first trees ih =>
    cases h with
    | nextItem hitem hitems =>
      cases hitem with
      | spaced hvalue =>
        rcases List.mem_cons.1 htree with rfl | htree
        · exact ⟨_, hvalue⟩
        · exact ih hitems htree

theorem Conveys.exists_of_mem_members {members : List (String × Json)}
    (h : Conveys (.members parts) (.members members)) (htree : tree ∈ parts.map Prod.snd) :
    ∃ j, Conveys (.value tree) (.value j) := by
  induction parts generalizing members with
  | nil => cases htree
  | cons first parts ih =>
    cases h with
    | nextMember hmember hmembers =>
      cases hmember with
      | member _ hspaced =>
        cases hspaced with
        | spaced hvalue =>
          rcases List.mem_cons.1 htree with rfl | htree
          · exact ⟨_, hvalue⟩
          · exact ih hmembers htree

theorem Conveys.exists_of_mem_children (h : Conveys (.value tree) (.value j)) {child : Tree}
    (hchild : child ∈ tree.children) : ∃ j, Conveys (.value child) (.value j) := by
  cases h with
  | array hitems => exact hitems.exists_of_mem_items hchild
  | object hmembers => exact hmembers.exists_of_mem_members hchild
  | null => cases hchild
  | boolean b => cases hchild
  | number hn => cases hchild
  | string hs => cases hchild

theorem Spells.exists_written (h : Spells p text) : ∃ q, Conveys q p ∧ Written q text := by
  induction h with
  | null => exact ⟨_, .null, .leaf .null⟩
  | boolean b => exact ⟨_, .boolean b, .leaf (.boolean b)⟩
  | number hn => exact ⟨_, .number hn, .leaf (.numeral hn)⟩
  | string hs => exact ⟨_, .string hs, .leaf (.string hs.passed)⟩
  | noItems hblanks => exact ⟨_, .array .noItems, .noItems hblanks⟩
  | array _ ih =>
    obtain ⟨q, hq, htext⟩ := ih
    obtain ⟨trees, rfl⟩ := hq.eq_items
    exact ⟨_, .array hq, .array htext⟩
  | noMembers hblanks => exact ⟨_, .object .noMembers, .noMembers hblanks⟩
  | object _ ih =>
    obtain ⟨q, hq, htext⟩ := ih
    obtain ⟨parts, rfl⟩ := hq.eq_members
    exact ⟨_, .object hq, .object htext⟩
  | spaced hbefore _ hafter ih =>
    obtain ⟨q, hq, htext⟩ := ih
    obtain ⟨tree, rfl⟩ := hq.eq_value
    exact ⟨_, .spaced hq, .spaced hbefore htext hafter⟩
  | lastItem _ ih =>
    obtain ⟨q, hq, htext⟩ := ih
    obtain ⟨tree, rfl⟩ := hq.eq_spaced
    exact ⟨_, .nextItem hq .noItems, .lastItem htext⟩
  | nextItem _ _ ih ihs =>
    obtain ⟨q, hq, htext⟩ := ih
    obtain ⟨tree, rfl⟩ := hq.eq_spaced
    obtain ⟨qs, hqs, htexts⟩ := ihs
    obtain ⟨trees, rfl⟩ := hqs.eq_items
    exact ⟨_, .nextItem hq hqs, .nextItem htext htexts⟩
  | member hbefore hkey hbetween _ ih =>
    obtain ⟨q, hq, htext⟩ := ih
    obtain ⟨tree, rfl⟩ := hq.eq_spaced
    exact ⟨_, .member hkey hq, .member hbefore hkey.passed hbetween htext⟩
  | lastMember _ ih =>
    obtain ⟨q, hq, htext⟩ := ih
    obtain ⟨quoted, tree, rfl⟩ := hq.eq_member
    exact ⟨_, .nextMember hq .noMembers, .lastMember htext⟩
  | nextMember _ _ ih ihs =>
    obtain ⟨q, hq, htext⟩ := ih
    obtain ⟨quoted, tree, rfl⟩ := hq.eq_member
    obtain ⟨qs, hqs, htexts⟩ := ihs
    obtain ⟨parts, rfl⟩ := hqs.eq_members
    exact ⟨_, .nextMember hq hqs, .nextMember htext htexts⟩

theorem Conveys.spells (h : Conveys q p) (htext : Written q text) : Spells p text := by
  induction htext generalizing p with
  | leaf =>
    cases h with
    | null => exact .null
    | boolean b => exact .boolean b
    | number hn => exact .number hn
    | string hs => exact .string hs
  | noItems hblanks =>
    cases h with
    | array hitems =>
      cases hitems
      exact .noItems hblanks
  | array _ ih =>
    cases h with
    | array hitems => exact .array (ih hitems)
  | noMembers hblanks =>
    cases h with
    | object hmembers =>
      cases hmembers
      exact .noMembers hblanks
  | object _ ih =>
    cases h with
    | object hmembers => exact .object (ih hmembers)
  | spaced hbefore _ hafter ih =>
    cases h with
    | spaced hvalue => exact .spaced hbefore (ih hvalue) hafter
  | lastItem _ ih =>
    cases h with
    | nextItem hitem hitems =>
      cases hitems
      exact .lastItem (ih hitem)
  | nextItem _ _ ih ihs =>
    cases h with
    | nextItem hitem hitems => exact .nextItem (ih hitem) (ihs hitems)
  | member hbefore _ hbetween _ ih =>
    cases h with
    | member hkey hvalue => exact .member hbefore hkey hbetween (ih hvalue)
  | lastMember _ ih =>
    cases h with
    | nextMember hmember hmembers =>
      cases hmembers
      exact .lastMember (ih hmember)
  | nextMember _ _ ih ihs =>
    cases h with
    | nextMember hmember hmembers => exact .nextMember (ih hmember) (ihs hmembers)

end HostStatus.Json
