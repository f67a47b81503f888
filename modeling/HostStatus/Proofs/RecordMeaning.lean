import HostStatus.Proofs.Meaning

/-!
# What readers make of a record

A record is decoded from the members of an object, or from the items of an array, one after the
other: `FieldRule` says what each field makes of a value and that its reader agrees. A tree that
conveys a value is taken as this value is decoded, part by part.
-/

namespace HostStatus.Json

variable {α β δ : Type} {j : Json} {tree : Tree} {items : List Json} {trees : List Tree}
  {members : List (String × Json)} {parts : List (List Char × Tree)} {count : ℕ} {draft : δ}

/-- A field of a record, and what it makes of a value. -/
structure FieldRule (δ : Type) where
  field : FieldReader δ
  decode : δ → Json → Except ReadError δ
  reads : ∀ draft, Reads (field.read draft) (decode draft)

def FieldRule.ofOption {read : List Char → Except ReadError (Scanned β)}
    {decode : Json → Except ReadError β} (key : String) (get : δ → Option β) (fill : δ → β → δ)
    (hreads : Reads read decode) : FieldRule δ where
  field := .ofOption key get fill read
  decode draft j := (decode j).map (fill draft)
  reads draft := by
    intro j text before rest h hbefore hrest
    rw [FieldReader.ofOption]
    dsimp only
    rw [hreads h hbefore hrest]
    cases decode j <;> rfl

def decodeMember (rules : List (FieldRule δ)) (draft : δ) (member : String × Json) :
    Except ReadError δ :=
  match rules.find? (·.field.key = member.1) with
  | some rule =>
    if rule.field.isFilled draft then .error (.unfit (.duplicateField member.1))
    else rule.decode draft member.2
  | none => .ok draft

def decodeMembers (rules : List (FieldRule δ)) (draft : δ) (members : List (String × Json)) :
    Except ReadError δ :=
  members.foldlM (decodeMember rules) draft

/-- Items are fields in order of declaration; there must be as many. -/
def decodeItems (tooFew : ℕ → Mismatch) :
    (count : ℕ) → List (FieldRule δ) → δ → List Json → Except ReadError δ
  | _, [], draft, [] => .ok draft
  | _, [], _, _ :: _ => .error .malformed
  | count, _ :: _, _, [] => .error (.unfit (tooFew count))
  | count, rule :: rules, draft, item :: items => do
    decodeItems tooFew (count + 1) rules (← rule.decode draft item) items

/-- The rules of all fields of a record. -/
structure RecordRules (r : RecordReader δ α) where
  rules : List (FieldRule δ)
  fields_eq : r.fields = rules.map (·.field)

namespace RecordRules

variable {r : RecordReader δ α} (R : RecordRules r)

def decode (j : Json) : Except ReadError α :=
  match j with
  | .array items => do
    r.finish (← decodeItems (.tooFewItems · r.name r.fields.length) 0 R.rules r.empty items)
  | .object members => do r.finish (← decodeMembers R.rules r.empty members)
  | j => .error (j.misfit (.record r.name))

/-! ## Trees -/

theorem find?_field (key : String) :
    r.fields.find? (·.key = key) = (R.rules.find? (·.field.key = key)).map (·.field) := by
  rw [R.fields_eq, List.find?_map]
  rfl

theorem takeMember_eq {quoted : List Char} {key : String} (htree : tree.WellFormed)
    (h : Conveys (.member quoted tree) (.member key j)) (draft : δ) :
    r.takeMember draft (quoted, tree) = decodeMember R.rules draft (key, j) := by
  cases h with
  | member hkey hspaced =>
    cases hspaced with
    | spaced hvalue =>
      rw [RecordReader.takeMember, hkey.scanString]
      change r.takeValue (String.ofList key.toList) draft tree = _
      rw [String.ofList_toList, RecordReader.takeValue, R.find?_field, decodeMember]
      cases R.rules.find? (·.field.key = key) with
      | none => rfl
      | some rule =>
        simp only [Option.map_some, (rule.reads draft).evaluate_eq htree hvalue]

theorem takeMembers_eq (htrees : ∀ member ∈ parts, member.2.WellFormed)
    (h : Conveys (.members parts) (.members members)) (draft : δ) :
    r.takeMembers draft parts = decodeMembers R.rules draft members := by
  induction members generalizing parts draft with
  | nil =>
    cases h
    rfl
  | cons member members ih =>
    cases h with
    | nextMember hmember hmembers =>
      rw [List.forall_mem_cons] at htrees
      rw [RecordReader.takeMembers, decodeMembers, List.foldlM_cons, List.foldlM_cons,
        R.takeMember_eq htrees.1 hmember]
      cases decodeMember R.rules draft _ with
      | error e => rfl
      | ok next => exact ih htrees.2 hmembers next

theorem takeItems_eq (rules : List (FieldRule δ)) (htrees : ∀ tree ∈ trees, tree.WellFormed)
    (h : Conveys (.items trees) (.items items)) (draft : δ) :
    r.takeItems count (rules.map (·.field)) draft trees =
      decodeItems (.tooFewItems · r.name r.fields.length) count rules draft items := by
  induction items generalizing trees count draft rules with
  | nil =>
    cases h
    cases rules <;> rfl
  | cons item items ih =>
    cases h with
    | nextItem hitem hitems =>
      cases rules with
      | nil => rfl
      | cons rule rules =>
        rw [List.forall_mem_cons] at htrees
        cases hitem with
        | spaced hvalue =>
          rw [List.map_cons, RecordReader.takeItems, decodeItems,
            (rule.reads draft).evaluate_eq htrees.1 hvalue]
          cases rule.decode draft item with
          | error e => rfl
          | ok next => exact ih rules htrees.2 hitems next

/-- A tree is taken as the value that it conveys is decoded. -/
theorem ofTree_eq (htree : tree.WellFormed) (h : Conveys (.value tree) (.value j)) :
    r.ofTree tree = R.decode j := by
  have hrefuse := h.refuse (α := α) (.record r.name)
  cases h with
  | array hitems =>
    cases htree with
    | array htrees =>
      rw [RecordReader.ofTree, R.fields_eq, takeItems_eq R.rules htrees hitems, decode, R.fields_eq]
  | object hmembers =>
    cases htree with
    | object _ htrees => rw [RecordReader.ofTree, R.takeMembers_eq htrees hmembers, decode]
  | null => exact hrefuse
  | boolean b => exact hrefuse
  | number hn => exact hrefuse
  | string hs => exact hrefuse

theorem fieldsRead_of_conveys (R : RecordRules r) (h : Conveys (.value tree) (.value j)) :
    ∀ child ∈ tree.children, r.FieldsRead child := by
  intro child hchild field hfield draft
  rw [R.fields_eq] at hfield
  obtain ⟨rule, -, rfl⟩ := List.mem_map.1 hfield
  obtain ⟨j, hj⟩ := h.exists_of_mem_children hchild
  exact (rule.reads draft).readsTree hj

theorem reads : Reads r.read R.decode := by
  refine reads_of_evaluate (fun tree _ h => ?_) fun tree _ htree h => ?_
  · exact RecordReader.read_readsTree (R.fieldsRead_of_conveys h)
  · rw [RecordReader.evaluate_read htree (R.fieldsRead_of_conveys h), R.ofTree_eq htree h]

/-- A text is decoded as its value is, whichever way it is written. -/
theorem readText_spaced {text : String} (h : Spells (.spaced j) text.toList) :
    r.readText text = R.decode j := by
  obtain ⟨q, hq, htext⟩ := h.exists_written
  cases hq with
  | spaced hvalue =>
    rw [RecordReader.readText_written htext (R.fieldsRead_of_conveys hvalue),
      R.ofTree_eq htext.wellFormed hvalue]

end RecordRules

end HostStatus.Json
