import HostStatus.Proofs.FoundTrees
import Mathlib.Data.List.Nodup

/-!
# Records in another order and in another form

`RecordReader.Rearranged` is what may be done to a tree without a change of the record that is read
from it: members change places, members are put in that no field is named as, and an object of all
fields becomes the array of their values or comes from it. Values of fields may change as well, as
far as the field makes the same of them.

Each of these is one lemma about drafts. `takeMember_swap` is the step for changes of place: what
one member fills does not matter to another, so they can be taken in either order.
-/

namespace HostStatus.Json

variable {α β δ : Type} {key : List Char} {tree tree' : Tree} {items : List Tree}
  {member other : List Char × Tree} {members members' : List (List Char × Tree)} {name : String}
  {draft next final : δ}

namespace RecordReader

/-- Members name the fields in order of declaration. -/
def InOrder (fields : List (FieldReader δ)) (members : List (List Char × Tree)) : Prop :=
  List.Forall₂ (fun field member => SpellsString field.key.toList member.1) fields members

/-- Steps from one tree to another for which a record stays the same. `inner` says so for the fields
by name. -/
inductive Rearranged (r : RecordReader δ α) (inner : String → Tree → Tree → Prop) :
    Tree → Tree → Prop where
  | refl (tree : Tree) : Rearranged r inner tree tree
  | trans {tree₁ tree₂ tree₃ : Tree} (h₁ : Rearranged r inner tree₁ tree₂)
      (h₂ : Rearranged r inner tree₂ tree₃) : Rearranged r inner tree₁ tree₃
  | reorder {members members' : List (List Char × Tree)} (h : members.Perm members') :
      Rearranged r inner (.object members) (.object members')
  | insert {name : String} {key : List Char} {tree : Tree} (members : List (List Char × Tree))
      (hkey : SpellsString name.toList key) (hname : name ∉ r.fields.map (·.key))
      (htree : tree.WellFormed) :
      Rearranged r inner (.object members) (.object ((key, tree) :: members))
  | toArray {members : List (List Char × Tree)} (h : InOrder r.fields members) :
      Rearranged r inner (.object members) (.array (members.map Prod.snd))
  | toObject {members : List (List Char × Tree)} (h : InOrder r.fields members) :
      Rearranged r inner (.array (members.map Prod.snd)) (.object members)
  | inMember {name : String} {key : List Char} {tree tree' : Tree}
      (before after : List (List Char × Tree)) (hkey : SpellsString name.toList key)
      (h : inner name tree tree') :
      Rearranged r inner (.object (before ++ (key, tree) :: after))
        (.object (before ++ (key, tree') :: after))
  | inItem {field : FieldReader δ} {tree tree' : Tree} (before after : List Tree)
      (hfield : r.fields[before.length]? = some field) (h : inner field.key tree tree') :
      Rearranged r inner (.array (before ++ tree :: after)) (.array (before ++ tree' :: after))

/-- Fields may be read in any order. -/
structure Commutes (r : RecordReader δ α) : Prop where
  keys : (r.fields.map (·.key)).Nodup
  empty : ∀ field ∈ r.fields, field.isFilled r.empty = false
  fills : ∀ field ∈ r.fields, ∀ draft tree next, evaluate (field.read draft) tree = .ok next →
    ∀ other ∈ r.fields,
      other.isFilled next = (decide (other.key = field.key) || other.isFilled draft)
  swaps : ∀ field ∈ r.fields, ∀ other ∈ r.fields, field.key ≠ other.key →
    ∀ draft tree tree' next final, evaluate (field.read draft) tree = .ok next →
      evaluate (other.read next) tree' = .ok final →
        ∃ between, evaluate (other.read draft) tree' = .ok between ∧
          evaluate (field.read between) tree = .ok final

/-- What `inner` does to the value of a field is no matter to the field. -/
structure Keeps (r : RecordReader δ α) (inner : String → Tree → Tree → Prop) : Prop where
  wellFormed : ∀ name tree tree', inner name tree tree' → tree.WellFormed → tree'.WellFormed
  evaluate : ∀ field ∈ r.fields, ∀ draft tree tree' next, inner field.key tree tree' →
    tree.WellFormed → evaluate (field.read draft) tree = .ok next →
      evaluate (field.read draft) tree' = .ok next

variable {r : RecordReader δ α} {inner : String → Tree → Tree → Prop}

/-! ## One member -/

theorem Commutes.eq_of_key (h : r.Commutes) {field other : FieldReader δ}
    (hfield : field ∈ r.fields)
    (hother : other ∈ r.fields) (hkey : field.key = other.key) : field = other :=
  List.inj_on_of_nodup_map h.keys hfield hother hkey

/-- A value is ignored, or fills the field that is named. -/
theorem Commutes.takeValue_eq_ok (h : r.Commutes) :
    r.takeValue name draft tree = .ok next ↔
      (name ∉ r.fields.map (·.key) ∧ next = draft) ∨
        ∃ field ∈ r.fields, field.key = name ∧ field.isFilled draft = false ∧
          Json.evaluate (field.read draft) tree = .ok next := by
  rw [takeValue]
  cases hfind : r.fields.find? (·.key = name) with
  | none =>
    have hname : ∀ field ∈ r.fields, field.key ≠ name := fun field hfield hkey =>
      List.find?_eq_none.1 hfind field hfield (decide_eq_true hkey)
    refine ⟨fun hok => .inl ⟨by simpa using hname, (Except.ok.inj hok).symm⟩, ?_⟩
    rintro (⟨-, rfl⟩ | ⟨field, hfield, hkey, -⟩)
    · rfl
    · exact absurd hkey (hname field hfield)
  | some field =>
    have hfield := List.mem_of_find?_eq_some hfind
    have hkey : field.key = name := by simpa using List.find?_some hfind
    dsimp only
    constructor
    · intro hok
      split at hok
      · cases hok
      · next hempty => exact .inr ⟨field, hfield, hkey, Bool.eq_false_of_not_eq_true hempty, hok⟩
    · rintro (⟨hname, -⟩ | ⟨other, hother, hname, hempty, hok⟩)
      · exact absurd (List.mem_map.2 ⟨field, hfield, hkey⟩) hname
      · obtain rfl := h.eq_of_key hfield hother (hkey.trans hname.symm)
        rw [if_neg (by simp [hempty]), hok]

/-- A key as it is written, and the name that is read from it. -/
def Names (key : List Char) (name : String) : Prop :=
  (scanString (key ++ ['"'])).map (fun (s, _) => String.ofList s) = .ok name

theorem names_of_spells (h : SpellsString name.toList key) : Names key name := by
  rw [Names, h.scanString]
  exact congrArg Except.ok String.ofList_toList

theorem takeMember_of_names (h : Names key name) (draft : δ) (tree : Tree) :
    r.takeMember draft (key, tree) = r.takeValue name draft tree := by
  obtain ⟨scanned, hscan, rfl⟩ := map_eq_ok.1 h
  rw [takeMember, hscan]
  rfl

theorem takeMember_eq_ok :
    r.takeMember draft member = .ok next ↔
      ∃ name, Names member.1 name ∧ r.takeValue name draft member.2 = .ok next := by
  constructor
  · intro h
    obtain ⟨scanned, hscan, hvalue⟩ := bind_eq_ok.1 h
    exact ⟨String.ofList scanned.1, by rw [Names, hscan, Except.map], hvalue⟩
  · rintro ⟨name, hname, hvalue⟩
    rwa [takeMember_of_names hname]

/-- Two members may be taken in either order. -/
theorem Commutes.takeMember_swap (h : r.Commutes) (hmember : r.takeMember draft member = .ok next)
    (hother : r.takeMember next other = .ok final) :
    ∃ between, r.takeMember draft other = .ok between ∧
      r.takeMember between member = .ok final := by
  obtain ⟨name, hname, hvalue⟩ := takeMember_eq_ok.1 hmember
  obtain ⟨name', hname', hvalue'⟩ := takeMember_eq_ok.1 hother
  simp only [takeMember_eq_ok]
  rcases h.takeValue_eq_ok.1 hvalue with ⟨hignored, rfl⟩ | ⟨field, hfield, rfl, hempty, hread⟩
  · exact ⟨final, ⟨name', hname', hvalue'⟩, name, hname, h.takeValue_eq_ok.2 (.inl ⟨hignored, rfl⟩)⟩
  rcases h.takeValue_eq_ok.1 hvalue' with ⟨hignored, rfl⟩ | ⟨field', hfield', rfl, hempty', hread'⟩
  · exact ⟨draft, ⟨name', hname', h.takeValue_eq_ok.2 (.inl ⟨hignored, rfl⟩)⟩, field.key, hname,
      hvalue⟩
  -- Both fill a field, and the second found its own still empty, so they are not the same.
  rw [h.fills field hfield draft _ next hread field' hfield', Bool.or_eq_false_iff,
    decide_eq_false_iff_not] at hempty'
  obtain ⟨between, hfirst, hsecond⟩ :=
    h.swaps field hfield field' hfield' (Ne.symm hempty'.1) draft _ _ next final hread hread'
  have hstill : field.isFilled between = false := by
    rw [h.fills field' hfield' draft _ between hfirst field hfield, hempty, Bool.or_false]
    exact decide_eq_false (Ne.symm hempty'.1)
  have hother := h.takeValue_eq_ok.2 (.inr ⟨field', hfield', rfl, hempty'.2, hfirst⟩)
  have hmember := h.takeValue_eq_ok.2 (.inr ⟨field, hfield, rfl, hstill, hsecond⟩)
  exact ⟨between, ⟨_, hname', hother⟩, _, hname, hmember⟩

/-! ## All members, and items -/

theorem takeMembers_cons_eq_ok :
    r.takeMembers draft (member :: members) = .ok final ↔
      ∃ next, r.takeMember draft member = .ok next ∧ r.takeMembers next members = .ok final := by
  rw [takeMembers, List.foldlM_cons]
  exact bind_eq_ok

theorem Commutes.takeMembers_perm (h : r.Commutes) (hperm : members.Perm members')
    (hok : r.takeMembers draft members = .ok final) : r.takeMembers draft members' = .ok final := by
  induction hperm generalizing draft with
  | nil => exact hok
  | cons member _ ih =>
    obtain ⟨next, hmember, hmembers⟩ := takeMembers_cons_eq_ok.1 hok
    exact takeMembers_cons_eq_ok.2 ⟨next, hmember, ih hmembers⟩
  | swap member other members =>
    obtain ⟨next, hother, hok⟩ := takeMembers_cons_eq_ok.1 hok
    obtain ⟨next', hmember, hmembers⟩ := takeMembers_cons_eq_ok.1 hok
    obtain ⟨between, hfirst, hsecond⟩ := h.takeMember_swap hother hmember
    exact takeMembers_cons_eq_ok.2
      ⟨between, hfirst, takeMembers_cons_eq_ok.2 ⟨next', hsecond, hmembers⟩⟩
  | trans _ _ ih ih' => exact ih' (ih hok)

theorem Commutes.takeMember_ignored (h : r.Commutes) (hkey : SpellsString name.toList key)
    (hname : name ∉ r.fields.map (·.key)) (draft : δ) (tree : Tree) :
    r.takeMember draft (key, tree) = .ok draft := by
  rw [takeMember_of_names (names_of_spells hkey)]
  exact h.takeValue_eq_ok.2 (.inl ⟨hname, rfl⟩)

theorem Commutes.takeMember_field (h : r.Commutes) {field : FieldReader δ}
    (hfield : field ∈ r.fields)
    (hkey : SpellsString field.key.toList key) (hempty : field.isFilled draft = false)
    (tree : Tree) :
    r.takeMember draft (key, tree) = .ok next ↔
      Json.evaluate (field.read draft) tree = .ok next := by
  rw [takeMember_of_names (names_of_spells hkey), h.takeValue_eq_ok]
  constructor
  · rintro (⟨hname, -⟩ | ⟨other, hother, hname, -, hok⟩)
    · exact absurd (List.mem_map_of_mem hfield) hname
    · rwa [← h.eq_of_key hother hfield hname]
  · exact fun hok => .inr ⟨field, hfield, rfl, hempty, hok⟩

/-- Members that name the fields in order of declaration are taken as their values are as items. -/
theorem Commutes.takeMembers_fields (h : r.Commutes) {fields : List (FieldReader δ)} {count : ℕ}
    (hfields : fields ⊆ r.fields) (hkeys : (fields.map (·.key)).Nodup)
    (hempty : ∀ field ∈ fields, field.isFilled draft = false)
    (hmembers : InOrder fields members) :
    r.takeMembers draft members = .ok final ↔
      r.takeItems count fields draft (members.map Prod.snd) = .ok final := by
  induction hmembers generalizing count draft with
  | nil => rfl
  | @cons field member fields members hkey _ ih =>
    rw [List.map_cons, List.nodup_cons] at hkeys
    rw [List.cons_subset] at hfields
    rw [List.forall_mem_cons] at hempty
    rw [takeMembers_cons_eq_ok, List.map_cons, takeItems, bind_eq_ok]
    refine exists_congr fun next => ?_
    obtain ⟨key, tree⟩ := member
    rw [h.takeMember_field hfields.1 hkey hempty.1]
    refine and_congr_right fun hread => ih hfields.2 hkeys.2 fun other hother => ?_
    rw [h.fills field hfields.1 draft tree next hread other (hfields.2 hother),
      hempty.2 other hother,
      Bool.or_false]
    exact decide_eq_false fun heq => hkeys.1 (heq ▸ List.mem_map_of_mem hother)

/-! ## Values of fields -/

theorem Commutes.takeMember_keeps (h : r.Commutes) (hinner : r.Keeps inner)
    (hkey : SpellsString name.toList key) (htree : inner name tree tree') (hwell : tree.WellFormed)
    (hok : r.takeMember draft (key, tree) = .ok next) :
    r.takeMember draft (key, tree') = .ok next := by
  rw [takeMember_of_names (names_of_spells hkey)] at hok ⊢
  rcases h.takeValue_eq_ok.1 hok with ⟨hname, hnext⟩ | ⟨field, hfield, rfl, hempty, hread⟩
  · exact h.takeValue_eq_ok.2 (.inl ⟨hname, hnext⟩)
  · have hkept := hinner.evaluate field hfield draft tree tree' next htree hwell hread
    exact h.takeValue_eq_ok.2 (.inr ⟨field, hfield, rfl, hempty, hkept⟩)

theorem takeMembers_keeps {before after : List (List Char × Tree)}
    (hmember : ∀ draft next, r.takeMember draft member = .ok next →
      r.takeMember draft other = .ok next)
    (hok : r.takeMembers draft (before ++ member :: after) = .ok final) :
    r.takeMembers draft (before ++ other :: after) = .ok final := by
  induction before generalizing draft with
  | nil =>
    obtain ⟨next, hfirst, hrest⟩ := takeMembers_cons_eq_ok.1 hok
    exact takeMembers_cons_eq_ok.2 ⟨next, hmember draft next hfirst, hrest⟩
  | cons first before ih =>
    obtain ⟨next, hfirst, hrest⟩ := takeMembers_cons_eq_ok.1 hok
    exact takeMembers_cons_eq_ok.2 ⟨next, hfirst, ih hrest⟩

theorem takeItems_keeps {field : FieldReader δ} {fields : List (FieldReader δ)} {count : ℕ}
    {before after : List Tree} (hfield : fields[before.length]? = some field)
    (hitem : ∀ draft next, Json.evaluate (field.read draft) tree = .ok next →
      Json.evaluate (field.read draft) tree' = .ok next)
    (hok : r.takeItems count fields draft (before ++ tree :: after) = .ok final) :
    r.takeItems count fields draft (before ++ tree' :: after) = .ok final := by
  induction before generalizing fields count draft with
  | nil =>
    cases fields with
    | nil => cases hfield
    | cons first fields =>
      obtain rfl := Option.some.inj hfield
      obtain ⟨next, hfirst, hrest⟩ := bind_eq_ok.1 hok
      exact bind_eq_ok.2 ⟨next, hitem draft next hfirst, hrest⟩
  | cons item before ih =>
    cases fields with
    | nil => cases hfield
    | cons first fields =>
      obtain ⟨next, hfirst, hrest⟩ := bind_eq_ok.1 hok
      exact bind_eq_ok.2 ⟨next, hfirst, ih hfield hrest⟩

/-! ## Records -/

theorem ofTree_object_eq_ok {x : α} :
    r.ofTree (.object members) = .ok x ↔
      ∃ draft, r.takeMembers r.empty members = .ok draft ∧ r.finish draft = .ok x :=
  bind_eq_ok

theorem ofTree_array_eq_ok {x : α} :
    r.ofTree (.array items) = .ok x ↔
      ∃ draft, r.takeItems 0 r.fields r.empty items = .ok draft ∧ r.finish draft = .ok x :=
  bind_eq_ok

theorem passedString_of_fields {fields : List (FieldReader δ)}
    (h : InOrder fields members) :
    ∀ member ∈ members, PassedString member.1 := by
  induction h with
  | nil => exact List.forall_mem_nil _
  | cons hkey _ ih => exact List.forall_mem_cons.2 ⟨hkey.passed, ih⟩

theorem Rearranged.wellFormed (h : r.Rearranged inner tree tree') (hinner : r.Keeps inner)
    (htree : tree.WellFormed) : tree'.WellFormed := by
  induction h with
  | refl => exact htree
  | trans _ _ ih ih' => exact ih' (ih htree)
  | reorder hperm =>
    rw [Tree.wellFormed_object] at htree ⊢
    exact fun member hmember => htree member (hperm.mem_iff.2 hmember)
  | insert members hkey _ hwell =>
    rw [Tree.wellFormed_object] at htree ⊢
    exact List.forall_mem_cons.2 ⟨⟨hkey.passed, hwell⟩, htree⟩
  | toArray _ =>
    rw [Tree.wellFormed_object] at htree
    rw [Tree.wellFormed_array, List.forall_mem_map]
    exact fun member hmember => (htree member hmember).2
  | toObject hfields =>
    rw [Tree.wellFormed_array, List.forall_mem_map] at htree
    rw [Tree.wellFormed_object]
    exact fun member hmember =>
      ⟨passedString_of_fields hfields member hmember, htree member hmember⟩
  | inMember before after hkey hchange =>
    simp only [Tree.wellFormed_object, List.forall_mem_append, List.forall_mem_cons] at htree ⊢
    obtain ⟨hbefore, ⟨hpassed, hwell⟩, hafter⟩ := htree
    exact ⟨hbefore, ⟨hpassed, hinner.wellFormed _ _ _ hchange hwell⟩, hafter⟩
  | inItem before after _ hchange =>
    simp only [Tree.wellFormed_array, List.forall_mem_append, List.forall_mem_cons] at htree ⊢
    obtain ⟨hbefore, hwell, hafter⟩ := htree
    exact ⟨hbefore, hinner.wellFormed _ _ _ hchange hwell, hafter⟩

/-- The record that is read from a tree stays the same, step by step. -/
theorem Rearranged.ofTree (h : r.Rearranged inner tree tree') (hcommutes : r.Commutes)
    (hinner : r.Keeps inner) (htree : tree.WellFormed) {x : α} (hx : r.ofTree tree = .ok x) :
    r.ofTree tree' = .ok x := by
  induction h with
  | refl => exact hx
  | trans hfirst _ ih ih' => exact ih' (hfirst.wellFormed hinner htree) (ih htree hx)
  | reorder hperm =>
    obtain ⟨draft, hmembers, hfinish⟩ := ofTree_object_eq_ok.1 hx
    exact ofTree_object_eq_ok.2 ⟨draft, hcommutes.takeMembers_perm hperm hmembers, hfinish⟩
  | insert members hkey hname =>
    obtain ⟨draft, hmembers, hfinish⟩ := ofTree_object_eq_ok.1 hx
    have hignored := hcommutes.takeMember_ignored hkey hname r.empty
    exact ofTree_object_eq_ok.2
      ⟨draft, takeMembers_cons_eq_ok.2 ⟨r.empty, hignored _, hmembers⟩, hfinish⟩
  | toArray hfields =>
    obtain ⟨draft, hmembers, hfinish⟩ := ofTree_object_eq_ok.1 hx
    rw [hcommutes.takeMembers_fields (List.Subset.refl _) hcommutes.keys hcommutes.empty hfields]
      at hmembers
    exact ofTree_array_eq_ok.2 ⟨draft, hmembers, hfinish⟩
  | toObject hfields =>
    obtain ⟨draft, hitems, hfinish⟩ := ofTree_array_eq_ok.1 hx
    rw [← hcommutes.takeMembers_fields (List.Subset.refl _) hcommutes.keys hcommutes.empty hfields]
      at hitems
    exact ofTree_object_eq_ok.2 ⟨draft, hitems, hfinish⟩
  | inMember before after hkey hchange =>
    obtain ⟨draft, hmembers, hfinish⟩ := ofTree_object_eq_ok.1 hx
    rw [Tree.wellFormed_object] at htree
    have hwell := (htree _ (List.mem_append_right before List.mem_cons_self)).2
    have hkept := takeMembers_keeps
      (fun _ _ => hcommutes.takeMember_keeps hinner hkey hchange hwell) hmembers
    exact ofTree_object_eq_ok.2 ⟨draft, hkept, hfinish⟩
  | @inItem field tree tree' before after hfield hchange =>
    obtain ⟨draft, hitems, hfinish⟩ := ofTree_array_eq_ok.1 hx
    rw [Tree.wellFormed_array] at htree
    have hwell := htree _ (List.mem_append_right before List.mem_cons_self)
    have heval (draft next) := hinner.evaluate field (List.mem_of_getElem? hfield) draft tree tree'
      next hchange hwell
    have hkept := takeItems_keeps hfield heval hitems
    exact ofTree_array_eq_ok.2 ⟨draft, hkept, hfinish⟩

/-- A text that is read has a tree, and all texts of a rearranged tree are read alike. -/
theorem readText_rearranged (hcommutes : r.Commutes) (hinner : r.Keeps inner)
    (hreads : ∀ tree, r.FieldsRead tree)
    (hfinds : ∀ field ∈ r.fields, ∀ draft, Finds (field.read draft)) {text : String} {x : α}
    (hx : r.readText text = .ok x) :
    (∃ tree, Written (.spaced tree) text.toList) ∧
      ∀ tree tree' (text' : String), Written (.spaced tree) text.toList →
        r.Rearranged inner tree tree' → Written (.spaced tree') text'.toList →
          r.readText text' = .ok x := by
  refine ⟨exists_written_of_readText hfinds hx, fun tree tree' text' htext h htext' => ?_⟩
  rw [readText_written htext fun child _ => hreads child] at hx
  rw [readText_written htext' fun child _ => hreads child]
  exact h.ofTree hcommutes hinner htext.wellFormed hx

end RecordReader

/-! ## Fields that hold an option -/

namespace FieldReader

variable {read : List Char → Except ReadError (Scanned β)} {fieldKey : String} {get : δ → Option β}
  {fill : δ → β → δ}

theorem evaluate_ofOption :
    evaluate ((ofOption fieldKey get fill read).read draft) tree = .ok next ↔
      ∃ x, evaluate read tree = .ok x ∧ fill draft x = next := by
  have hmap : evaluate ((ofOption fieldKey get fill read).read draft) tree =
      (evaluate read tree).map (fill draft) := by
    simp only [evaluate, ofOption]
    cases read tree.compact <;> rfl
  rw [hmap, map_eq_ok]

/-- Two fields may be read in either order if they may be filled so. -/
theorem ofOption_swaps {γ : Type} {read' : List Char → Except ReadError (Scanned γ)} {key' : String}
    {get' : δ → Option γ} {fill' : δ → γ → δ}
    (hfill : ∀ draft x y, fill' (fill draft x) y = fill (fill' draft y) x)
    (h : evaluate ((ofOption fieldKey get fill read).read draft) tree = .ok next)
    (h' : evaluate ((ofOption key' get' fill' read').read next) tree' = .ok final) :
    ∃ between, evaluate ((ofOption key' get' fill' read').read draft) tree' = .ok between ∧
      evaluate ((ofOption fieldKey get fill read).read between) tree = .ok final := by
  obtain ⟨x, hx, rfl⟩ := evaluate_ofOption.1 h
  obtain ⟨y, hy, rfl⟩ := evaluate_ofOption.1 h'
  exact ⟨fill' draft y, evaluate_ofOption.2 ⟨y, hy, rfl⟩,
    evaluate_ofOption.2 ⟨x, hx, (hfill draft x y).symm⟩⟩

theorem ofOption_readsTree (h : ReadsTree read tree) (draft : δ) :
    ReadsTree ((ofOption fieldKey get fill read).read draft) tree := by
  intro text before rest htext hbefore hrest
  have hread := h htext hbefore hrest
  simp only [evaluate, ofOption] at hread ⊢
  rw [hread]
  cases read tree.compact <;> rfl

end FieldReader

end HostStatus.Json
