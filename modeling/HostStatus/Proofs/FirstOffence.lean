import HostStatus.Proofs.Acceptance
import Mathlib.Data.List.Find

/-!
# The first offence against a record

What a record demands is a list of keys in order of declaration, each with the errors for the values
that it does not take. A member of an object offends if it repeats a field, whatever its value is,
or if its value is not taken; what does not name a field never offends. The error of an object is
that of the first member that offends, and only if there is none can a field be missing, the first
one in the order of declaration.

None of this mentions the draft that is filled while an object is read.
`Lawful.decodeMember_eq_error` joins the two, for one member: the filled fields are those that the
members before it name. By induction on the members, from the last one, the error of a whole object
follows from it.
-/

namespace HostStatus.Json

variable {α δ : Type} {j j' : Json} {e : ReadError} {key : String}
  {member : String × Json} {members : List (String × Json)}

/-! ## Demands -/

/-- A field of a record as it is demanded. -/
structure Demand where
  key : String
  Refuses : Json → ReadError → Prop

/-- A member offends where the members before it are these. -/
inductive Offends (demands : List Demand) (before : List (String × Json)) :
    String × Json → ReadError → Prop
  | repeated {demand : Demand} {j : Json} (hdemand : demand ∈ demands)
      (hbefore : demand.key ∈ before.map Prod.fst) :
      Offends demands before (demand.key, j) (.unfit (.duplicateField demand.key))
  | refused {demand : Demand} {j : Json} {e : ReadError} (hdemand : demand ∈ demands)
      (hbefore : demand.key ∉ before.map Prod.fst) (hvalue : demand.Refuses j e) :
      Offends demands before (demand.key, j) e

def Inoffensive (demands : List Demand) (members : List (String × Json)) : Prop :=
  ∀ before member, before ++ [member] <+: members → ∀ e, ¬Offends demands before member e

def FirstOffence (demands : List Demand) (members : List (String × Json)) (e : ReadError) : Prop :=
  ∃ before member, before ++ [member] <+: members ∧ Inoffensive demands before ∧
    Offends demands before member e

/-- The first key in order of declaration that no member has. -/
def missing? (demands : List Demand) (members : List (String × Json)) : Option String :=
  (demands.map Demand.key).find? (· ∉ members.map Prod.fst)

inductive RefusesObject (demands : List Demand) (members : List (String × Json)) : ReadError → Prop
  | offence {e : ReadError} (h : FirstOffence demands members e) : RefusesObject demands members e
  | missing {key : String} (h : Inoffensive demands members)
      (hkey : missing? demands members = some key) :
      RefusesObject demands members (.unfit (.missingField key))

/-- An array in place of a record, of which `count` items were taken. -/
inductive RefusesItems (tooFew : ℕ → Mismatch) : ℕ → List Demand → List Json → ReadError → Prop
  | surplus {count : ℕ} {item : Json} {items : List Json} :
      RefusesItems tooFew count [] (item :: items) .malformed
  | short {count : ℕ} {demand : Demand} {demands : List Demand} :
      RefusesItems tooFew count (demand :: demands) [] (.unfit (tooFew count))
  | refused {count : ℕ} {demand : Demand} {demands : List Demand} {item : Json} {items : List Json}
      {e : ReadError} (h : demand.Refuses item e) :
      RefusesItems tooFew count (demand :: demands) (item :: items) e
  | next {count : ℕ} {demand : Demand} {demands : List Demand} {item : Json} {items : List Json}
      {e : ReadError} (htaken : ∀ e, ¬demand.Refuses item e)
      (h : RefusesItems tooFew (count + 1) demands items e) :
      RefusesItems tooFew count (demand :: demands) (item :: items) e

inductive RefusesRecord (name : String) (demands : List Demand) : Json → ReadError → Prop
  | object {members : List (String × Json)} {e : ReadError} (h : RefusesObject demands members e) :
      RefusesRecord name demands (.object members) e
  | array {items : List Json} {e : ReadError}
      (h : RefusesItems (.tooFewItems · name demands.length) 0 demands items e) :
      RefusesRecord name demands (.array items) e
  | other {j : Json} (hobject : ∀ members, j ≠ .object members)
      (harray : ∀ items, j ≠ .array items) :
      RefusesRecord name demands j (j.misfit (.record name))

section

variable {demands : List Demand} {demand : Demand}

theorem offends_iff {before : List (String × Json)} :
    Offends demands before (key, j) e ↔
      ∃ demand ∈ demands, demand.key = key ∧
        (key ∈ before.map Prod.fst ∧ e = .unfit (.duplicateField key) ∨
          key ∉ before.map Prod.fst ∧ demand.Refuses j e) := by
  constructor
  · rintro (⟨hdemand, hbefore⟩ | ⟨hdemand, hbefore, hvalue⟩)
    · exact ⟨_, hdemand, rfl, .inl ⟨hbefore, rfl⟩⟩
    · exact ⟨_, hdemand, rfl, .inr ⟨hbefore, hvalue⟩⟩
  · rintro ⟨demand, hdemand, rfl, ⟨hbefore, rfl⟩ | ⟨hbefore, hvalue⟩⟩
    · exact .repeated hdemand hbefore
    · exact .refused hdemand hbefore hvalue

theorem inoffensive_concat :
    Inoffensive demands (members ++ [member]) ↔
      Inoffensive demands members ∧ ∀ e, ¬Offends demands members member e := by
  constructor
  · intro h
    exact ⟨fun before _ hbegins => h before _ (hbegins.trans (List.prefix_append ..)),
      h members member List.prefix_rfl⟩
  · rintro ⟨hmembers, hmember⟩ before member' hbegins
    rcases List.prefix_concat_iff.1 hbegins with heq | hbegins
    · obtain ⟨rfl, hlast⟩ := List.append_inj' heq rfl
      obtain rfl := List.singleton_injective hlast
      exact hmember
    · exact hmembers before member' hbegins

theorem inoffensive_nil : Inoffensive demands [] := fun before _ hbegins =>
  absurd (List.prefix_nil.1 hbegins)
    (List.append_ne_nil_of_right_ne_nil before (List.cons_ne_nil _ _))

theorem firstOffence_concat :
    FirstOffence demands (members ++ [member]) e ↔
      FirstOffence demands members e ∨
        Inoffensive demands members ∧ Offends demands members member e := by
  constructor
  · rintro ⟨before, member', hbegins, hbefore, hmember⟩
    rcases List.prefix_concat_iff.1 hbegins with heq | hbegins
    · obtain ⟨rfl, hlast⟩ := List.append_inj' heq rfl
      obtain rfl := List.singleton_injective hlast
      exact .inr ⟨hbefore, hmember⟩
    · exact .inl ⟨before, member', hbegins, hbefore, hmember⟩
  · rintro (⟨before, member', hbegins, hbefore, hmember⟩ | ⟨hmembers, hmember⟩)
    · exact ⟨before, member', hbegins.trans (List.prefix_append ..), hbefore, hmember⟩
    · exact ⟨members, member, List.prefix_rfl, hmembers, hmember⟩

theorem Inoffensive.not_firstOffence (h : Inoffensive demands members) :
    ¬FirstOffence demands members e := fun ⟨before, member, hbegins, _, hmember⟩ =>
  h before member hbegins e hmember

/-! ## Fields that are given once -/

/-- The only member of that key has that value. -/
def Once (key : String) (j : Json) (members : List (String × Json)) : Prop :=
  members.filter (·.1 = key) = [(key, j)]

theorem Once.unique (h : Once key j members) (h' : Once key j' members) : j = j' :=
  congrArg Prod.snd (List.singleton_injective (h.symm.trans h'))

theorem Once.mem (h : Once key j members) : (key, j) ∈ members :=
  List.mem_of_mem_filter (by rw [h]; exact List.mem_singleton_self _)

/-- No member of the key comes before the one that is given. -/
theorem Once.eq_of_prefix {before : List (String × Json)} (h : Once key j members)
    (hbegins : before ++ [(key, j')] <+: members) : key ∉ before.map Prod.fst ∧ j' = j := by
  have hfilter := hbegins.filter (·.1 = key)
  rw [h, List.filter_append, List.filter_singleton, decide_eq_true rfl, cond_true] at hfilter
  have hlength := hfilter.length_le
  rw [List.length_append, List.length_singleton, List.length_singleton] at hlength
  have hnil : before.filter (·.1 = key) = [] := List.eq_nil_of_length_eq_zero (by omega)
  rw [hnil, List.nil_append] at hfilter
  constructor
  · intro hmem
    obtain ⟨member, hmember, hkey⟩ := List.mem_map.1 hmem
    exact List.filter_eq_nil_iff.1 hnil member hmember (decide_eq_true hkey)
  · have heq := hfilter.eq_of_length rfl
    exact congrArg Prod.snd (List.singleton_injective heq)

theorem Inoffensive.once (h : Inoffensive demands members) (hdemand : demand ∈ demands)
    (hmem : (demand.key, j) ∈ members) : Once demand.key j members := by
  obtain ⟨before, after, rfl⟩ := List.append_of_mem hmem
  have hbefore : demand.key ∉ before.map Prod.fst := fun hrepeated =>
    h before (demand.key, j) ⟨after, by simp⟩ _ (.repeated hdemand hrepeated)
  have hafter : demand.key ∉ after.map Prod.fst := by
    intro hrepeated
    obtain ⟨⟨key, j'⟩, hmember, rfl⟩ := List.mem_map.1 hrepeated
    obtain ⟨between, rest, rfl⟩ := List.append_of_mem hmember
    exact h (before ++ (demand.key, j) :: between) (demand.key, j') ⟨rest, by simp⟩ _
      (.repeated hdemand (by simp))
  have hnone {members : List (String × Json)} (hkey : demand.key ∉ members.map Prod.fst) :
      members.filter (·.1 = demand.key) = [] :=
    List.filter_eq_nil_iff.2 fun member hmember heq =>
      hkey (List.mem_map.2 ⟨member, hmember, of_decide_eq_true heq⟩)
  have hown : decide (demand.key = demand.key) = true := decide_eq_true rfl
  rw [Once, List.filter_append, List.filter_cons, hown, if_pos rfl, hnone hbefore, hnone hafter,
    List.nil_append]

theorem inoffensive_iff :
    Inoffensive demands members ↔ ∀ e, ¬FirstOffence demands members e := by
  refine ⟨fun h e => h.not_firstOffence, fun h => ?_⟩
  induction members using List.reverseRecOn with
  | nil => exact inoffensive_nil
  | append_singleton members member ih =>
    simp only [firstOffence_concat, not_or, not_and] at h
    have hmembers := ih fun e => (h e).1
    exact inoffensive_concat.2 ⟨hmembers, fun e => (h e).2 hmembers⟩

/-- Nothing is wrong with an object exactly if each field is there once with a value that is
taken. -/
theorem not_refusesObject_iff :
    (∀ e, ¬RefusesObject demands members e) ↔
      ∀ demand ∈ demands, ∃ j, Once demand.key j members ∧ ∀ e, ¬demand.Refuses j e := by
  constructor
  · intro h demand hdemand
    have hmembers : Inoffensive demands members :=
      inoffensive_iff.2 fun e hoffence => h e (.offence hoffence)
    have hnone : missing? demands members = none := Option.eq_none_iff_forall_not_mem.2
      fun key hkey => h _ (.missing hmembers hkey)
    have hkey : demand.key ∈ members.map Prod.fst := by
      have hfound := List.find?_eq_none.1 hnone demand.key (List.mem_map_of_mem hdemand)
      simpa using hfound
    obtain ⟨⟨key, j⟩, hmem, rfl⟩ := List.mem_map.1 hkey
    have honce := hmembers.once hdemand hmem
    obtain ⟨before, after, rfl⟩ := List.append_of_mem hmem
    have hbegins : before ++ [(demand.key, j)] <+: before ++ (demand.key, j) :: after :=
      ⟨after, by simp⟩
    exact ⟨j, honce, fun e hrefuses =>
      hmembers before _ hbegins e (.refused hdemand (honce.eq_of_prefix hbegins).1 hrefuses)⟩
  · intro h
    have hmembers : Inoffensive demands members := by
      intro before member hbegins e hmember
      cases hmember with
      | repeated hdemand hbefore =>
        obtain ⟨j, honce, -⟩ := h _ hdemand
        exact (honce.eq_of_prefix hbegins).1 hbefore
      | refused hdemand hbefore hvalue =>
        obtain ⟨j, honce, htaken⟩ := h _ hdemand
        rw [(honce.eq_of_prefix hbegins).2] at hvalue
        exact htaken e hvalue
    intro e hrefuses
    cases hrefuses with
    | offence hoffence => exact hmembers.not_firstOffence hoffence
    | missing _ hkey =>
      obtain ⟨demand, hdemand, rfl⟩ := List.mem_map.1 (List.mem_of_find?_eq_some hkey)
      obtain ⟨j, honce, -⟩ := h demand hdemand
      have habsent := List.find?_some hkey
      exact of_decide_eq_true habsent (List.mem_map_of_mem honce.mem)

end

/-! ## Members as they are decoded -/

/-- The rule reads the field that is demanded, and its errors are those of the demand. -/
structure FieldRule.Meets (rule : FieldRule δ) (demand : Demand) : Prop where
  key : rule.field.key = demand.key
  refuses : ∀ {draft j e}, rule.decode draft j = .error e ↔ demand.Refuses j e

theorem exists_meets_of_mem_rules {rules : List (FieldRule δ)} {demands : List Demand}
    (h : List.Forall₂ FieldRule.Meets rules demands) {rule : FieldRule δ} (hrule : rule ∈ rules) :
    ∃ demand ∈ demands, rule.Meets demand := by
  induction h with
  | nil => cases hrule
  | cons hmeets _ ih =>
    rcases List.mem_cons.1 hrule with rfl | hrule
    · exact ⟨_, List.mem_cons_self, hmeets⟩
    · obtain ⟨demand, hdemand, hmeets⟩ := ih hrule
      exact ⟨demand, List.mem_cons_of_mem _ hdemand, hmeets⟩

theorem exists_meets_of_mem_demands {rules : List (FieldRule δ)} {demands : List Demand}
    (h : List.Forall₂ FieldRule.Meets rules demands) {demand : Demand}
    (hdemand : demand ∈ demands) :
    ∃ rule ∈ rules, rule.Meets demand := by
  induction h with
  | nil => cases hdemand
  | cons hmeets _ ih =>
    rcases List.mem_cons.1 hdemand with rfl | hdemand
    · exact ⟨_, List.mem_cons_self, hmeets⟩
    · obtain ⟨rule, hrule, hmeets⟩ := ih hdemand
      exact ⟨rule, List.mem_cons_of_mem _ hrule, hmeets⟩

theorem map_key_of_meets {rules : List (FieldRule δ)} {demands : List Demand}
    (h : List.Forall₂ FieldRule.Meets rules demands) :
    demands.map Demand.key = rules.map (·.field.key) := by
  induction h with
  | nil => rfl
  | cons hmeets _ ih => rw [List.map_cons, List.map_cons, ih, hmeets.key]

namespace RecordRules

variable {r : RecordReader δ α} {R : RecordRules r} {demands : List Demand} {draft final : δ}

theorem decodeMembers_concat (rules : List (FieldRule δ)) (draft : δ) :
    decodeMembers rules draft (members ++ [member]) =
      decodeMembers rules draft members >>= fun next => decodeMember rules next member := by
  rw [decodeMembers, List.foldlM_append]
  congr 1
  funext next
  rw [List.foldlM_cons]
  exact bind_pure _

theorem Lawful.isFilled_iff (h : R.Lawful)
    (hok : decodeMembers R.rules r.empty members = .ok draft) {rule : FieldRule δ}
    (hrule : rule ∈ R.rules) :
    rule.field.isFilled draft = true ↔ rule.field.key ∈ members.map Prod.fst := by
  rw [h.isFilled_decodeMembers hok hrule, h.empty rule hrule, or_iff_left Bool.false_ne_true]

/-- The error for a member, by the members before it. -/
theorem Lawful.decodeMember_eq_error (h : R.Lawful)
    (hmeets : List.Forall₂ FieldRule.Meets R.rules demands)
    (hok : decodeMembers R.rules r.empty members = .ok draft) :
    decodeMember R.rules draft member = .error e ↔ Offends demands members member e := by
  obtain ⟨key, j⟩ := member
  rw [offends_iff]
  rcases R.decodeMember_cases draft (key, j) with ⟨hnone, hmember⟩ | ⟨rule, hrule, hkey, hmember⟩
  · rw [hmember]
    refine iff_of_false nofun ?_
    rintro ⟨demand, hdemand, rfl, -⟩
    obtain ⟨rule, hrule, hrulemeets⟩ := exists_meets_of_mem_demands hmeets hdemand
    exact hnone rule hrule hrulemeets.key
  · obtain rfl : rule.field.key = key := hkey
    have hfilled := h.isFilled_iff hok hrule
    rw [hmember]
    constructor
    · intro herror
      obtain ⟨demand, hdemand, hrulemeets⟩ := exists_meets_of_mem_rules hmeets hrule
      refine ⟨demand, hdemand, hrulemeets.key.symm, ?_⟩
      split at herror
      · next hrepeated =>
        cases herror
        exact .inl ⟨hfilled.1 hrepeated, rfl⟩
      · next hfresh => exact .inr ⟨mt hfilled.2 hfresh, hrulemeets.refuses.1 herror⟩
    · rintro ⟨demand, hdemand, hkey, hoffence⟩
      obtain ⟨other, hother, hothermeets⟩ := exists_meets_of_mem_demands hmeets hdemand
      obtain rfl := h.eq_of_key hother hrule (hothermeets.key.trans hkey)
      rcases hoffence with ⟨hrepeated, rfl⟩ | ⟨hfresh, hvalue⟩
      · rw [if_pos (hfilled.2 hrepeated)]
      · rw [if_neg (mt hfilled.1 hfresh), hothermeets.refuses.2 hvalue]

/-- The error for members is that of the first one that offends. -/
theorem Lawful.decodeMembers_eq_error (h : R.Lawful)
    (hmeets : List.Forall₂ FieldRule.Meets R.rules demands) :
    decodeMembers R.rules r.empty members = .error e ↔ FirstOffence demands members e := by
  induction members using List.reverseRecOn generalizing e with
  | nil =>
    exact iff_of_false nofun inoffensive_nil.not_firstOffence
  | append_singleton members member ih =>
    rw [decodeMembers_concat, firstOffence_concat]
    cases hmembers : decodeMembers R.rules r.empty members with
    -- an earlier member offends already, so the last one is not looked at
    | error e' =>
      have hoffence : FirstOffence demands members e' := ih.1 hmembers
      have hinoffensive : ¬Inoffensive demands members := fun h => h.not_firstOffence hoffence
      rw [or_iff_left fun hmember => hinoffensive hmember.1, ← ih, hmembers]
      rfl
    | ok draft =>
      have hnone : ∀ e, ¬FirstOffence demands members e := fun e hoffence => by
        rw [ih.2 hoffence] at hmembers
        cases hmembers
      rw [or_iff_right (hnone e), and_iff_right (inoffensive_iff.2 hnone)]
      exact h.decodeMember_eq_error hmeets hmembers

theorem Lawful.inoffensive_of_eq_ok (h : R.Lawful)
    (hmeets : List.Forall₂ FieldRule.Meets R.rules demands)
    (hok : decodeMembers R.rules r.empty members = .ok final) : Inoffensive demands members :=
  inoffensive_iff.2 fun e hoffence => by
    rw [(h.decodeMembers_eq_error hmeets).2 hoffence] at hok
    cases hok

/-- After members without offence, a missing field is all that can be wrong. -/
theorem Lawful.finish_eq_error (h : R.Lawful)
    (hmeets : List.Forall₂ FieldRule.Meets R.rules demands)
    (hok : decodeMembers R.rules r.empty members = .ok final) :
    r.finish final = .error e ↔
      ∃ key, missing? demands members = some key ∧ e = .unfit (.missingField key) := by
  have hmissing : missing? demands members =
      (r.fields.find? (!·.isFilled final)).map (·.key) := by
    rw [missing?, map_key_of_meets hmeets, R.fields_eq, List.find?_map, List.find?_map,
      Option.map_map]
    refine congrArg _ (List.find?_congr fun rule hrule => ?_)
    have hfilled := h.isFilled_iff hok hrule
    change decide (rule.field.key ∉ members.map Prod.fst) = !rule.field.isFilled final
    rw [Bool.eq_iff_iff, decide_eq_true_eq, Bool.not_eq_true', ← Bool.not_eq_true, hfilled]
  cases hfind : r.fields.find? (!·.isFilled final) with
  | some field =>
    rw [RecordReader.finish, hmissing, hfind]
    simp [eq_comm]
  | none =>
    obtain ⟨x, hx⟩ : ∃ x, r.finish final = .ok x := h.finish_isOk.2 fun rule hrule => by
      have hfield : rule.field ∈ r.fields := by
        rw [R.fields_eq]
        exact List.mem_map_of_mem hrule
      simpa using List.find?_eq_none.1 hfind rule.field hfield
    rw [hx, hmissing, hfind]
    refine iff_of_false (by rintro ⟨⟩) ?_
    rintro ⟨_, ⟨⟩, -⟩

theorem Lawful.decode_object_eq_error (h : R.Lawful)
    (hmeets : List.Forall₂ FieldRule.Meets R.rules demands) :
    R.decode (.object members) = .error e ↔ RefusesObject demands members e := by
  change (decodeMembers R.rules r.empty members >>= r.finish) = .error e ↔ _
  cases hmembers : decodeMembers R.rules r.empty members with
  | error e' =>
    have hoffence := (h.decodeMembers_eq_error hmeets).1 hmembers
    constructor
    · rintro ⟨⟩
      exact .offence hoffence
    · intro hrefuses
      cases hrefuses with
      | offence hfirst =>
        rw [(h.decodeMembers_eq_error hmeets).2 hfirst] at hmembers
        rw [Except.error.inj hmembers]
        rfl
      | missing hinoffensive => exact absurd hoffence hinoffensive.not_firstOffence
  | ok final =>
    have hinoffensive := h.inoffensive_of_eq_ok hmeets hmembers
    refine (h.finish_eq_error hmeets hmembers).trans ⟨?_, ?_⟩
    · rintro ⟨key, hkey, rfl⟩
      exact .missing hinoffensive hkey
    · intro hrefuses
      cases hrefuses with
      | offence hoffence => exact absurd hoffence hinoffensive.not_firstOffence
      | missing _ hkey => exact ⟨_, hkey, rfl⟩

/-! ## Items as they are decoded -/

theorem decodeItems_eq_error {tooFew : ℕ → Mismatch} {rules : List (FieldRule δ)} {count : ℕ}
    {items : List Json} (hmeets : List.Forall₂ FieldRule.Meets rules demands) :
    decodeItems tooFew count rules draft items = .error e ↔
      RefusesItems tooFew count demands items e := by
  induction hmeets generalizing count draft items with
  | nil =>
    cases items with
    | nil => exact iff_of_false nofun nofun
    | cons item items =>
      constructor
      · rintro ⟨⟩
        exact .surplus
      · rintro ⟨⟩
        rfl
  | @cons rule demand rules demands hrule _ ih =>
    cases items with
    | nil =>
      constructor
      · rintro ⟨⟩
        exact .short
      · rintro ⟨⟩
        rfl
    | cons item items =>
      rw [decodeItems]
      cases hitem : rule.decode draft item with
      | error e' =>
        have hrefuses := hrule.refuses.1 hitem
        constructor
        · rintro ⟨⟩
          exact .refused hrefuses
        · intro h
          cases h with
          | refused hfirst =>
            rw [hrule.refuses.2 hfirst] at hitem
            rw [Except.error.inj hitem]
            rfl
          | next htaken => exact absurd hrefuses (htaken e')
      | ok next =>
        have htaken : ∀ e, ¬demand.Refuses item e := fun e hrefuses => by
          rw [hrule.refuses.2 hrefuses] at hitem
          cases hitem
        refine ih.trans ⟨.next htaken, fun h => ?_⟩
        cases h with
        | refused hrefuses => exact absurd hrefuses (htaken e)
        | next _ hrest => exact hrest

/-- The fields that items stand for are filled in the end. -/
theorem Lawful.isFilled_decodeItems (h : R.Lawful) {tooFew : ℕ → Mismatch}
    {rules : List (FieldRule δ)} {count : ℕ} {items : List Json} (hrules : rules ⊆ R.rules)
    (hok : decodeItems tooFew count rules draft items = .ok final) {rule : FieldRule δ}
    (hrule : rule ∈ R.rules) (hfilled : rule ∈ rules ∨ rule.field.isFilled draft = true) :
    rule.field.isFilled final = true := by
  induction rules generalizing count draft items with
  | nil =>
    cases items with
    | nil =>
      obtain rfl := Except.ok.inj hok
      exact hfilled.resolve_left List.not_mem_nil
    | cons item items => cases hok
  | cons first rules ih =>
    cases items with
    | nil => cases hok
    | cons item items =>
      rw [decodeItems] at hok
      rw [List.cons_subset] at hrules
      cases hitem : first.decode draft item with
      | error e =>
        rw [hitem] at hok
        cases hok
      | ok next =>
        rw [hitem] at hok
        refine ih hrules.2 hok ?_
        have hnext := h.fills first hrules.1 draft item next hitem rule hrule
        rw [hnext, Bool.or_eq_true, decide_eq_true_eq]
        rcases hfilled with hmem | hfilled
        · rcases List.mem_cons.1 hmem with rfl | hmem
          · exact .inr (.inl rfl)
          · exact .inl hmem
        · exact .inr (.inr hfilled)

theorem Lawful.decode_array_eq_error (h : R.Lawful)
    (hmeets : List.Forall₂ FieldRule.Meets R.rules demands) {items : List Json} :
    R.decode (.array items) = .error e ↔
      RefusesItems (.tooFewItems · r.name demands.length) 0 demands items e := by
  have hlength : r.fields.length = demands.length := by
    rw [R.fields_eq, List.length_map, hmeets.length_eq]
  have hrefuses : decodeItems (.tooFewItems · r.name demands.length) 0 R.rules r.empty items =
      .error e ↔ RefusesItems (.tooFewItems · r.name demands.length) 0 demands items e :=
    decodeItems_eq_error hmeets
  rw [← hrefuses, ← hlength]
  change (decodeItems _ 0 R.rules r.empty items >>= r.finish) = .error e ↔ _
  cases hitems : decodeItems (.tooFewItems · r.name r.fields.length) 0 R.rules r.empty items with
  | error e' =>
    change Except.error e' = .error e ↔ Except.error e' = .error e
    rw [Except.error.injEq, Except.error.injEq]
  | ok final =>
    obtain ⟨x, hx⟩ : ∃ x, r.finish final = .ok x := h.finish_isOk.2 fun rule hrule =>
      h.isFilled_decodeItems (List.Subset.refl _) hitems hrule (.inl hrule)
    refine iff_of_false (fun herror => ?_) nofun
    have herror : r.finish final = .error e := herror
    rw [hx] at herror
    cases herror

theorem decode_of_other (R : RecordRules r) (hobject : ∀ members, j ≠ .object members)
    (harray : ∀ items, j ≠ .array items) : R.decode j = .error (j.misfit (.record r.name)) := by
  cases j with
  | object members => exact absurd rfl (hobject members)
  | array items => exact absurd rfl (harray items)
  | _ => rfl

/-- The errors of a record, for any value. -/
theorem Lawful.decode_eq_error (h : R.Lawful)
    (hmeets : List.Forall₂ FieldRule.Meets R.rules demands) :
    R.decode j = .error e ↔ RefusesRecord r.name demands j e := by
  constructor
  · intro herror
    by_cases hobject : ∃ members, j = .object members
    · obtain ⟨members, rfl⟩ := hobject
      exact .object ((h.decode_object_eq_error hmeets).1 herror)
    · by_cases harray : ∃ items, j = .array items
      · obtain ⟨items, rfl⟩ := harray
        exact .array ((h.decode_array_eq_error hmeets).1 herror)
      · rw [not_exists] at hobject harray
        rw [R.decode_of_other hobject harray] at herror
        cases herror
        exact .other hobject harray
  · intro hrefuses
    cases hrefuses with
    | object hobject => exact (h.decode_object_eq_error hmeets).2 hobject
    | array harray => exact (h.decode_array_eq_error hmeets).2 harray
    | other hobject harray => exact R.decode_of_other hobject harray

end RecordRules

end HostStatus.Json
