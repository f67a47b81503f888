import HostStatus.Proofs.RecordMeaning
import HostStatus.Stats.Reader
import Mathlib.Data.List.Nodup

/-!
# Objects that are accepted

Where the keys of an object are distinct, no field is given twice, so the object is accepted just if
each field of the record is among its members with a value that the field accepts. `Lawful` is what
this needs of a record, and `decodeMembers_isOk` is by induction on the members: each that is taken
fills the field it names and no other.
-/

namespace HostStatus.Json

variable {α β δ : Type} {j : Json} {members : List (String × Json)} {draft final next : δ}

def FieldRule.Accepts (rule : FieldRule δ) (j : Json) : Prop :=
  ∀ draft, ∃ next, rule.decode draft j = .ok next

theorem FieldRule.ofOption_eq_ok {read : List Char → Except ReadError (Scanned β)}
    {decode : Json → Except ReadError β} {key : String} {get : δ → Option β} {fill : δ → β → δ}
    {hreads : Reads read decode} :
    (ofOption key get fill hreads).decode draft j = .ok next ↔
      ∃ x, decode j = .ok x ∧ next = fill draft x := by
  change (decode j).map (fill draft) = .ok next ↔ _
  cases decode j with
  | error e => simp [Except.map]
  | ok x => simp [Except.map, eq_comm]

/-- What the rules of a record have to do with one another. -/
structure RecordRules.Lawful {r : RecordReader δ α} (R : RecordRules r) : Prop where
  keys : (R.rules.map (·.field.key)).Nodup
  empty : ∀ rule ∈ R.rules, rule.field.isFilled r.empty = false
  /-- Whether a value is accepted does not depend on what was read before. -/
  accepts : ∀ rule ∈ R.rules, ∀ draft j next, rule.decode draft j = .ok next → rule.Accepts j
  fills : ∀ rule ∈ R.rules, ∀ draft j next, rule.decode draft j = .ok next → ∀ other ∈ R.rules,
    other.field.isFilled next = (decide (other.field.key = rule.field.key) ||
      other.field.isFilled draft)
  complete : ∀ draft, (∀ rule ∈ R.rules, rule.field.isFilled draft = true) →
    (r.complete? draft).isSome

namespace RecordRules

variable {r : RecordReader δ α} {R : RecordRules r}

theorem Lawful.eq_of_key (h : R.Lawful) {rule other : FieldRule δ} (hrule : rule ∈ R.rules)
    (hother : other ∈ R.rules) (hkey : rule.field.key = other.field.key) : rule = other :=
  List.inj_on_of_nodup_map h.keys hrule hother hkey

/-- A member is ignored, or is taken by the field that it names. -/
theorem decodeMember_cases (R : RecordRules r) (draft : δ) (member : String × Json) :
    ((∀ rule ∈ R.rules, rule.field.key ≠ member.1) ∧
        decodeMember R.rules draft member = .ok draft) ∨
      ∃ rule ∈ R.rules, rule.field.key = member.1 ∧
        decodeMember R.rules draft member =
          if rule.field.isFilled draft then .error (.unfit (.duplicateField member.1))
          else rule.decode draft member.2 := by
  rw [decodeMember]
  cases hfind : R.rules.find? (·.field.key = member.1) with
  | none =>
    refine .inl ⟨fun rule hrule hkey => ?_, rfl⟩
    exact List.find?_eq_none.1 hfind rule hrule (decide_eq_true hkey)
  | some rule =>
    have hkey := List.find?_some hfind
    exact .inr ⟨rule, List.mem_of_find?_eq_some hfind, of_decide_eq_true hkey, rfl⟩

/-- The fields that members name are filled in the end, and no others. -/
theorem Lawful.isFilled_decodeMembers (h : R.Lawful)
    (hok : decodeMembers R.rules draft members = .ok final) {rule : FieldRule δ}
    (hrule : rule ∈ R.rules) :
    rule.field.isFilled final = true ↔
      rule.field.key ∈ members.map Prod.fst ∨ rule.field.isFilled draft = true := by
  induction members generalizing draft with
  | nil =>
    obtain rfl := Except.ok.inj hok
    simp
  | cons member members ih =>
    rw [decodeMembers, List.foldlM_cons] at hok
    rw [List.map_cons, List.mem_cons]
    rcases R.decodeMember_cases draft member with ⟨hnone, hmember⟩ | ⟨named, hnamed, hkey, hmember⟩
    · rw [hmember] at hok
      rw [ih hok]
      have := hnone rule hrule
      tauto
    · split at hmember
      · rw [hmember] at hok
        cases hok
      · cases hdecode : named.decode draft member.2 with
        | error e =>
          rw [hmember, hdecode] at hok
          cases hok
        | ok next =>
          rw [hmember, hdecode] at hok
          rw [ih hok, h.fills named hnamed draft _ next hdecode rule hrule, hkey, Bool.or_eq_true,
            decide_eq_true_eq]
          tauto

theorem Lawful.decodeMembers_isOk (h : R.Lawful) (hkeys : (members.map Prod.fst).Nodup)
    (hfresh : ∀ rule ∈ R.rules, rule.field.key ∈ members.map Prod.fst →
      rule.field.isFilled draft = false) :
    (∃ final, decodeMembers R.rules draft members = .ok final) ↔
      ∀ rule ∈ R.rules, ∀ j, (rule.field.key, j) ∈ members → rule.Accepts j := by
  induction members generalizing draft with
  | nil => simpa using ⟨draft, rfl⟩
  | cons member members ih =>
    rw [List.map_cons, List.nodup_cons] at hkeys
    rw [decodeMembers, List.foldlM_cons]
    rcases R.decodeMember_cases draft member with ⟨hnone, hmember⟩ | ⟨named, hnamed, hkey, hmember⟩
    · have hrest : (∃ final, decodeMembers R.rules draft members = .ok final) ↔ _ :=
        ih hkeys.2 fun rule hrule hmem => hfresh rule hrule (List.mem_cons_of_mem _ hmem)
      rw [hmember]
      refine hrest.trans (forall₂_congr fun rule hrule => forall_congr' fun j => ?_)
      have hne : (rule.field.key, j) ≠ member := fun heq => hnone rule hrule (congrArg Prod.fst heq)
      rw [List.mem_cons, or_iff_right hne]
    · rw [hmember, hfresh named hnamed (by rw [hkey]; exact List.mem_cons_self),
        if_neg Bool.false_ne_true]
      cases hdecode : named.decode draft member.2 with
      | error e =>
        refine iff_of_false (by rintro ⟨final, hfinal⟩; cases hfinal) fun haccepts => ?_
        obtain ⟨next, hnext⟩ := haccepts named hnamed member.2
          (by rw [hkey]; exact List.mem_cons_self) draft
        rw [hdecode] at hnext
        cases hnext
      | ok next =>
        have hrest : (∃ final, decodeMembers R.rules next members = .ok final) ↔ _ :=
          ih hkeys.2 fun rule hrule hmem => by
            have hother : rule.field.key ≠ named.field.key := by
              rintro heq
              rw [heq, hkey] at hmem
              exact hkeys.1 hmem
            rw [h.fills named hnamed draft _ next hdecode rule hrule, decide_eq_false hother,
              hfresh rule hrule (List.mem_cons_of_mem _ hmem)]
            rfl
        refine hrest.trans (forall₂_congr fun rule hrule => forall_congr' fun j => ?_)
        rw [List.mem_cons]
        refine ⟨fun haccepts hmem => ?_, fun haccepts hmem => haccepts (.inr hmem)⟩
        rcases hmem with heq | hmem
        · obtain rfl := h.eq_of_key hrule hnamed ((congrArg Prod.fst heq).trans hkey.symm)
          rw [← heq] at hdecode
          exact h.accepts rule hrule draft j next hdecode
        · exact haccepts hmem

theorem Lawful.finish_isOk (h : R.Lawful) :
    (∃ x, r.finish draft = .ok x) ↔ ∀ rule ∈ R.rules, rule.field.isFilled draft = true := by
  rw [RecordReader.finish, R.fields_eq, List.find?_map]
  cases hfind : R.rules.find? ((!·.isFilled draft) ∘ fun rule : FieldRule δ => rule.field) with
  | none =>
    have hall : ∀ rule ∈ R.rules, rule.field.isFilled draft = true := fun rule hrule => by
      simpa using List.find?_eq_none.1 hfind rule hrule
    obtain ⟨x, hx⟩ := Option.isSome_iff_exists.1 (h.complete draft hall)
    rw [hx]
    exact iff_of_true ⟨x, rfl⟩ hall
  | some rule =>
    refine iff_of_false (fun ⟨x, hx⟩ => by cases hx) fun hall => ?_
    have hempty := List.find?_some hfind
    simp [hall rule (List.mem_of_find?_eq_some hfind)] at hempty

/-- An object of distinct keys is accepted just if each field is there with a value that it
accepts. -/
theorem Lawful.decode_object_isOk (h : R.Lawful) (hkeys : (members.map Prod.fst).Nodup) :
    (∃ x, R.decode (.object members) = .ok x) ↔
      ∀ rule ∈ R.rules, ∃ j, (rule.field.key, j) ∈ members ∧ rule.Accepts j := by
  have hmembers := h.decodeMembers_isOk hkeys fun rule hrule _ => h.empty rule hrule
  have hdecode : R.decode (.object members) =
      (do r.finish (← decodeMembers R.rules r.empty members)) := rfl
  rw [hdecode]
  cases hok : decodeMembers R.rules r.empty members with
  | error e =>
    refine iff_of_false (fun ⟨x, hx⟩ => by cases hx) fun hall => ?_
    obtain ⟨final, hfinal⟩ := hmembers.2 fun rule hrule j hj => by
      obtain ⟨j', hj', haccepts⟩ := hall rule hrule
      obtain rfl : j = j' := congrArg Prod.snd (List.inj_on_of_nodup_map hkeys hj hj' rfl)
      exact haccepts
    rw [hok] at hfinal
    cases hfinal
  | ok final =>
    have haccepts := hmembers.1 ⟨final, hok⟩
    refine h.finish_isOk.trans (forall₂_congr fun rule hrule => ?_)
    rw [h.isFilled_decodeMembers hok hrule, h.empty rule hrule]
    simp only [List.mem_map, Prod.exists, exists_and_right, exists_eq_right, Bool.false_eq_true,
      or_false]
    exact exists_congr fun j => ⟨fun hj => ⟨hj, haccepts rule hrule j hj⟩, And.left⟩

end RecordRules

/-! ## Fields that hold an option -/

namespace FieldRule

variable {read : List Char → Except ReadError (Scanned β)} {decode : Json → Except ReadError β}
  {key : String} {get : δ → Option β} {fill : δ → β → δ} {hreads : Reads read decode}

theorem ofOption_key : (ofOption key get fill hreads).field.key = key := rfl

theorem ofOption_accepts_of_eq_ok (h : (ofOption key get fill hreads).decode draft j = .ok next) :
    (ofOption key get fill hreads).Accepts j := by
  obtain ⟨x, hx, -⟩ := ofOption_eq_ok.1 h
  exact fun draft => ⟨fill draft x, ofOption_eq_ok.2 ⟨x, hx, rfl⟩⟩

theorem ofOption_accepts (draft : δ) :
    (ofOption key get fill hreads).Accepts j ↔ ∃ x, decode j = .ok x := by
  refine ⟨fun haccepts => ?_, fun ⟨x, hx⟩ => ?_⟩
  · obtain ⟨next, hnext⟩ := haccepts draft
    obtain ⟨x, hx, -⟩ := ofOption_eq_ok.1 hnext
    exact ⟨x, hx⟩
  · exact fun draft => ⟨fill draft x, ofOption_eq_ok.2 ⟨x, hx, rfl⟩⟩

end FieldRule

end HostStatus.Json

namespace HostStatus

open Json

variable {j : Json} {members : List (String × Json)} {text : String}

namespace UsageStats

def rules : RecordRules reader where
  rules :=
    [.ofOption "total" (·.total) (fun d value => { d with total := value }) readString_reads,
      .ofOption "used" (·.used) (fun d value => { d with used := value }) readString_reads,
      .ofOption "percent" (·.percent) (fun d value => { d with percent := value })
        readSingle_reads]
  fields_eq := rfl

theorem rules_lawful : rules.Lawful where
  keys := by decide
  empty := by simp [rules, FieldRule.ofOption, FieldReader.ofOption, reader]
  accepts := by
    simp only [rules, List.forall_mem_cons, List.not_mem_nil, false_imp_iff, implies_true, and_true]
    exact ⟨fun _ _ _ => FieldRule.ofOption_accepts_of_eq_ok,
      fun _ _ _ => FieldRule.ofOption_accepts_of_eq_ok,
      fun _ _ _ => FieldRule.ofOption_accepts_of_eq_ok⟩
  fills := by
    simp only [rules, List.forall_mem_cons, List.not_mem_nil, false_imp_iff, implies_true, and_true]
    refine ⟨fun draft j next h => ?_, fun draft j next h => ?_, fun draft j next h => ?_⟩
    all_goals
      obtain ⟨x, -, rfl⟩ := FieldRule.ofOption_eq_ok.1 h
      simp [FieldRule.ofOption, FieldReader.ofOption]
  complete draft h := by
    simp only [rules, List.forall_mem_cons, FieldRule.ofOption, FieldReader.ofOption,
      Option.isSome_iff_exists] at h
    obtain ⟨⟨total, htotal⟩, ⟨used, hused⟩, ⟨percent, hpercent⟩, -⟩ := h
    simp [reader, htotal, hused, hpercent]

end UsageStats

namespace SystemStats

def rules : RecordRules reader where
  rules :=
    [.ofOption "platform" (·.platform) (fun d value => { d with platform := value })
        readString_reads,
      .ofOption "cpu_percent" (·.cpuPercent) (fun d value => { d with cpuPercent := value })
        readSingle_reads,
      .ofOption "memory" (·.memory) (fun d value => { d with memory := value })
        UsageStats.rules.reads,
      .ofOption "disk" (·.disk) (fun d value => { d with disk := value }) UsageStats.rules.reads]
  fields_eq := rfl

theorem rules_lawful : rules.Lawful where
  keys := by decide
  empty := by simp [rules, FieldRule.ofOption, FieldReader.ofOption, reader]
  accepts := by
    simp only [rules, List.forall_mem_cons, List.not_mem_nil, false_imp_iff, implies_true, and_true]
    exact ⟨fun _ _ _ => FieldRule.ofOption_accepts_of_eq_ok,
      fun _ _ _ => FieldRule.ofOption_accepts_of_eq_ok,
      fun _ _ _ => FieldRule.ofOption_accepts_of_eq_ok,
      fun _ _ _ => FieldRule.ofOption_accepts_of_eq_ok⟩
  fills := by
    simp only [rules, List.forall_mem_cons, List.not_mem_nil, false_imp_iff, implies_true, and_true]
    refine ⟨fun draft j next h => ?_, fun draft j next h => ?_, fun draft j next h => ?_,
      fun draft j next h => ?_⟩
    all_goals
      obtain ⟨x, -, rfl⟩ := FieldRule.ofOption_eq_ok.1 h
      simp [FieldRule.ofOption, FieldReader.ofOption]
  complete draft h := by
    simp only [rules, List.forall_mem_cons, FieldRule.ofOption, FieldReader.ofOption,
      Option.isSome_iff_exists] at h
    obtain ⟨⟨platform, hplatform⟩, ⟨cpu, hcpu⟩, ⟨memory, hmemory⟩, ⟨disk, hdisk⟩, -⟩ := h
    simp [reader, hplatform, hcpu, hmemory, hdisk]

end SystemStats

end HostStatus
