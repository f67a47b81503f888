import HostStatus.Proofs.FieldKinds
import HostStatus.Proofs.DescribedService

/-!
# Verdicts on texts of statistics

The two records of statistics are two lists of demands, of which the second has the first among its
kinds. So one verdict on records serves for both: `Given` says when an object is taken and for what,
and `RefusesObject` says with which error any other object is refused, down to the members of the
records within it.

A number is given only if it can be evaluated. That asks for more than a number that double
precision could hold, which is why the counterexample at the end has nothing else wrong with it.
-/

namespace HostStatus

open Json

variable {j : Json} {members : List (String × Json)} {items : List Json} {text : String}

namespace UsageStats

variable {u u' : UsageStats}

/-- The fields in order of declaration. -/
def demands : List Demand :=
  [Kind.string.demand "total", Kind.string.demand "used", Kind.single.demand "percent"]

/-- Each field is given, once. -/
structure Given (members : List (String × Json)) (u : UsageStats) : Prop where
  total : Kind.string.Gives "total" members u.total
  used : Kind.string.Gives "used" members u.used
  percent : Kind.single.Gives "percent" members u.percent

/-- The values that are taken: objects and, in order of declaration, arrays. -/
inductive StandsFor : Json → UsageStats → Prop
  | object {members : List (String × Json)} {u : UsageStats} (h : Given members u) :
      StandsFor (.object members) u
  | array {total used percent : Json} {u : UsageStats}
      (htotal : Kind.string.StandsFor total u.total) (hused : Kind.string.StandsFor used u.used)
      (hpercent : Kind.single.StandsFor percent u.percent) :
      StandsFor (.array [total, used, percent]) u

def kind : Kind UsageStats where
  StandsFor := StandsFor
  Refuses := RefusesRecord "UsageStats" demands

theorem rules_meet : List.Forall₂ FieldRule.Meets rules.rules demands :=
  .cons (FieldRule.ofOption_meets Kind.string_decodes)
    (.cons (FieldRule.ofOption_meets Kind.string_decodes)
      (.cons (FieldRule.ofOption_meets Kind.single_decodes) .nil))

theorem Given.unique (h : Given members u) (h' : Given members u') : u = u' := by
  obtain ⟨htotal, hused, hpercent⟩ := h
  obtain ⟨htotal', hused', hpercent'⟩ := h'
  cases u
  cases u'
  congr 1
  · exact htotal.unique Kind.string_decodes htotal'
  · exact hused.unique Kind.string_decodes hused'
  · exact hpercent.unique Kind.single_decodes hpercent'

theorem complete?_eq_some {draft : Draft} :
    reader.complete? draft = some u ↔
      draft.total = some u.total ∧ draft.used = some u.used ∧ draft.percent = some u.percent := by
  obtain ⟨total, used, percent⟩ := draft
  obtain ⟨total', used', percent'⟩ := u
  cases total <;> cases used <;> cases percent <;> simp [reader]

/-- A field that is read is filled, and the others keep what they hold. -/
theorem others_kept : ∀ other ∈ rules.rules, ∀ draft j next, other.decode draft j = .ok next →
    (other.field.key ≠ "total" → next.total = draft.total) ∧
      (other.field.key ≠ "used" → next.used = draft.used) ∧
      (other.field.key ≠ "percent" → next.percent = draft.percent) := by
  simp only [rules, List.forall_mem_cons, List.not_mem_nil, false_imp_iff, implies_true, and_true]
  refine ⟨fun draft j next h => ?_, fun draft j next h => ?_, fun draft j next h => ?_⟩
  all_goals
    obtain ⟨x, -, rfl⟩ := FieldRule.ofOption_eq_ok.1 h
    simp [FieldRule.ofOption_key]

theorem given_of_decode_eq_ok (hok : rules.decode (.object members) = .ok u) : Given members u := by
  have hholdsTotal : rules.Holds "total" Draft.total Kind.string :=
    RecordRules.holds_ofOption Kind.string_decodes List.mem_cons_self (fun _ _ => rfl)
      fun other hother draft j next hread => (others_kept other hother draft j next hread).1
  have hholdsUsed : rules.Holds "used" Draft.used Kind.string :=
    RecordRules.holds_ofOption Kind.string_decodes (List.mem_cons_of_mem _ List.mem_cons_self)
      (fun _ _ => rfl)
      fun other hother draft j next hread => (others_kept other hother draft j next hread).2.1
  have hholdsPercent : rules.Holds "percent" Draft.percent Kind.single :=
    RecordRules.holds_ofOption Kind.single_decodes
      (List.mem_cons_of_mem _ (List.mem_cons_of_mem _ List.mem_cons_self)) (fun _ _ => rfl)
      fun other hother draft j next hread => (others_kept other hother draft j next hread).2.2
  obtain ⟨final, hmembers, hcomplete⟩ := RecordRules.exists_of_decode_object_eq_ok hok
  obtain ⟨htotal, hused, hpercent⟩ := complete?_eq_some.1 hcomplete
  exact ⟨rules_lawful.gives rules_meet hholdsTotal hmembers htotal,
    rules_lawful.gives rules_meet hholdsUsed hmembers hused,
    rules_lawful.gives rules_meet hholdsPercent hmembers hpercent⟩

theorem decode_object_eq_ok : rules.decode (.object members) = .ok u ↔ Given members u := by
  refine ⟨given_of_decode_eq_ok, fun h => ?_⟩
  obtain ⟨u', hu'⟩ : ∃ u', rules.decode (.object members) = .ok u' := by
    refine (rules_lawful.exists_decode_object_eq_ok rules_meet).2 ?_
    simp only [demands, List.forall_mem_cons, List.not_mem_nil, false_imp_iff, implies_true,
      and_true]
    exact ⟨h.total.meets_demand Kind.string_decodes, h.used.meets_demand Kind.string_decodes,
      h.percent.meets_demand Kind.single_decodes⟩
  rw [hu', (given_of_decode_eq_ok hu').unique h]

theorem decode_array_eq_ok : rules.decode (.array items) = .ok u ↔ StandsFor (.array items) u := by
  have hdecode : rules.decode (.array items) =
      (decodeItems (.tooFewItems · reader.name reader.fields.length) 0 rules.rules reader.empty
        items >>= reader.finish) := rfl
  rw [hdecode]
  constructor
  · intro hok
    cases hitems : decodeItems (.tooFewItems · reader.name reader.fields.length) 0 rules.rules
        reader.empty items with
    | error e =>
      rw [hitems] at hok
      cases hok
    | ok final =>
      rw [hitems] at hok
      obtain ⟨total, items, _, rfl, hfirst, hitems⟩ := RecordRules.decodeItems_eq_ok.1 hitems
      obtain ⟨used, items, _, rfl, hsecond, hitems⟩ := RecordRules.decodeItems_eq_ok.1 hitems
      obtain ⟨percent, items, _, rfl, hthird, hitems⟩ := RecordRules.decodeItems_eq_ok.1 hitems
      obtain ⟨rfl, rfl⟩ := RecordRules.decodeItems_nil_eq_ok.1 hitems
      obtain ⟨_, htotal, rfl⟩ := FieldRule.ofOption_eq_ok.1 hfirst
      obtain ⟨_, hused, rfl⟩ := FieldRule.ofOption_eq_ok.1 hsecond
      obtain ⟨_, hpercent, rfl⟩ := FieldRule.ofOption_eq_ok.1 hthird
      obtain rfl := Except.ok.inj hok
      exact .array (Kind.string_decodes.ok.1 htotal) (Kind.string_decodes.ok.1 hused)
        (Kind.single_decodes.ok.1 hpercent)
  · intro h
    cases h with
    | @array total used percent _ htotal hused hpercent =>
      have hitems : decodeItems (.tooFewItems · reader.name reader.fields.length) 0 rules.rules
          reader.empty [total, used, percent] =
            .ok ⟨some u.total, some u.used, some u.percent⟩ :=
        RecordRules.decodeItems_eq_ok.2 ⟨total, _, _, rfl,
          FieldRule.ofOption_eq_ok.2 ⟨_, Kind.string_decodes.ok.2 htotal, rfl⟩,
          RecordRules.decodeItems_eq_ok.2 ⟨used, _, _, rfl,
            FieldRule.ofOption_eq_ok.2 ⟨_, Kind.string_decodes.ok.2 hused, rfl⟩,
            RecordRules.decodeItems_eq_ok.2 ⟨percent, _, _, rfl,
              FieldRule.ofOption_eq_ok.2 ⟨_, Kind.single_decodes.ok.2 hpercent, rfl⟩,
              RecordRules.decodeItems_nil_eq_ok.2 ⟨rfl, rfl⟩⟩⟩⟩
      rw [hitems]
      rfl

theorem kind_decodes : kind.Decodes rules.decode where
  ok := by
    intro j u
    cases j with
    | object members =>
      refine decode_object_eq_ok.trans ⟨.object, fun h => ?_⟩
      cases h with
      | object h => exact h
    | array items => exact decode_array_eq_ok
    | _ => exact iff_of_false nofun nofun
  error := rules_lawful.decode_eq_error rules_meet

/-! ## Unknown members -/

/-- A member, if it names a field. -/
def known? (member : String × Json) : Option (String × Json) :=
  if member.1 ∈ ["total", "used", "percent"] then some member else none

/-- An object less its unknown members. -/
def known : Json → Json
  | .object members => .object (members.filterMap known?)
  | j => j

theorem decodeMember_known? (draft : Draft) (member : String × Json) :
    (known? member).elim (.ok draft) (decodeMember rules.rules draft) =
      decodeMember rules.rules draft member := by
  by_cases hmem : member.1 ∈ ["total", "used", "percent"]
  · rw [known?, if_pos hmem, Option.elim_some]
  · rw [known?, if_neg hmem, Option.elim_none]
    exact (RecordRules.decodeMember_of_unknown hmem draft).symm

theorem decode_known (j : Json) : rules.decode (known j) = rules.decode j := by
  cases j with
  | object members => exact RecordRules.decode_filterMap decodeMember_known? members
  | _ => rfl

end UsageStats

namespace SystemStats

variable {s s' : SystemStats}

def demands : List Demand :=
  [Kind.string.demand "platform", Kind.single.demand "cpu_percent",
    UsageStats.kind.demand "memory", UsageStats.kind.demand "disk"]

structure Given (members : List (String × Json)) (s : SystemStats) : Prop where
  platform : Kind.string.Gives "platform" members s.platform
  cpuPercent : Kind.single.Gives "cpu_percent" members s.cpuPercent
  memory : UsageStats.kind.Gives "memory" members s.memory
  disk : UsageStats.kind.Gives "disk" members s.disk

theorem rules_meet : List.Forall₂ FieldRule.Meets rules.rules demands :=
  .cons (FieldRule.ofOption_meets Kind.string_decodes)
    (.cons (FieldRule.ofOption_meets Kind.single_decodes)
      (.cons (FieldRule.ofOption_meets UsageStats.kind_decodes)
        (.cons (FieldRule.ofOption_meets UsageStats.kind_decodes) .nil)))

theorem Given.unique (h : Given members s) (h' : Given members s') : s = s' := by
  obtain ⟨hplatform, hcpu, hmemory, hdisk⟩ := h
  obtain ⟨hplatform', hcpu', hmemory', hdisk'⟩ := h'
  cases s
  cases s'
  congr 1
  · exact hplatform.unique Kind.string_decodes hplatform'
  · exact hcpu.unique Kind.single_decodes hcpu'
  · exact hmemory.unique UsageStats.kind_decodes hmemory'
  · exact hdisk.unique UsageStats.kind_decodes hdisk'

theorem complete?_eq_some {draft : Draft} :
    reader.complete? draft = some s ↔
      draft.platform = some s.platform ∧ draft.cpuPercent = some s.cpuPercent ∧
        draft.memory = some s.memory ∧ draft.disk = some s.disk := by
  obtain ⟨platform, cpu, memory, disk⟩ := draft
  obtain ⟨platform', cpu', memory', disk'⟩ := s
  cases platform <;> cases cpu <;> cases memory <;> cases disk <;> simp [reader]

theorem others_kept : ∀ other ∈ rules.rules, ∀ draft j next, other.decode draft j = .ok next →
    (other.field.key ≠ "platform" → next.platform = draft.platform) ∧
      (other.field.key ≠ "cpu_percent" → next.cpuPercent = draft.cpuPercent) ∧
      (other.field.key ≠ "memory" → next.memory = draft.memory) ∧
      (other.field.key ≠ "disk" → next.disk = draft.disk) := by
  simp only [rules, List.forall_mem_cons, List.not_mem_nil, false_imp_iff, implies_true, and_true]
  refine ⟨fun draft j next h => ?_, fun draft j next h => ?_, fun draft j next h => ?_,
    fun draft j next h => ?_⟩
  all_goals
    obtain ⟨x, -, rfl⟩ := FieldRule.ofOption_eq_ok.1 h
    simp [FieldRule.ofOption_key]

theorem given_of_decode_eq_ok (hok : rules.decode (.object members) = .ok s) : Given members s := by
  have hholdsPlatform : rules.Holds "platform" Draft.platform Kind.string :=
    RecordRules.holds_ofOption Kind.string_decodes List.mem_cons_self (fun _ _ => rfl)
      fun other hother draft j next hread => (others_kept other hother draft j next hread).1
  have hholdsCpu : rules.Holds "cpu_percent" Draft.cpuPercent Kind.single :=
    RecordRules.holds_ofOption Kind.single_decodes (List.mem_cons_of_mem _ List.mem_cons_self)
      (fun _ _ => rfl)
      fun other hother draft j next hread => (others_kept other hother draft j next hread).2.1
  have hholdsMemory : rules.Holds "memory" Draft.memory UsageStats.kind :=
    RecordRules.holds_ofOption UsageStats.kind_decodes
      (List.mem_cons_of_mem _ (List.mem_cons_of_mem _ List.mem_cons_self)) (fun _ _ => rfl)
      fun other hother draft j next hread => (others_kept other hother draft j next hread).2.2.1
  have hholdsDisk : rules.Holds "disk" Draft.disk UsageStats.kind :=
    RecordRules.holds_ofOption UsageStats.kind_decodes
      (List.mem_cons_of_mem _ (List.mem_cons_of_mem _ (List.mem_cons_of_mem _ List.mem_cons_self)))
      (fun _ _ => rfl)
      fun other hother draft j next hread => (others_kept other hother draft j next hread).2.2.2
  obtain ⟨final, hmembers, hcomplete⟩ := RecordRules.exists_of_decode_object_eq_ok hok
  obtain ⟨hplatform, hcpu, hmemory, hdisk⟩ := complete?_eq_some.1 hcomplete
  exact ⟨rules_lawful.gives rules_meet hholdsPlatform hmembers hplatform,
    rules_lawful.gives rules_meet hholdsCpu hmembers hcpu,
    rules_lawful.gives rules_meet hholdsMemory hmembers hmemory,
    rules_lawful.gives rules_meet hholdsDisk hmembers hdisk⟩

theorem decode_object_eq_ok : rules.decode (.object members) = .ok s ↔ Given members s := by
  refine ⟨given_of_decode_eq_ok, fun h => ?_⟩
  obtain ⟨s', hs'⟩ : ∃ s', rules.decode (.object members) = .ok s' := by
    refine (rules_lawful.exists_decode_object_eq_ok rules_meet).2 ?_
    simp only [demands, List.forall_mem_cons, List.not_mem_nil, false_imp_iff, implies_true,
      and_true]
    exact ⟨h.platform.meets_demand Kind.string_decodes,
      h.cpuPercent.meets_demand Kind.single_decodes,
      h.memory.meets_demand UsageStats.kind_decodes, h.disk.meets_demand UsageStats.kind_decodes⟩
  rw [hs', (given_of_decode_eq_ok hs').unique h]

/-! ## Unknown members -/

/-- A member, if it names a field, less the unknown members of its own. -/
def known? (member : String × Json) : Option (String × Json) :=
  if member.1 ∈ ["memory", "disk"] then some (member.1, UsageStats.known member.2)
  else if member.1 ∈ ["platform", "cpu_percent"] then some member
  else none

/-- Unknown members do not matter to the fields that hold records. -/
theorem decode_field_known : ∀ rule ∈ rules.rules, rule.field.key ∈ ["memory", "disk"] →
    ∀ draft j, rule.decode draft (UsageStats.known j) = rule.decode draft j := by
  have hrecord {key : String} {get : Draft → Option UsageStats}
      {fill : Draft → UsageStats → Draft} (draft : Draft) (j : Json) :
      (FieldRule.ofOption key get fill UsageStats.rules.reads).decode draft (UsageStats.known j) =
        (FieldRule.ofOption key get fill UsageStats.rules.reads).decode draft j := by
    change (UsageStats.rules.decode (UsageStats.known j)).map _ = (UsageStats.rules.decode j).map _
    rw [UsageStats.decode_known]
  simp only [rules, List.forall_mem_cons, List.not_mem_nil, false_imp_iff, implies_true, and_true]
  exact ⟨fun h => absurd h (by decide), fun h => absurd h (by decide), fun _ => hrecord,
    fun _ => hrecord⟩

theorem decodeMember_known? (draft : Draft) (member : String × Json) :
    (known? member).elim (.ok draft) (decodeMember rules.rules draft) =
      decodeMember rules.rules draft member := by
  obtain ⟨key, j⟩ := member
  by_cases hrecord : key ∈ ["memory", "disk"]
  · rw [known?, if_pos hrecord, Option.elim_some, decodeMember, decodeMember]
    dsimp only
    cases hfind : rules.rules.find? (·.field.key = key) with
    | none => rfl
    | some rule =>
      have hfound := List.find?_some hfind
      have hkey : rule.field.key = key := of_decide_eq_true hfound
      dsimp only
      rw [decode_field_known rule (List.mem_of_find?_eq_some hfind) (by rw [hkey]; exact hrecord)]
  · by_cases hplain : key ∈ ["platform", "cpu_percent"]
    · rw [known?, if_neg hrecord, if_pos hplain, Option.elim_some]
    · rw [known?, if_neg hrecord, if_neg hplain, Option.elim_none]
      have hunknown : key ∉ ["platform", "cpu_percent"] ++ ["memory", "disk"] := fun hmem =>
        (List.mem_append.1 hmem).elim hplain hrecord
      exact (RecordRules.decodeMember_of_unknown hunknown draft).symm

end SystemStats

/-! ## Texts of given members -/

theorem spells_toText_object (hsome : members ≠ [])
    (h : ∀ member ∈ members, Spells (.value member.2) member.2.toChars) :
    Spells (.spaced (.object members)) (Json.object members).toText.toList := by
  obtain ⟨member, rest, rfl⟩ := List.exists_cons_of_ne_nil hsome
  have hobject : Spells (.value (.object (member :: rest)))
      (Json.object (member :: rest)).toChars :=
    .object (spells_members hsome h)
  rw [Json.toText, String.toList_ofList]
  exact hobject.unspaced

theorem spells_usageMembers :
    ∀ member ∈ OpenApi.usageMembers, Spells (.value member.2) member.2.toChars := by
  have hstring : Spells (.value (.string "1")) (Json.string "1").toChars :=
    .string (spellsString_escaped "1".toList)
  simp only [OpenApi.usageMembers, List.forall_mem_cons, List.not_mem_nil, false_imp_iff,
    implies_true, and_true]
  exact ⟨hstring, hstring, .number OpenApi.spells_one⟩

theorem exists_given_usageMembers : ∃ u, UsageStats.Given OpenApi.usageMembers u := by
  obtain ⟨n, hn⟩ := Option.isSome_iff_exists.1 OpenApi.evaluates_one
  have htotal : Kind.string.Gives "total" OpenApi.usageMembers "1" := ⟨.string "1", rfl, rfl⟩
  have hused : Kind.string.Gives "used" OpenApi.usageMembers "1" := ⟨.string "1", rfl, rfl⟩
  have hpercent : Kind.single.Gives "percent" OpenApi.usageMembers n.toSingle :=
    ⟨.number "1", rfl, "1", n, rfl, OpenApi.spells_one.numberOf?.trans hn, rfl⟩
  exact ⟨⟨"1", "1", n.toSingle⟩, htotal, hused, hpercent⟩

/-- A field is repeated with a value that would be refused as well. -/
def repeatedMembers : List (String × Json) :=
  [("used", .string "1"), ("used", .null), ("total", .boolean true)]

theorem refusesObject_repeatedMembers :
    RefusesObject UsageStats.demands repeatedMembers (.unfit (.duplicateField "used")) := by
  have hfirst : Inoffensive UsageStats.demands [("used", Json.string "1")] := by
    refine inoffensive_concat.2 ⟨inoffensive_nil, fun e hoffends => ?_⟩
    obtain ⟨demand, hdemand, hkey, ⟨hrepeated, -⟩ | ⟨-, hvalue⟩⟩ := offends_iff.1 hoffends
    · cases hrepeated
    · simp only [UsageStats.demands, List.mem_cons, List.not_mem_nil, or_false] at hdemand
      rcases hdemand with rfl | rfl | rfl
      · exact absurd hkey (by decide)
      · exact hvalue.1 "1" rfl
      · exact absurd hkey (by decide)
  exact .offence ⟨[("used", .string "1")], ("used", .null), ⟨[("total", .boolean true)], rfl⟩,
    hfirst, offends_iff.2 ⟨Kind.string.demand "used", by simp [UsageStats.demands], rfl,
      .inl ⟨by decide, rfl⟩⟩⟩

/-! ## Verdicts -/

/-- Whatever text an object has, it is decoded exactly if each field is given once, and then it is
what is given. Any other object is refused, with the error of the first member that offends or else
with the first missing field. Members that name no field never matter. -/
theorem stats_decoded_or_first_offence_named :
    (∀ (members : List (String × Json)) (text : String),
      Spells (.spaced (.object members)) text.toList →
        (∀ u, UsageStats.parse text = .ok u ↔ UsageStats.Given members u) ∧
        (∀ e, UsageStats.parse text = .error e ↔ RefusesObject UsageStats.demands members e) ∧
        ∀ (members' : List (String × Json)) (text' : String),
          Spells (.spaced (.object members')) text'.toList →
          members'.filterMap UsageStats.known? = members.filterMap UsageStats.known? →
            UsageStats.parse text' = UsageStats.parse text) ∧
    ∀ (members : List (String × Json)) (text : String),
      Spells (.spaced (.object members)) text.toList →
        (∀ s, SystemStats.parse text = .ok s ↔ SystemStats.Given members s) ∧
        (∀ e, SystemStats.parse text = .error e ↔ RefusesObject SystemStats.demands members e) ∧
        ∀ (members' : List (String × Json)) (text' : String),
          Spells (.spaced (.object members')) text'.toList →
          members'.filterMap SystemStats.known? = members.filterMap SystemStats.known? →
            SystemStats.parse text' = SystemStats.parse text := by
  constructor
  · intro members text htext
    have hparse : UsageStats.parse text = UsageStats.rules.decode (.object members) :=
      UsageStats.rules.readText_spaced htext
    rw [hparse]
    refine ⟨fun u => UsageStats.decode_object_eq_ok, fun e =>
      UsageStats.rules_lawful.decode_object_eq_error UsageStats.rules_meet,
      fun members' text' htext' hknown => ?_⟩
    have hparse' : UsageStats.parse text' = UsageStats.rules.decode (.object members') :=
      UsageStats.rules.readText_spaced htext'
    rw [hparse', ← RecordRules.decode_filterMap UsageStats.decodeMember_known? members', hknown]
    exact RecordRules.decode_filterMap UsageStats.decodeMember_known? members
  · intro members text htext
    have hparse : SystemStats.parse text = SystemStats.rules.decode (.object members) :=
      SystemStats.rules.readText_spaced htext
    rw [hparse]
    refine ⟨fun s => SystemStats.decode_object_eq_ok, fun e =>
      SystemStats.rules_lawful.decode_object_eq_error SystemStats.rules_meet,
      fun members' text' htext' hknown => ?_⟩
    have hparse' : SystemStats.parse text' = SystemStats.rules.decode (.object members') :=
      SystemStats.rules.readText_spaced htext'
    rw [hparse', ← RecordRules.decode_filterMap SystemStats.decodeMember_known? members', hknown]
    exact RecordRules.decode_filterMap SystemStats.decodeMember_known? members

/-- The member behind an unknown one is refused with its own error, and what follows it is not
looked at. -/
theorem stats_decoded_or_first_offence_named_of_repeated :
    let members := [("unit", Json.null), ("disk", .object repeatedMembers), ("platform", .null)]
    let longer := ("unit", Json.array [.null]) :: OpenApi.usageMembers
    SystemStats.parse (Json.object members).toText = .error (.unfit (.duplicateField "used")) ∧
      (∃ u, UsageStats.parse (Json.object OpenApi.usageMembers).toText = .ok u) ∧
      UsageStats.parse (Json.object longer).toText =
        UsageStats.parse (Json.object OpenApi.usageMembers).toText := by
  intro members longer
  have hmembers : Spells (.spaced (.object members)) (Json.object members).toText.toList := by
    have hrepeated : Spells (.value (.object repeatedMembers))
        (Json.object repeatedMembers).toChars := by
      refine .object (spells_members (List.cons_ne_nil _ _) ?_)
      simp only [repeatedMembers, List.forall_mem_cons, List.not_mem_nil, false_imp_iff,
        implies_true, and_true]
      exact ⟨.string (spellsString_escaped "1".toList), .null, .boolean true⟩
    refine spells_toText_object (List.cons_ne_nil _ _) ?_
    simp only [members, List.forall_mem_cons, List.not_mem_nil, false_imp_iff, implies_true,
      and_true]
    exact ⟨.null, hrepeated, .null⟩
  have husage := spells_toText_object (List.cons_ne_nil _ _) spells_usageMembers
  have hlonger : Spells (.spaced (.object longer)) (Json.object longer).toText.toList :=
    spells_toText_object (List.cons_ne_nil _ _)
      (List.forall_mem_cons.2 ⟨.array (.lastItem (Spells.unspaced .null)), spells_usageMembers⟩)
  have hunit : Inoffensive SystemStats.demands [("unit", Json.null)] := by
    refine inoffensive_concat.2 ⟨inoffensive_nil, fun e hoffends => ?_⟩
    obtain ⟨demand, hdemand, hkey, -⟩ := offends_iff.1 hoffends
    have hmem : demand.key ∈ SystemStats.demands.map Demand.key := List.mem_map_of_mem hdemand
    rw [hkey] at hmem
    exact absurd hmem (by decide)
  have hrefused : RefusesObject SystemStats.demands members (.unfit (.duplicateField "used")) :=
    .offence ⟨[("unit", .null)], ("disk", .object repeatedMembers), ⟨[("platform", .null)], rfl⟩,
      hunit, offends_iff.2 ⟨UsageStats.kind.demand "disk", by simp [SystemStats.demands], rfl,
        .inr ⟨by decide, .object refusesObject_repeatedMembers⟩⟩⟩
  obtain ⟨u, hu⟩ := exists_given_usageMembers
  obtain ⟨htaken, -, hsame⟩ := stats_decoded_or_first_offence_named.1 _ _ husage
  obtain ⟨-, herror, -⟩ := stats_decoded_or_first_offence_named.2 _ _ hmembers
  exact ⟨(herror _).2 hrefused, ⟨u, (htaken u).2 hu⟩, hsame longer _ hlonger rfl⟩

theorem Json.Numeral.value_of_whole {whole places : List Char} :
    (⟨false, whole, [], some ⟨false, places⟩⟩ : Numeral).value =
      (Nat.ofDigitChars 10 whole 0 * 10 ^ Nat.ofDigitChars 10 places 0 : ℕ) := by
  simp [Numeral.value, Exponent.value]

/-- It is not enough that each field is there once with a value of its kind, if numbers are only
known to be no greater than the greatest of double precision. -/
theorem usageStats_refuse_number_in_range :
    let numeral := "1797693134862315700e290"
    let members := [("total", Json.string "1"), ("used", .string "1"), ("percent", .number numeral)]
    (Json.object members).IsProper Numeral.InRange ∧
      Once "total" (.string "1") members ∧ Once "used" (.string "1") members ∧
      Once "percent" (.number numeral) members ∧
      UsageStats.parse (Json.object members).toText = .error .malformed := by
  intro numeral members
  have hrange : Numeral.InRange
      ⟨false, "1797693134862315700".toList, [], some ⟨false, "290".toList⟩⟩ :=
    Numeral.inRange_of_value_eq Numeral.value_of_whole (by decide +kernel)
  have hnone : numberOf? numeral = none := by
    rw [OpenApi.spells_withoutPoint.numberOf?, ← Option.isNone_iff_eq_none]
    decide +kernel
  have hproper : (Json.object members).IsProper Numeral.InRange := by
    refine .object (by decide) ?_
    simp only [members, List.forall_mem_cons, List.not_mem_nil, false_imp_iff, implies_true,
      and_true]
    exact ⟨.string "1", .string "1", .number OpenApi.spells_withoutPoint hrange⟩
  have hparse : UsageStats.parse (Json.object members).toText =
      UsageStats.rules.decode (.object members) := by
    apply UsageStats.rules.readText_spaced
    rw [Json.toText, String.toList_ofList]
    exact hproper.spells.unspaced
  have hfirst : decodeMembers UsageStats.rules.rules UsageStats.reader.empty
      [("total", .string "1"), ("used", .string "1")] = .ok ⟨some "1", some "1", none⟩ := rfl
  have hlast : decodeMember UsageStats.rules.rules ⟨some "1", some "1", none⟩
      ("percent", .number numeral) = .error .malformed := by
    change (decodeSingle (.number numeral)).map _ = _
    rw [decodeSingle, hnone]
    rfl
  refine ⟨hproper, rfl, rfl, rfl, ?_⟩
  rw [hparse]
  change (decodeMembers UsageStats.rules.rules UsageStats.reader.empty
    ([("total", .string "1"), ("used", .string "1")] ++ [("percent", .number numeral)]) >>=
      UsageStats.reader.finish) = _
  rw [RecordRules.decodeMembers_concat, hfirst]
  change (decodeMember UsageStats.rules.rules ⟨some "1", some "1", none⟩
    ("percent", .number numeral) >>= UsageStats.reader.finish) = _
  rw [hlast]
  rfl

end HostStatus
