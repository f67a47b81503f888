import HostStatus.Proofs.HeadReplies
import HostStatus.Proofs.PublishedSchemas

/-!
# The service as it is described

The paths of the document are those of the resources, and each lists every status and media type
that its resource is answered with. Its schema of the statistics accepts what the reader accepts, as
long as the figures are evaluated. This cannot be left out: a number of double precision has
numerals that the reader refuses.
-/

namespace HostStatus

open Json

namespace OpenApi

variable {j : Json} {members : List (String × Json)}

/-! ## Paths -/

def descend? (j : Json) (keys : List String) : Option Json :=
  keys.foldlM (fun j key => j.child? key.toList) j

/-- A media type without its parameters. -/
def essence (mediaType : String) : String :=
  String.ofList (mediaType.toList.takeWhile (· ≠ ';'))

def pathItem : Resource → Json
  | .page => getOperation "index" "Human-readable status page" "text/html" stringSchema
  | .stats =>
    getOperation "api_stats" "Current host resource usage" "application/json"
      (schemaReference "SystemStats")

theorem descend?_paths (path : String) (keys : List String) :
    descend? document ("paths" :: path :: keys) =
      ((Resource.ofPath? path).map pathItem).bind (descend? · keys) := by
  have hpaths : descend? document ("paths" :: path :: keys) =
      ([("/", pathItem .page), ("/api/stats", pathItem .stats)].lookup
        (String.ofList path.toList)).bind (descend? · keys) := rfl
  rw [hpaths, String.ofList_toList, Resource.ofPath?, List.lookup_cons, List.lookup_cons,
    List.lookup_nil]
  by_cases hroot : path = "/"
  · simp [hroot]
  · by_cases hstats : path = "/api/stats"
    · simp [hstats]
    · rw [beq_eq_false_iff_ne.2 hroot, beq_eq_false_iff_ne.2 hstats, if_neg hroot, if_neg hstats]
      rfl

/-- Every status of a resource is described, and the media type of what is shown. -/
theorem reply_described (r : Resource) (settings : Settings) (ticket : Ticket) (outcome : Outcome) :
    ∃ described, descend? (pathItem r)
        ["get", "responses", toString (r.reply settings ticket outcome).response.status] =
          some described ∧
      ((r.reply settings ticket outcome).response.status = 200 →
        ∃ mediaType schema header,
          descend? described ["content"] = some (.object [(mediaType, schema)]) ∧
          (r.reply settings ticket outcome).response.values "content-type" = [header] ∧
          essence header = mediaType) := by
  rcases outcome.snapshot?_cases ticket with ⟨s, rfl⟩ | ⟨fault, hfault⟩
  · rw [(r.reply_snapshot settings ticket s).1]
    cases r with
    | page =>
      exact ⟨_, rfl, fun _ => ⟨"text/html", _, "text/html; charset=utf-8", rfl, rfl, by decide⟩⟩
    | stats =>
      exact ⟨_, rfl, fun _ => ⟨"application/json", _, "application/json", rfl, rfl, by decide⟩⟩
  · have hstatus : (r.reply settings ticket outcome).response.status = 500 := by
      rw [Resource.reply_fault hfault, ← fault.status_eq]
      rfl
    rw [hstatus]
    cases r with
    | page => exact ⟨_, rfl, fun h => absurd h (by decide)⟩
    | stats => exact ⟨_, rfl, fun h => absurd h (by decide)⟩

theorem status_ne_notFound_iff (settings : Settings) (ticket : Ticket) (uri : Uri)
    (outcome : Outcome) :
    (Router.replyTo settings ticket ⟨"GET", uri⟩ outcome).response.status ≠ 404 ↔
      (Resource.ofPath? uri.path).isSome := by
  have hpath : (Resource.ofPath? uri.path).isSome = (⟨"GET", uri⟩ : Request).namesResource :=
    Resource.isSome_ofPath? ⟨"GET", uri⟩
  have hcollects := Router.collects_get_or_head uri (.inl rfl)
  rw [hpath]
  cases hnames : (⟨"GET", uri⟩ : Request).namesResource with
  | false =>
    rw [hnames] at hcollects
    have hstatus := (Router.refusal_spec ⟨"GET", uri⟩).2
    rw [hnames, if_neg Bool.false_ne_true] at hstatus
    rw [Router.replyTo_of_not_collects hcollects]
    exact iff_of_false (fun hne => hne hstatus) Bool.false_ne_true
  | true =>
    rw [hnames] at hcollects
    obtain ⟨r, -, hreply⟩ := Router.replyTo_of_collects hcollects settings ticket outcome
    refine iff_of_true ?_ rfl
    rw [hreply, if_pos rfl]
    rcases outcome.snapshot?_cases ticket with ⟨s, rfl⟩ | ⟨fault, hfault⟩
    · rw [(r.reply_snapshot settings ticket s).1]
      decide
    · rw [Resource.reply_fault hfault]
      exact fault.status_eq.trans_ne (by decide)

/-! ## Statistics of a given load -/

def usageMembers : List (String × Json) :=
  [("total", .string "1"), ("used", .string "1"), ("percent", .number "1")]

/-- Members of statistics with this numeral for the load. -/
def statsMembers (load : String) : List (String × Json) :=
  [("platform", .string "x"), ("cpu_percent", .number load), ("memory", .object usageMembers),
    ("disk", .object usageMembers)]

theorem spells_one : SpellsNumeral ⟨false, ['1'], [], none⟩ "1".toList :=
  ⟨by simp, digits_of_all rfl, by decide, digits_of_all rfl, [], .none, rfl⟩

theorem evaluates_one : Numeral.Evaluates ⟨false, ['1'], [], none⟩ := by
  unfold Numeral.Evaluates
  decide

theorem isProper_statsMembers {accepts : Numeral → Prop} {load : String} {n : Numeral}
    (hn : SpellsNumeral n load.toList) (haccepts : accepts n)
    (hone : accepts ⟨false, ['1'], [], none⟩) :
    ∀ member ∈ statsMembers load, member.2.IsProper accepts := by
  have husage : IsProper accepts (.object usageMembers) := by
    refine .object (by decide) ?_
    simp only [usageMembers, List.forall_mem_cons, List.not_mem_nil, false_imp_iff, implies_true,
      and_true]
    exact ⟨.string "1", .string "1", .number spells_one hone⟩
  simp only [statsMembers, List.forall_mem_cons, List.not_mem_nil, false_imp_iff, implies_true,
    and_true]
  exact ⟨.string "x", .number hn haccepts, husage, husage⟩

/-- Members beside those of the statistics do not matter if they have other keys. -/
theorem atKeys_of_stats {load : String} {keys : List String} {P : Json → Prop}
    (h : ∀ member ∈ members, member ∈ statsMembers load ∨ member.1 ∉ keys)
    (hstats : ∀ member ∈ statsMembers load, member.1 ∈ keys → P member.2) :
    AtKeys keys P (.object members) := by
  intro members' hmembers member hmember hkey
  cases hmembers
  exact hstats member ((h member hmember).resolve_right fun hother => hother hkey) hkey

theorem figuresEvaluate_of_stats {load : String} {n : Numeral} (hn : SpellsNumeral n load.toList)
    (hevaluates : n.Evaluates)
    (h : ∀ member ∈ members, member ∈ statsMembers load ∨
      member.1 ∉ ["cpu_percent", "memory", "disk"]) :
    FiguresEvaluate (.object members) := by
  have hload : (Json.number load).Evaluates := evaluates_number hn hevaluates
  have husage : AtKeys ["percent"] Json.Evaluates (.object usageMembers) := by
    intro members' hmembers
    cases hmembers
    simp [usageMembers, evaluates_number spells_one evaluates_one]
  constructor
  · refine atKeys_of_stats (fun member hmember => (h member hmember).imp_right fun hother hkey =>
      hother (List.mem_cons.2 (.inl (List.mem_singleton.1 hkey)))) ?_
    simp [statsMembers, hload]
  · refine atKeys_of_stats (fun member hmember => (h member hmember).imp_right fun hother hkey =>
      hother (List.mem_cons_of_mem _ hkey)) ?_
    simp [statsMembers, husage]

theorem recordsAreObjects_of_stats {load : String}
    (h : ∀ member ∈ members, member ∈ statsMembers load ∨ member.1 ∉ ["memory", "disk"]) :
    RecordsAreObjects (.object members) :=
  ⟨by simp [typeName], atKeys_of_stats (P := (typeName · ≠ "array")) h
    (by simp [statsMembers, typeName])⟩

theorem valid_of_statsMembers {load : String} (hkeys : (members.map Prod.fst).Nodup)
    (h : ∀ member ∈ statsMembers load, member ∈ members) :
    Valid document (schemaReference "SystemStats") (.object members) := by
  have husage : Valid document (schemaReference "UsageStats") (.object usageMembers) :=
    (valid_usageStats (by decide)).2
      ⟨⟨.string "1", by simp [usageMembers], rfl⟩, ⟨.string "1", by simp [usageMembers], rfl⟩,
        ⟨.number "1", by simp [usageMembers], rfl⟩⟩
  refine (valid_systemStats hkeys).2 ⟨⟨.string "x", h _ ?_, rfl⟩, ⟨.number load, h _ ?_, rfl⟩,
    ⟨_, h _ ?_, husage⟩, ⟨_, h _ ?_, husage⟩⟩
  all_goals simp [statsMembers]

theorem spells_withPoint :
    SpellsNumeral ⟨false, ['1'], "7976931348623157".toList, some ⟨false, "308".toList⟩⟩
      "1.7976931348623157e308".toList :=
  have hexponent : SpellsExponent (some ⟨false, "308".toList⟩) "e308".toList :=
    .some (.inl rfl) (.inl rfl) (by simp) (digits_of_all rfl)
  ⟨by simp, digits_of_all rfl, by decide, digits_of_all rfl, _, hexponent, rfl⟩

theorem spells_withoutPoint :
    SpellsNumeral ⟨false, "1797693134862315700".toList, [], some ⟨false, "290".toList⟩⟩
      "1797693134862315700e290".toList :=
  have hexponent : SpellsExponent (some ⟨false, "290".toList⟩) "e290".toList :=
    .some (.inl rfl) (.inl rfl) (by simp) (digits_of_all rfl)
  ⟨by simp, digits_of_all rfl, by decide, digits_of_all rfl, _, hexponent, rfl⟩

theorem evaluates_withPoint : Numeral.Evaluates
    ⟨false, ['1'], "7976931348623157".toList, some ⟨false, "308".toList⟩⟩ := by
  unfold Numeral.Evaluates
  decide +kernel

/-! ## The document and the service -/

theorem parse_toText {accepts : Numeral → Prop} (h : j.IsProper accepts) :
    SystemStats.parse j.toText = SystemStats.rules.decode j := by
  apply SystemStats.rules.readText_spaced
  rw [Json.toText, String.toList_ofList]
  exact h.spells.unspaced

/-- A value whose load and percentages, if they are numbers, can be evaluated by the reader is valid
for the published schema just if its text is read as statistics, and all texts of a value are read
alike. What is published is valid and documented, and so is whatever `GET` is answered with. -/
theorem document_describes_service :
    (∀ v : Json, v.IsProper (fun _ => True) →
      (FiguresEvaluate v → RecordsAreObjects v →
        (Valid document (schemaReference "SystemStats") v ↔
          ∃ s, SystemStats.parse v.toText = .ok s)) ∧
      ∀ text : String, Spells (.spaced v) text.toList →
        SystemStats.parse text = SystemStats.parse v.toText) ∧
    (∀ s : SystemStats, s.cpuPercent.isFinite = true → s.memory.percent.isFinite = true →
      s.disk.percent.isFinite = true →
        Valid document (schemaReference "SystemStats") s.toJson ∧
          Documented document (schemaReference "SystemStats") s.toJson) ∧
    ∀ (settings : Settings) (ticket : Ticket) (uri : Uri) (outcome : Outcome),
      let response := (Router.replyTo settings ticket ⟨"GET", uri⟩ outcome).response
      (response.status ≠ 404 ↔ (descend? document ["paths", uri.path]).isSome) ∧
        ((descend? document ["paths", uri.path]).isSome →
          ∃ described, descend? document
              ["paths", uri.path, "get", "responses", toString response.status] = some described ∧
            (response.status = 200 →
              ∃ mediaType schema header,
                descend? described ["content"] = some (.object [(mediaType, schema)]) ∧
                response.values "content-type" = [header] ∧ essence header = mediaType)) := by
  refine ⟨fun v hproper => ?_, fun s => valid_toJson_systemStats,
    fun settings ticket uri outcome => ?_⟩
  · rw [parse_toText hproper]
    exact ⟨fun hfigures hrecords => (decode_systemStats_isOk hproper hfigures hrecords).symm,
      fun text htext => SystemStats.rules.readText_spaced htext⟩
  · have hpaths := descend?_paths uri.path []
    have hsome : (descend? document ["paths", uri.path]).isSome =
        (Resource.ofPath? uri.path).isSome := by
      rw [hpaths]
      cases Resource.ofPath? uri.path <;> rfl
    refine ⟨?_, fun h => ?_⟩
    · rw [hsome]
      exact status_ne_notFound_iff settings ticket uri outcome
    · rw [hsome, Resource.isSome_ofPath? ⟨"GET", uri⟩] at h
      have hcollects := Router.collects_get_or_head uri (.inl rfl)
      rw [h] at hcollects
      obtain ⟨r, hr, hreply⟩ := Router.replyTo_of_collects hcollects settings ticket outcome
      obtain ⟨described, hdescribed, hcontent⟩ := reply_described r settings ticket outcome
      rw [hreply, if_pos rfl, descend?_paths, hr]
      exact ⟨described, hdescribed, hcontent⟩

/-- A value with its members in another order, one of them unknown, in which there is a number that
is refused elsewhere, and a text of it with blanks around; finite statistics; and a request for
which the collector panics. -/
theorem document_describes_service_of_unknown_member :
    let members := ("unit", Json.array [.number "1797693134862315700e290"]) ::
      (statsMembers "1.7976931348623157e308").reverse
    let v := Json.object members
    let s : SystemStats := ⟨"x", .ofNat 12, ⟨"1", "0", .ofNat 0⟩, ⟨"1", "0", .ofNat 0⟩⟩
    let uri : Uri := ⟨none, none, "/api/stats", some "x"⟩
    v.IsProper (fun _ => True) ∧ FiguresEvaluate v ∧ RecordsAreObjects v ∧
      Valid document (schemaReference "SystemStats") v ∧ (∃ s, SystemStats.parse v.toText = .ok s) ∧
      SystemStats.parse (" " ++ v.toText ++ "\n") = SystemStats.parse v.toText ∧
      (s.cpuPercent.isFinite = true ∧ s.memory.percent.isFinite = true ∧
        s.disk.percent.isFinite = true) ∧
      Documented document (schemaReference "SystemStats") s.toJson ∧
      (descend? document ["paths", uri.path]).isSome ∧
      (Router.replyTo {} ⟨"7", "1"⟩ ⟨"GET", uri⟩ (.panicked "boom")).response.status = 500 ∧
      ∃ described, descend? document ["paths", uri.path, "get", "responses", "500"] =
        some described := by
  intro members v s uri
  have hproper : v.IsProper fun _ => True := by
    refine .object (by decide) (List.forall_mem_cons.2 ⟨?_, fun member hmember => ?_⟩)
    · exact .array (List.forall_mem_singleton.2 (.number spells_withoutPoint trivial))
    · exact isProper_statsMembers spells_withPoint trivial trivial member
        (List.mem_reverse.1 hmember)
  have hmembers (keys : List String) (hkeys : "unit" ∉ keys) : ∀ member ∈ members,
      member ∈ statsMembers "1.7976931348623157e308" ∨ member.1 ∉ keys :=
    List.forall_mem_cons.2 ⟨.inr hkeys, fun member hmember => .inl (List.mem_reverse.1 hmember)⟩
  have hfigures : FiguresEvaluate v :=
    figuresEvaluate_of_stats spells_withPoint evaluates_withPoint (hmembers _ (by decide))
  have hrecords : RecordsAreObjects v := recordsAreObjects_of_stats (hmembers _ (by decide))
  have hvalid : Valid document (schemaReference "SystemStats") v :=
    valid_of_statsMembers (by decide) fun member hmember =>
      List.mem_cons_of_mem _ (List.mem_reverse.2 hmember)
  have hspaced : Spells (.spaced v) (" " ++ v.toText ++ "\n").toList := by
    have hbefore : Blanks [' '] := by simp [Blanks, isBlank]
    have hafter : Blanks ['\n'] := by simp [Blanks, isBlank]
    have hspells := Spells.spaced hbefore hproper.spells hafter
    simpa [Json.toText] using hspells
  have hcpu : s.cpuPercent.isFinite = true := by decide +kernel
  have hzero : s.memory.percent.isFinite = true := by decide +kernel
  have hstatus :
      (Router.replyTo {} ⟨"7", "1"⟩ ⟨"GET", uri⟩ (.panicked "boom")).response.status = 500 := rfl
  obtain ⟨hread, htexts⟩ := document_describes_service.1 v hproper
  have hparses := (hread hfigures hrecords).1 hvalid
  have hdocumented := (document_describes_service.2.1 s hcpu hzero hzero).2
  obtain ⟨hfound, hdescribed⟩ :=
    document_describes_service.2.2 {} ⟨"7", "1"⟩ uri (.panicked "boom")
  have hsome := hfound.1 (by rw [hstatus]; decide)
  obtain ⟨described, hresponse, -⟩ := hdescribed hsome
  rw [hstatus] at hresponse
  exact ⟨hproper, hfigures, hrecords, hvalid, hparses, htexts _ hspaced, ⟨hcpu, hzero, hzero⟩,
    hdocumented, hsome, hstatus, described, hresponse⟩

/-- It is not enough that numbers are no greater than the greatest of double precision. This numeral
is refused, since the last step to its number overflows, and the same number is read where a point
is put into it. The schema does not tell them apart. -/
theorem document_accepts_refused_number :
    let v := Json.object (statsMembers "1797693134862315700e290")
    v.IsProper Numeral.InRange ∧ RecordsAreObjects v ∧
      Valid document (schemaReference "SystemStats") v ∧
      (¬∃ s, SystemStats.parse v.toText = .ok s) ∧
      ∃ s, SystemStats.parse (Json.object (statsMembers "1.7976931348623157e308")).toText =
        .ok s := by
  intro v
  have hrange : Numeral.InRange
      ⟨false, "1797693134862315700".toList, [], some ⟨false, "290".toList⟩⟩ := by
    have hdigits : Nat.ofDigitChars 10 ("1797693134862315700".toList ++ []) 0 =
        1797693134862315700 := by decide
    have hplaces : Nat.ofDigitChars 10 "290".toList 0 = 290 := by decide
    refine Numeral.inRange_of_value_eq (k := 1797693134862315700 * 10 ^ 290) ?_ (by decide +kernel)
    simp only [Numeral.value, hdigits, Option.elim_some, Exponent.value, hplaces,
      Bool.false_eq_true, if_false, List.length_nil, one_mul, Nat.cast_zero, sub_zero, zpow_natCast]
    rw [Nat.cast_mul, Nat.cast_pow]
    rfl
  have hone : Numeral.InRange ⟨false, ['1'], [], none⟩ := by
    have hdigits : Nat.ofDigitChars 10 ['1'] 0 = 1 := by decide
    refine Numeral.inRange_of_value_eq (k := 1) ?_ (by decide +kernel)
    simp [Numeral.value, hdigits]
  have hrecords (load : String) : RecordsAreObjects (.object (statsMembers load)) :=
    recordsAreObjects_of_stats fun member hmember => .inl hmember
  have hproper : v.IsProper Numeral.InRange :=
    .object (by decide) (isProper_statsMembers spells_withoutPoint hrange hone)
  refine ⟨hproper, hrecords _, valid_of_statsMembers (by decide) fun _ => id, fun hread => ?_, ?_⟩
  · have hnone : Number.ofNumeral?
        ⟨false, "1797693134862315700".toList, [], some ⟨false, "290".toList⟩⟩ = none := by
      rw [← Option.isNone_iff_eq_none]
      decide +kernel
    rw [parse_toText hproper, SystemStats.decode_isOk (by decide)] at hread
    obtain ⟨-, ⟨j, hj, x, hx⟩, -⟩ := hread
    obtain rfl : j = .number "1797693134862315700e290" := by simpa [statsMembers] using hj
    rw [decodeSingle, spells_withoutPoint.numberOf?, hnone] at hx
    cases hx
  · have hread : IsProper (fun _ => True) (.object (statsMembers "1.7976931348623157e308")) :=
      .object (by decide) (isProper_statsMembers spells_withPoint trivial trivial)
    have hfigures : FiguresEvaluate (.object (statsMembers "1.7976931348623157e308")) :=
      figuresEvaluate_of_stats spells_withPoint evaluates_withPoint fun member hmember =>
        .inl hmember
    rw [parse_toText hread, decode_systemStats_isOk hread hfigures (hrecords _)]
    exact valid_of_statsMembers (by decide) fun _ => id

end OpenApi

end HostStatus
