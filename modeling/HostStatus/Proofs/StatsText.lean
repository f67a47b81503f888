import HostStatus.Proofs.MeasuredUsage
import HostStatus.Proofs.RecordText
import HostStatus.Proofs.SingleText
import HostStatus.Stats.Reader

/-!
# Published statistics read back

Statistics come back from their own text if their percentages are finite, and otherwise there is a
`null` in it that is refused. The percentages of a measured snapshot are finite, since each is the
single nearest to some tenths. So the text of what is published of it tells everything that it
holds.
-/

namespace HostStatus

open Json RecordReader

namespace Json

mutual

/-- Whether `null` stands anywhere in a value. -/
def hasNull : Json → Bool
  | null => true
  | boolean _ | number _ | string _ => false
  | array items => itemsHaveNull items
  | object members => membersHaveNull members

def itemsHaveNull : List Json → Bool
  | [] => false
  | item :: items => item.hasNull || itemsHaveNull items

def membersHaveNull : List (String × Json) → Bool
  | [] => false
  | (_, value) :: members => value.hasNull || membersHaveNull members

end

theorem hasNull_ofSingle {x : Single} : (ofSingle x).hasNull = !x.isFinite := by
  unfold ofSingle
  split
  · next hfinite => rw [hfinite, hasNull, Bool.not_true]
  · next hfinite => rw [Bool.eq_false_of_not_eq_true hfinite, hasNull, Bool.not_false]

end Json

theorem UsageStats.hasNull_toJson (u : UsageStats) : u.toJson.hasNull = !u.percent.isFinite := by
  simp [toJson, hasNull, membersHaveNull, hasNull_ofSingle]

theorem SystemStats.hasNull_toJson (s : SystemStats) :
    s.toJson.hasNull =
      (!s.cpuPercent.isFinite || (!s.memory.percent.isFinite || !s.disk.percent.isFinite)) := by
  simp [toJson, hasNull, membersHaveNull, hasNull_ofSingle, UsageStats.hasNull_toJson]

/-- What the reader says to `null` where a number should be. -/
def nullNumber : ReadError :=
  .unfit (.wrongKind .null .single)

theorem readSingle_refuses {x : Single} (hx : x.isFinite = false) :
    Refuses readSingle (.ofSingle x) nullNumber := by
  intro rest _
  rw [ofSingle, hx, if_neg Bool.false_ne_true]
  rfl

namespace UsageStats

variable {u : UsageStats}

theorem readsBack (h : u.percent.isFinite = true) : ReadsBack reader.read u.toJson u := by
  have hfills : reader.Fills {}
      [("total", .string u.total), ("used", .string u.used), ("percent", .ofSingle u.percent)]
      (.ok ⟨some u.total, some u.used, some u.percent⟩) := by
    refine .cons _ rfl rfl (FieldReader.ofOption_readsBack (readString_readsBack u.total) _) ?_
    refine .cons _ rfl rfl (FieldReader.ofOption_readsBack (readString_readsBack u.used) _) ?_
    exact .cons _ rfl rfl (FieldReader.ofOption_readsBack (readSingle_readsBack h) _) (.nil _)
  exact hfills.readsBack rfl

theorem refuses (h : u.percent.isFinite = false) : Refuses reader.read u.toJson nullNumber := by
  have hfills : reader.Fills {}
      [("total", .string u.total), ("used", .string u.used), ("percent", .ofSingle u.percent)]
      (.error nullNumber) := by
    refine .cons _ rfl rfl (FieldReader.ofOption_readsBack (readString_readsBack u.total) _) ?_
    refine .cons _ rfl rfl (FieldReader.ofOption_readsBack (readString_readsBack u.used) _) ?_
    exact .refuse _ rfl rfl (FieldReader.ofOption_refuses (readSingle_refuses h) _)
  exact hfills.refuses

end UsageStats

namespace SystemStats

variable {s : SystemStats}

theorem readsBack (hcpu : s.cpuPercent.isFinite = true) (hmemory : s.memory.percent.isFinite = true)
    (hdisk : s.disk.percent.isFinite = true) : ReadsBack reader.read s.toJson s := by
  have hfills : reader.Fills {}
      [("platform", .string s.platform), ("cpu_percent", .ofSingle s.cpuPercent),
        ("memory", s.memory.toJson), ("disk", s.disk.toJson)]
      (.ok ⟨some s.platform, some s.cpuPercent, some s.memory, some s.disk⟩) := by
    refine .cons _ rfl rfl (FieldReader.ofOption_readsBack (readString_readsBack s.platform) _) ?_
    refine .cons _ rfl rfl (FieldReader.ofOption_readsBack (readSingle_readsBack hcpu) _) ?_
    refine .cons _ rfl rfl (FieldReader.ofOption_readsBack (UsageStats.readsBack hmemory) _) ?_
    exact .cons _ rfl rfl (FieldReader.ofOption_readsBack (UsageStats.readsBack hdisk) _) (.nil _)
  exact hfills.readsBack rfl

/-- The first percentage that is not finite is refused. -/
theorem refuses (h : s.toJson.hasNull = true) : Refuses reader.read s.toJson nullNumber := by
  have hfills : reader.Fills {}
      [("platform", .string s.platform), ("cpu_percent", .ofSingle s.cpuPercent),
        ("memory", s.memory.toJson), ("disk", s.disk.toJson)]
      (.error nullNumber) := by
    rw [hasNull_toJson] at h
    refine .cons _ rfl rfl (FieldReader.ofOption_readsBack (readString_readsBack s.platform) _) ?_
    cases hcpu : s.cpuPercent.isFinite with
    | false => exact .refuse _ rfl rfl (FieldReader.ofOption_refuses (readSingle_refuses hcpu) _)
    | true =>
      refine .cons _ rfl rfl (FieldReader.ofOption_readsBack (readSingle_readsBack hcpu) _) ?_
      cases hmemory : s.memory.percent.isFinite with
      | false =>
        exact .refuse _ rfl rfl (FieldReader.ofOption_refuses (UsageStats.refuses hmemory) _)
      | true =>
        have hdisk : s.disk.percent.isFinite = false := by simpa [hcpu, hmemory] using h
        refine .cons _ rfl rfl (FieldReader.ofOption_readsBack (UsageStats.readsBack hmemory) _) ?_
        exact .refuse _ rfl rfl (FieldReader.ofOption_refuses (UsageStats.refuses hdisk) _)
  exact hfills.refuses

end SystemStats

/-- Statistics of finite numbers come back bit for bit, and others not at all. -/
theorem parse_of_finite :
    (∀ u : UsageStats, u.percent.isFinite = true → UsageStats.parse u.toJson.toText = .ok u) ∧
    (∀ s : SystemStats, s.cpuPercent.isFinite = true → s.memory.percent.isFinite = true →
      s.disk.percent.isFinite = true → SystemStats.parse s.toJson.toText = .ok s) ∧
    (∀ u : UsageStats, u.percent.isFinite = false →
      UsageStats.parse u.toJson.toText = .error nullNumber) ∧
    ∀ s : SystemStats, (s.cpuPercent.isFinite = false ∨ s.memory.percent.isFinite = false ∨
      s.disk.percent.isFinite = false) → SystemStats.parse s.toJson.toText = .error nullNumber := by
  refine ⟨fun u h => readText_toText (UsageStats.readsBack h), fun s hcpu hmemory hdisk => ?_,
    fun u h => readText_refuses (UsageStats.refuses h), fun s h => ?_⟩
  · exact readText_toText (SystemStats.readsBack hcpu hmemory hdisk)
  · apply readText_refuses
    apply SystemStats.refuses
    rw [SystemStats.hasNull_toJson]
    rcases h with h | h | h <;> simp [h]

/-- The single for which rounding the exact decimal twice goes wrong, a zero with a sign and the
smallest positive single. -/
theorem parse_of_finite_at_extremes :
    ∃ s : SystemStats, s.cpuPercent.toBits = 0x15ae43fd ∧ s.memory.percent.toBits = 0x80000000 ∧
      s.disk.percent.toBits = 1 ∧ SystemStats.parse s.toJson.toText = .ok s ∧
      UsageStats.parse s.memory.toJson.toText = .ok s.memory := by
  let s : SystemStats := ⟨"Linux", .ofBits 0x15ae43fd, ⟨"1.00 KB", "0.00 B", .ofBits 0x80000000⟩,
    ⟨"1.00 KB", "0.00 B", .ofBits 1⟩⟩
  have hcpu : s.cpuPercent.isFinite = true := by decide +kernel
  have hmemory : s.memory.percent.isFinite = true := by decide +kernel
  have hdisk : s.disk.percent.isFinite = true := by decide +kernel
  exact ⟨s, by decide +kernel, by decide +kernel, by decide +kernel,
    parse_of_finite.2.1 s hcpu hmemory hdisk, parse_of_finite.1 s.memory hmemory⟩

/-- A snapshot of measured usages, whose load is the single nearest to some tenths of a percent. -/
structure Snapshot.Measured (s : Snapshot) : Prop where
  cpu : ∃ n : ℕ, n ≤ 1000 ∧ s.cpuPercent.IsNearest (n / 10)
  memory : s.memory.Measured
  disk : s.disk.Measured

theorem Snapshot.Measured.hasMagnitude {s : Snapshot} (h : s.Measured) {x : Single}
    (hx : x ∈ [s.cpuPercent, s.memory.percent, s.disk.percent]) :
    ∃ n : ℕ, n ≤ 1000 ∧ x.HasMagnitude (tenthQuanta n) := by
  simp only [List.mem_cons, List.not_mem_nil, or_false] at hx
  rcases hx with rfl | rfl | rfl
  · obtain ⟨n, hn, hnearest⟩ := h.cpu
    exact ⟨n, hn, hasMagnitude_of_isNearest hn hnearest⟩
  · obtain ⟨n, hn, hquanta⟩ := h.memory.percent_hasQuanta
    exact ⟨n, hn, hquanta.hasMagnitude⟩
  · obtain ⟨n, hn, hquanta⟩ := h.disk.percent_hasQuanta
    exact ⟨n, hn, hquanta.hasMagnitude⟩

theorem Snapshot.Measured.parse {s : Snapshot} (h : s.Measured) :
    SystemStats.parse (SystemStats.ofSnapshot s).toJson.toText =
      .ok (SystemStats.ofSnapshot s) := by
  have hfinite {x : Single} (hx : x ∈ [s.cpuPercent, s.memory.percent, s.disk.percent]) :
      x.isFinite = true := by
    obtain ⟨n, _, negative, hrep, rfl⟩ := h.hasMagnitude hx
    rfl
  exact readText_toText (SystemStats.readsBack (hfinite (by simp [SystemStats.ofSnapshot]))
    (hfinite (by simp [SystemStats.ofSnapshot, UsageStats.ofUsage]))
    (hfinite (by simp [SystemStats.ofSnapshot, UsageStats.ofUsage])))

/-- What is published of a measured snapshot is read back as it was, no number in it is written as
`null`, and different statistics are published as different texts. -/
theorem Snapshot.published_parse :
    (∀ s : Snapshot, s.Measured →
      SystemStats.parse (SystemStats.ofSnapshot s).toJson.toText =
          .ok (SystemStats.ofSnapshot s) ∧
        (SystemStats.ofSnapshot s).toJson.hasNull = false) ∧
    ∀ s t : Snapshot, s.Measured → t.Measured →
      SystemStats.ofSnapshot s ≠ SystemStats.ofSnapshot t →
      (SystemStats.ofSnapshot s).toJson.toText ≠ (SystemStats.ofSnapshot t).toJson.toText := by
  refine ⟨fun s hs => ⟨hs.parse, ?_⟩, fun s t hs ht hne htext => hne ?_⟩
  · have hfinite {x : Single} (hx : x ∈ [s.cpuPercent, s.memory.percent, s.disk.percent]) :
        x.isFinite = true := by
      obtain ⟨n, _, negative, hrep, rfl⟩ := hs.hasMagnitude hx
      rfl
    rw [SystemStats.hasNull_toJson]
    simp [SystemStats.ofSnapshot, UsageStats.ofUsage, hfinite]
  · have hparse := hs.parse
    rw [htext, ht.parse] at hparse
    exact (Except.ok.inj hparse).symm

/-- Two snapshots that differ by what has to be escaped in the name of their platform. -/
theorem Snapshot.published_parse_of_escaped_platforms :
    ∃ s t : Snapshot, s.platform = "Linux \"6.8\"\t\\ \x01\u007f é 𝒳" ∧ t.platform = "Linux 6.8\n" ∧
      s.Measured ∧ t.Measured ∧ SystemStats.ofSnapshot s ≠ SystemStats.ofSnapshot t ∧
      SystemStats.parse (SystemStats.ofSnapshot s).toJson.toText =
        .ok (SystemStats.ofSnapshot s) ∧
      (SystemStats.ofSnapshot s).toJson.hasNull = false ∧
      (SystemStats.ofSnapshot s).toJson.toText ≠ (SystemStats.ofSnapshot t).toJson.toText := by
  obtain ⟨cpu, hcpu⟩ : ∃ cpu : Single, ∃ n : ℕ, n ≤ 1000 ∧ cpu.IsNearest (n / 10) := by
    obtain ⟨⟨n, hn, _, hnearest⟩, _⟩ :=
      percentage_isPercentage (show 1 ≤ 3 by norm_num) (by norm_num) (by norm_num)
    exact ⟨_, n, hn, hnearest⟩
  obtain ⟨memory, havailable⟩ : ∃ memory, Usage.ofAvailable? 3 1 = some memory :=
    ⟨_, Usage.ofAvailable?_of_pos 1 (by norm_num)⟩
  obtain ⟨disk, hvolume⟩ : ∃ disk, Usage.ofVolume? ⟨4096, 1150, 600, 500⟩ = some disk :=
    ⟨_, Usage.ofVolume?_of_pos (by norm_num)⟩
  have hmemory : memory.Measured := .memory 3 1 (by norm_num) havailable
  have hdisk : disk.Measured := .disk _ ⟨by norm_num, by norm_num⟩ hvolume
  let snapshot (platform : String) : Snapshot := ⟨platform, cpu, memory, disk⟩
  have hmeasured (platform : String) : (snapshot platform).Measured := ⟨hcpu, hmemory, hdisk⟩
  have hne : SystemStats.ofSnapshot (snapshot "Linux \"6.8\"\t\\ \x01\u007f é 𝒳") ≠
      SystemStats.ofSnapshot (snapshot "Linux 6.8\n") := by
    intro heq
    simp [snapshot, SystemStats.ofSnapshot] at heq
  obtain ⟨hparse, hnull⟩ := Snapshot.published_parse.1 _ (hmeasured _)
  exact ⟨_, _, rfl, rfl, hmeasured _, hmeasured _, hne, hparse, hnull,
    Snapshot.published_parse.2 _ _ (hmeasured _) (hmeasured _) hne⟩

end HostStatus
