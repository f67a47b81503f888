import HostStatus.Proofs.PageText
import HostStatus.Proofs.StatsText

/-!
# The page and the body of the statistics

The page writes a percentage with one place, rounded from its exact value, and the body writes the
shortest decimal that reads back. For a single that is nearest to some tenths both are those tenths:
it is much less than half a tenth away from them, and `toChars_tenths` says that nothing shorter
reads back. So the body can be made from what a reader of the page is told.
-/

namespace HostStatus

open Format Decimal

attribute [local irreducible] Format.one Format.limit

/-! ## Tenths with one place -/

theorem Nearest.halfEven_eq_of_near {num den n : ℕ} (hden : 0 < den)
    (hlow : 2 * (n * den) < 2 * num + den) (hhigh : 2 * num < 2 * (n * den) + den) :
    halfEven num den = n := by
  have hle := halfEven_le num den
  have hge := le_halfEven num hden
  have hlt : halfEven num den * den < (n + 1) * den := by
    rw [Nat.add_mul]
    omega
  have hgt : n * den < (halfEven num den + 1) * den := by
    rw [Nat.add_mul]
    omega
  have := Nat.lt_of_mul_lt_mul_right hlt
  have := Nat.lt_of_mul_lt_mul_right hgt
  omega

theorem halfEven_tenthQuanta {n : ℕ} (hn : n ≤ 1000) :
    Nearest.halfEven (tenthQuanta n * 10) binary32.one = n := by
  have hone := binary32.cast_one_pos
  have hn' : (n : ℚ) ≤ 1000 := by exact_mod_cast hn
  have hbound : (n : ℚ) * binary32.one ≤ 1000 * binary32.one := by gcongr
  obtain ⟨hlow, hhigh⟩ := abs_le.1 (tenthQuanta_error n)
  have hlow' : (2 * (n * binary32.one) : ℚ) < 2 * (tenthQuanta n * 10) + binary32.one := by
    linarith
  have hhigh' : (2 * (tenthQuanta n * 10) : ℚ) < 2 * (n * binary32.one) + binary32.one := by
    linarith
  exact Nearest.halfEven_eq_of_near binary32.one_pos (by exact_mod_cast hlow')
    (by exact_mod_cast hhigh')

theorem fixedText_tenths {n : ℕ} (hn : n ≤ 1000) (negative : Bool)
    (h : binary32.Representable (tenthQuanta n)) :
    fixedText 1 (.finite negative (tenthQuanta n) h : Single) =
      (⟨negative, n⟩ : Fixed 1).toText := by
  rw [fixedText, Fixed.ofQuanta, Nat.pow_eq, pow_one, halfEven_tenthQuanta hn]

/-- Both ways to write a number agree where it is nearest to some tenths. -/
theorem ofSingle_eq_fixedText {x : Single} {n : ℕ} (hn : n ≤ 1000)
    (hx : x.HasMagnitude (tenthQuanta n)) : Json.ofSingle x = .number (fixedText 1 x) := by
  obtain ⟨negative, h, rfl⟩ := hx
  have hfinite : (.finite negative (tenthQuanta n) h : Single).isFinite = true := rfl
  rw [fixedText_tenths hn, Json.ofSingle, if_pos hfinite, Layout.toText, toChars_tenths hn,
    Fixed.toText]

/-- Digits, a point and one digit. -/
def HasOnePlace (text : String) : Prop :=
  ∃ whole last, text.toList = whole ++ ['.', last] ∧ whole ≠ [] ∧ whole.all Char.isDigit = true ∧
    last.isDigit = true

theorem hasOnePlace_tenths (n : ℕ) : HasOnePlace (⟨false, n⟩ : Fixed 1).toText := by
  refine ⟨Nat.toDigits 10 (n / 10), Nat.digitChar (n % 10), ?_, Nat.toDigits_ne_nil, ?_, ?_⟩
  · rw [Fixed.toText, String.toList_ofList, Fixed.toChars_tenths]
  · exact List.all_eq_true.2 fun c => Json.isDigit_of_mem_toDigits
  · have hlast : Nat.digitChar (n % 10) ∈ Nat.toDigits 10 (n % 10) := by
      rw [Nat.toDigits_of_lt_base (Nat.mod_lt _ (by norm_num))]
      exact List.mem_singleton_self _
    exact Json.isDigit_of_mem_toDigits hlast

theorem hasOnePlace_fixedText {x : Single} {n : ℕ} (hn : n ≤ 1000)
    (hx : x.HasQuanta (tenthQuanta n)) : HasOnePlace (fixedText 1 x) := by
  obtain ⟨h, rfl⟩ := hx
  rw [fixedText_tenths hn]
  exact hasOnePlace_tenths n

/-- Of the singles nearest to some tenths only a zero can have a minus sign. -/
theorem eq_zero_of_isNearest {x : Single} {n : ℕ} (hn : n ≤ 1000) (hx : x.IsNearest (n / 10))
    (hnegative : x.isNegative = true) : n = 0 := by
  obtain ⟨negative, h, rfl⟩ := hasMagnitude_of_isNearest hn hx
  obtain rfl : negative = true := hnegative
  have hrep : binary32.Representable 0 := by decide +kernel
  have hdistance := hx.nearest (.finite false 0 hrep) rfl
  have hone := binary32.cast_one_pos
  have hn' : (0 : ℚ) ≤ n / 10 := by positivity
  have hq : (0 : ℚ) ≤ tenthQuanta n / binary32.one := by positivity
  have hminus : Binary.value (.finite true (tenthQuanta n) h : Single) =
      -(tenthQuanta n / binary32.one : ℚ) := by
    simp [Binary.value, Binary.signed, neg_div]
  have hzero : Binary.value (.finite false 0 hrep : Single) = 0 := by
    simp [Binary.value, Binary.signed]
  rw [hminus, hzero, abs_of_nonpos (by linarith), abs_of_nonpos (by linarith)] at hdistance
  have hquotient : (tenthQuanta n / binary32.one : ℚ) = 0 := by linarith
  have hquanta : (tenthQuanta n : ℚ) = 0 := by
    rwa [div_eq_zero_iff, or_iff_left hone.ne'] at hquotient
  apply tenthQuanta_injective (Nat.zero_le _)
  rw [tenthQuanta_zero]
  exact_mod_cast hquanta

/-! ## From the page to the body -/

namespace Page

def ShownUsage.toJson (u : ShownUsage) : Json :=
  .object [("total", .string u.total), ("used", .string u.used), ("percent", .number u.percent)]

/-- The statistics with the texts of the page for their sizes and numbers. -/
def Shown.toJson (s : Shown) : Json :=
  .object
    [("platform", .string s.platform), ("cpu_percent", .number s.cpuPercent),
      ("memory", s.memory.toJson), ("disk", s.disk.toJson)]

theorem toJson_shown {s : Snapshot} (h : s.Measured) (settings : Settings) :
    (shown (.ofSnapshot s) settings).toJson = (SystemStats.ofSnapshot s).toJson := by
  have hnumber {x : Single} (hx : x ∈ [s.cpuPercent, s.memory.percent, s.disk.percent]) :
      Json.ofSingle x = .number (fixedText 1 x) := by
    obtain ⟨n, hn, hmagnitude⟩ := h.hasMagnitude hx
    exact ofSingle_eq_fixedText hn hmagnitude
  have hcpu := hnumber (x := s.cpuPercent) (by simp)
  have hmemory := hnumber (x := s.memory.percent) (by simp)
  have hdisk := hnumber (x := s.disk.percent) (by simp)
  simp only [Shown.toJson, ShownUsage.toJson, shown, shownUsage, SystemStats.toJson,
    UsageStats.toJson, SystemStats.ofSnapshot, UsageStats.ofUsage, hcpu, hmemory, hdisk]

end Page

/-- What a reader of the page is told of a measured snapshot are the very texts of the body: the
numbers in it are those of the page, character for character, each of digits, a point and one digit.
Only a load of minus zero, which is as near to zero as zero itself, shows a sign, and it does so in
both. -/
theorem Snapshot.body_repeats_page {s : Snapshot} (h : s.Measured) (settings : Settings) :
    ∃ shown : Page.Shown, Page.read? (Page.render (.ofSnapshot s) settings) = some shown ∧
      (SystemStats.ofSnapshot s).toJson = shown.toJson ∧
      HasOnePlace shown.memory.percent ∧ HasOnePlace shown.disk.percent ∧
      if s.cpuPercent.isNegative then shown.cpuPercent = "-0.0"
      else HasOnePlace shown.cpuPercent := by
  obtain ⟨n, hn, hmemory⟩ := h.memory.percent_hasQuanta
  obtain ⟨m, hm, hdisk⟩ := h.disk.percent_hasQuanta
  obtain ⟨k, hk, hcpu⟩ := h.cpu
  refine ⟨_, Page.read?_render s settings, (Page.toJson_shown h settings).symm,
    hasOnePlace_fixedText hn hmemory, hasOnePlace_fixedText hm hdisk, ?_⟩
  change if s.cpuPercent.isNegative then fixedText 1 s.cpuPercent = "-0.0"
    else HasOnePlace (fixedText 1 s.cpuPercent)
  obtain ⟨negative, hrep, heq⟩ := hasMagnitude_of_isNearest hk hcpu
  cases negative with
  | true =>
    have hnegative : s.cpuPercent.isNegative = true := by
      rw [heq]
      rfl
    obtain rfl := eq_zero_of_isNearest hk hcpu hnegative
    rw [hnegative, if_pos rfl, heq, fixedText_tenths hk]
    decide
  | false =>
    have hnegative : s.cpuPercent.isNegative = false := by
      rw [heq]
      rfl
    rw [hnegative, if_neg Bool.false_ne_true]
    exact hasOnePlace_fixedText hk ⟨hrep, heq⟩

/-- Two thirds of the memory are in use, and 60.5 of a hundred blocks that can be reached. -/
theorem Snapshot.body_repeats_page_of_partly_used :
    ∃ (s : Snapshot) (shown : Page.Shown), s.platform = "a</p> & b" ∧ s.Measured ∧
      Page.read? (Page.render (.ofSnapshot s) {}) = some shown ∧
      (SystemStats.ofSnapshot s).toJson = shown.toJson ∧
      shown.memory.percent = "66.7" ∧ shown.disk.percent = "60.5" := by
  have hpercent (part whole : ℕ) (h : part ≤ whole) (hpos : 0 < whole) (hlt : whole < 2 ^ 64) :
      ∃ n : ℕ, n ≤ 1000 ∧ (percentage part whole).IsNearest (n / 10) := by
    obtain ⟨⟨n, hn, _, hnearest⟩, _⟩ := percentage_isPercentage h hpos hlt
    exact ⟨n, hn, hnearest⟩
  let s : Snapshot := ⟨"a</p> & b", percentage 1 3, ⟨3, 2, percentage 2 3⟩,
    ⟨1150 * 4096, 550 * 4096, percentage 550 909⟩⟩
  have hs : s.Measured :=
    ⟨hpercent 1 3 (by norm_num) (by norm_num) (by norm_num), .memory 3 1 (by norm_num) rfl,
      .disk ⟨4096, 1150, 600, 359⟩ ⟨by norm_num, by norm_num⟩ rfl⟩
  obtain ⟨shown, hread, hbody, -⟩ := Snapshot.body_repeats_page hs {}
  have hshown := Page.read?_render s {}
  obtain rfl := Option.some.inj (hread.symm.trans hshown)
  exact ⟨s, _, rfl, hs, hread, hbody, by decide +kernel, by decide +kernel⟩

end HostStatus
