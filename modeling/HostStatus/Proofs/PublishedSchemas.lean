import HostStatus.Proofs.Acceptance
import HostStatus.Proofs.Schema
import Mathlib.Data.Rat.Cast.Order

/-!
# The published schemas and the reader

The published schemas accept the values that the reader accepts, field by field: each field is
required by the schema and has to be there for the reader, with a value of the same type. Only where
there has to be a number the reader asks for more, since one that it cannot evaluate in double
precision is refused. So the two agree on values whose figures are evaluated, and what is published
is valid in any case.
-/

namespace HostStatus

open Json

variable {j : Json} {members : List (String × Json)}

namespace Json

/-! ## Numbers -/

def Exponent.value (e : Exponent) : ℤ :=
  if e.negative then -(Nat.ofDigitChars 10 e.digits 0 : ℤ) else Nat.ofDigitChars 10 e.digits 0

namespace Numeral

/-- The number that is written, exactly. -/
def value (n : Numeral) : ℚ :=
  (if n.negative then -1 else 1) * Nat.ofDigitChars 10 (n.whole ++ n.fraction) 0 *
    10 ^ ((n.exponent.elim 0 Exponent.value : ℤ) - n.fraction.length)

/-- The greatest number of double precision. -/
def greatest : ℕ :=
  (2 ^ 53 - 1) * 2 ^ 971

def InRange (n : Numeral) : Prop :=
  |n.value| ≤ greatest

/-- A numeral that stands for a whole number. -/
theorem inRange_of_value_eq {n : Numeral} {k : ℕ} (hvalue : n.value = k)
    (hk : k ≤ greatest) : n.InRange := by
  rw [InRange, hvalue, Nat.abs_cast]
  exact Nat.cast_le.2 hk

/-- The reader finds a number, since none of its steps in double precision overflows. -/
def Evaluates (n : Numeral) : Prop :=
  (Number.ofNumeral? n).isSome

end Numeral

/-- If the value is a number, it is one that the reader finds. -/
def Evaluates (j : Json) : Prop :=
  ∀ numeral n, j = .number numeral → SpellsNumeral n numeral.toList → n.Evaluates

theorem evaluates_number {numeral : String} {n : Numeral} (hn : SpellsNumeral n numeral.toList)
    (hevaluates : n.Evaluates) : (Json.number numeral).Evaluates := by
  intro numeral' n' heq hn'
  obtain rfl := Json.number.inj heq
  rw [Numeral.Evaluates, ← hn'.numberOf?, hn.numberOf?]
  exact hevaluates

/-- Such are the members of these keys, if there are any. -/
def AtKeys (keys : List String) (P : Json → Prop) (j : Json) : Prop :=
  ∀ members, j = .object members → ∀ member ∈ members, member.1 ∈ keys → P member.2

theorem decodeString_isOk : (∃ s, decodeString j = .ok s) ↔ OpenApi.typeName j = "string" := by
  cases j <;> simp [decodeString, OpenApi.typeName]

theorem decodeSingle_isOk {accepts : Numeral → Prop} (h : j.IsProper accepts)
    (hevaluates : j.Evaluates) :
    (∃ x, decodeSingle j = .ok x) ↔ OpenApi.typeName j = "number" := by
  cases h with
  | number hn =>
    obtain ⟨x, hx⟩ := Option.isSome_iff_exists.1 (hevaluates _ _ rfl hn)
    simp [decodeSingle, hn.numberOf?, hx, OpenApi.typeName]
  | null => simp [decodeSingle, OpenApi.typeName]
  | boolean b => simp [decodeSingle, OpenApi.typeName]
  | string s => simp [decodeSingle, OpenApi.typeName]
  | array hitems => simp [decodeSingle, OpenApi.typeName]
  | object hkeys hmembers => simp [decodeSingle, OpenApi.typeName]

end Json

/-! ## What the reader accepts -/

theorem UsageStats.decode_isOk (hkeys : (members.map Prod.fst).Nodup) :
    (∃ u, rules.decode (.object members) = .ok u) ↔
      (∃ j, ("total", j) ∈ members ∧ ∃ s, decodeString j = .ok s) ∧
        (∃ j, ("used", j) ∈ members ∧ ∃ s, decodeString j = .ok s) ∧
        ∃ j, ("percent", j) ∈ members ∧ ∃ x, decodeSingle j = .ok x := by
  rw [rules_lawful.decode_object_isOk hkeys]
  simp only [rules, List.forall_mem_cons, List.not_mem_nil, false_imp_iff, implies_true, and_true,
    FieldRule.ofOption_key, FieldRule.ofOption_accepts reader.empty]

theorem SystemStats.decode_isOk (hkeys : (members.map Prod.fst).Nodup) :
    (∃ s, rules.decode (.object members) = .ok s) ↔
      (∃ j, ("platform", j) ∈ members ∧ ∃ s, decodeString j = .ok s) ∧
        (∃ j, ("cpu_percent", j) ∈ members ∧ ∃ x, decodeSingle j = .ok x) ∧
        (∃ j, ("memory", j) ∈ members ∧ ∃ u, UsageStats.rules.decode j = .ok u) ∧
        ∃ j, ("disk", j) ∈ members ∧ ∃ u, UsageStats.rules.decode j = .ok u := by
  rw [rules_lawful.decode_object_isOk hkeys]
  simp only [rules, List.forall_mem_cons, List.not_mem_nil, false_imp_iff, implies_true, and_true,
    FieldRule.ofOption_key, FieldRule.ofOption_accepts reader.empty]

namespace OpenApi

/-! ## What the schemas accept -/

theorem valid_string {document : Json} : Valid document stringSchema j ↔ typeName j = "string" :=
  valid_type (by simp [assertions, annotations]) rfl rfl rfl rfl

theorem valid_describedString {document : Json} (description : String) :
    Valid document (describedString description) j ↔ typeName j = "string" :=
  valid_type (by simp [assertions, annotations]) rfl rfl rfl rfl

theorem valid_number {document : Json} : Valid document numberSchema j ↔ typeName j = "number" :=
  valid_type (by simp [assertions, annotations]) rfl rfl rfl rfl

theorem valid_usageStats (hkeys : (members.map Prod.fst).Nodup) :
    Valid document (schemaReference "UsageStats") (.object members) ↔
      (∃ j, ("total", j) ∈ members ∧ typeName j = "string") ∧
        (∃ j, ("used", j) ∈ members ∧ typeName j = "string") ∧
        ∃ j, ("percent", j) ∈ members ∧ typeName j = "number" := by
  have hresolve : resolve document (.string ("#/components/schemas/" ++ "UsageStats")) =
      usageStatsSchema := rfl
  rw [schemaReference, valid_reference, hresolve, usageStatsSchema,
    valid_record (by simp [assertions, annotations]) rfl rfl rfl rfl (by decide) hkeys]
  simp only [List.forall_mem_cons, List.not_mem_nil, false_imp_iff, implies_true, and_true,
    valid_describedString, valid_number]

theorem valid_systemStats (hkeys : (members.map Prod.fst).Nodup) :
    Valid document (schemaReference "SystemStats") (.object members) ↔
      (∃ j, ("platform", j) ∈ members ∧ typeName j = "string") ∧
        (∃ j, ("cpu_percent", j) ∈ members ∧ typeName j = "number") ∧
        (∃ j, ("memory", j) ∈ members ∧ Valid document (schemaReference "UsageStats") j) ∧
        ∃ j, ("disk", j) ∈ members ∧ Valid document (schemaReference "UsageStats") j := by
  have hresolve : resolve document (.string ("#/components/schemas/" ++ "SystemStats")) =
      systemStatsSchema := rfl
  rw [schemaReference, valid_reference, hresolve, systemStatsSchema,
    valid_record (by simp [assertions]) rfl rfl rfl rfl (by decide) hkeys]
  simp only [List.forall_mem_cons, List.not_mem_nil, false_imp_iff, implies_true, and_true,
    valid_string, valid_number]

theorem typeName_of_valid {name : String} (hname : name = "UsageStats" ∨ name = "SystemStats")
    (h : Valid document (schemaReference name) j) : typeName j = "object" := by
  have hvalid := valid_reference.1 h
  rcases hname with rfl | rfl
  · have husage : Valid document usageStatsSchema j := hvalid
    exact husage.typeName_eq rfl
  · have hsystem : Valid document systemStatsSchema j := hvalid
    exact hsystem.typeName_eq rfl

/-! ## Schemas and reader -/

theorem not_decode_isOk {δ α : Type} {r : RecordReader δ α} (R : RecordRules r)
    (harray : typeName j ≠ "array") (hobject : typeName j ≠ "object") :
    ¬∃ x, R.decode j = .ok x := by
  rintro ⟨x, hx⟩
  cases j with
  | array items => exact harray rfl
  | object members => exact hobject rfl
  | null => cases hx
  | boolean b => cases hx
  | number numeral => cases hx
  | string s => cases hx

theorem eq_object_of_typeName (h : typeName j = "object") : ∃ members, j = .object members := by
  cases j with
  | object members => exact ⟨members, rfl⟩
  | null => simp [typeName] at h
  | boolean b => simp [typeName] at h
  | number numeral => simp [typeName] at h
  | string s => simp [typeName] at h
  | array items => simp [typeName] at h

theorem decode_usageStats_isOk {accepts : Numeral → Prop} (h : j.IsProper accepts)
    (hpercent : j.AtKeys ["percent"] Json.Evaluates) (harray : typeName j ≠ "array") :
    (∃ u, UsageStats.rules.decode j = .ok u) ↔ Valid document (schemaReference "UsageStats") j := by
  by_cases hobject : typeName j = "object"
  · obtain ⟨members, rfl⟩ := eq_object_of_typeName hobject
    cases h with
    | object hkeys hmembers =>
      rw [UsageStats.decode_isOk hkeys, valid_usageStats hkeys]
      simp only [decodeString_isOk]
      refine and_congr_right fun _ => and_congr_right fun _ => ?_
      exact exists_congr fun j => and_congr_right fun hj =>
        decodeSingle_isOk (hmembers _ hj) (hpercent members rfl _ hj List.mem_cons_self)
  · exact iff_of_false (not_decode_isOk _ harray hobject) fun hvalid =>
      hobject (typeName_of_valid (.inl rfl) hvalid)

/-- No array stands for statistics as a whole or for those of one resource. -/
def RecordsAreObjects (j : Json) : Prop :=
  typeName j ≠ "array" ∧ ∀ members, j = .object members → ∀ member ∈ members,
    member.1 ∈ ["memory", "disk"] → typeName member.2 ≠ "array"

/-- The numbers that statistics are read from, the load and the percentages, are found. -/
structure FiguresEvaluate (j : Json) : Prop where
  load : j.AtKeys ["cpu_percent"] Json.Evaluates
  percentages : j.AtKeys ["memory", "disk"] (AtKeys ["percent"] Json.Evaluates)

theorem decode_systemStats_isOk {accepts : Numeral → Prop} (h : j.IsProper accepts)
    (hfigures : FiguresEvaluate j) (hrecords : RecordsAreObjects j) :
    (∃ s, SystemStats.rules.decode j = .ok s) ↔
      Valid document (schemaReference "SystemStats") j := by
  by_cases hobject : typeName j = "object"
  · obtain ⟨members, rfl⟩ := eq_object_of_typeName hobject
    cases h with
    | object hkeys hmembers =>
      have hload := hfigures.load members rfl
      have hpercent := hfigures.percentages members rfl
      have hinner := hrecords.2 members rfl
      rw [SystemStats.decode_isOk hkeys, valid_systemStats hkeys]
      simp only [decodeString_isOk]
      refine and_congr_right fun _ => and_congr ?_ (and_congr ?_ ?_)
      · exact exists_congr fun j => and_congr_right fun hj =>
          decodeSingle_isOk (hmembers _ hj) (hload _ hj (by simp))
      · exact exists_congr fun j => and_congr_right fun hj =>
          decode_usageStats_isOk (hmembers _ hj) (hpercent _ hj (by simp)) (hinner _ hj (by simp))
      · exact exists_congr fun j => and_congr_right fun hj =>
          decode_usageStats_isOk (hmembers _ hj) (hpercent _ hj (by simp)) (hinner _ hj (by simp))
  · exact iff_of_false (not_decode_isOk _ hrecords.1 hobject) fun hvalid =>
      hobject (typeName_of_valid (.inr rfl) hvalid)

/-! ## Published statistics -/

theorem typeName_ofSingle {x : Single} (h : x.isFinite = true) :
    typeName (.ofSingle x) = "number" := by
  rw [Json.ofSingle, if_pos h]
  rfl

theorem valid_toJson_usageStats {u : UsageStats} (h : u.percent.isFinite = true) :
    Valid document (schemaReference "UsageStats") u.toJson ∧
      Documented document (schemaReference "UsageStats") u.toJson := by
  have hpercent := typeName_ofSingle h
  constructor
  · rw [UsageStats.toJson, valid_usageStats (by simp)]
    exact ⟨⟨.string u.total, by simp, rfl⟩, ⟨.string u.used, by simp, rfl⟩,
      ⟨_, by simp, hpercent⟩⟩
  · refine .reference rfl (show Documented document usageStatsSchema u.toJson from
      .object rfl (by simp) ?_)
    simp only [List.forall_mem_cons, List.not_mem_nil, false_imp_iff, implies_true, and_true]
    refine ⟨fun schema hschema => ?_, fun schema hschema => ?_, fun schema hschema => ?_⟩
    · cases hschema
      exact .single (by simp [typeName])
    · cases hschema
      exact .single (by simp [typeName])
    · cases hschema
      exact .single (by simp [hpercent])

theorem valid_toJson_systemStats {s : SystemStats} (hcpu : s.cpuPercent.isFinite = true)
    (hmemory : s.memory.percent.isFinite = true) (hdisk : s.disk.percent.isFinite = true) :
    Valid document (schemaReference "SystemStats") s.toJson ∧
      Documented document (schemaReference "SystemStats") s.toJson := by
  have hnumber := typeName_ofSingle hcpu
  obtain ⟨hvalidMemory, hknownMemory⟩ := valid_toJson_usageStats hmemory
  obtain ⟨hvalidDisk, hknownDisk⟩ := valid_toJson_usageStats hdisk
  constructor
  · rw [SystemStats.toJson, valid_systemStats (by simp)]
    exact ⟨⟨.string s.platform, by simp, rfl⟩, ⟨_, by simp, hnumber⟩, ⟨_, by simp, hvalidMemory⟩,
      ⟨_, by simp, hvalidDisk⟩⟩
  · refine .reference rfl (show Documented document systemStatsSchema s.toJson from
      .object rfl (by simp) ?_)
    simp only [List.forall_mem_cons, List.not_mem_nil, false_imp_iff, implies_true, and_true]
    refine ⟨fun schema hschema => ?_, fun schema hschema => ?_, fun schema hschema => ?_,
      fun schema hschema => ?_⟩
    · cases hschema
      exact .single (by simp [typeName])
    · cases hschema
      exact .single (by simp [hnumber])
    · cases hschema
      exact hknownMemory
    · cases hschema
      exact hknownDisk

end OpenApi

end HostStatus
