import HostStatus.Json.Pointer
import HostStatus.OpenApi.Document
import Mathlib.Data.List.Nodup

/-!
# Values that a schema describes

`Valid document schema value` is what it means for a value to be as a schema says, with references
followed in the document. A schema is understood only if all of its keywords are: four of them say
something about values, and the others are for readers. `Documented` says more: that the schema
knows every member of the value, at any depth.

A schema of a record lists its fields and requires them all. A value is valid just if it is an
object that has each of these fields with a valid value, which is `valid_record`.
-/

namespace HostStatus.OpenApi

open Json

variable {document schema value : Json} {keywords fields members : List (String × Json)}

def typeName : Json → String
  | .null => "null"
  | .boolean _ => "boolean"
  | .number _ => "number"
  | .string _ => "string"
  | .array _ => "array"
  | .object _ => "object"

/-- What a reference leads to. One that leads nowhere is to the schema that no value satisfies. -/
def resolve (document reference : Json) : Json :=
  match reference with
  | .string s =>
    match s.toList with
    | '#' :: pointer => (document.at? (String.ofList pointer)).getD (.boolean false)
    | _ => .boolean false
  | _ => .boolean false

def assertions : List String :=
  ["type", "required", "properties", "$ref"]

def annotations : List String :=
  ["description", "format"]

inductive Valid (document : Json) : (schema value : Json) → Prop where
  | anything (value : Json) : Valid document (.boolean true) value
  | keywords {keywords : List (String × Json)} {value : Json}
      (hknown : ∀ keyword ∈ keywords, keyword.1 ∈ assertions ++ annotations)
      (htype : ∀ type, keywords.lookup "type" = some type → type = .string (typeName value))
      (hrequired : ∀ names members, keywords.lookup "required" = some (.array names) →
        value = .object members → ∀ name, .string name ∈ names → name ∈ members.map Prod.fst)
      (hproperties : ∀ properties members,
        keywords.lookup "properties" = some (.object properties) →
        value = .object members → ∀ member ∈ members, ∀ schema,
        properties.lookup member.1 = some schema → Valid document schema member.2)
      (hreference : ∀ reference, keywords.lookup "$ref" = some reference →
        Valid document (resolve document reference) value) :
      Valid document (.object keywords) value

/-- A value without members is documented in itself. -/
inductive Documented (document : Json) : (schema value : Json) → Prop where
  | single {keywords : List (String × Json)} {value : Json}
      (hvalue : typeName value ∉ ["array", "object"]) :
      Documented document (.object keywords) value
  | reference {keywords : List (String × Json)} {value reference : Json}
      (hreference : keywords.lookup "$ref" = some reference)
      (hvalue : Documented document (resolve document reference) value) :
      Documented document (.object keywords) value
  | object {keywords properties members : List (String × Json)}
      (hproperties : keywords.lookup "properties" = some (.object properties))
      (hkeys : ∀ member ∈ members, member.1 ∈ properties.map Prod.fst)
      (hmembers : ∀ member ∈ members, ∀ schema, properties.lookup member.1 = some schema →
        Documented document schema member.2) :
      Documented document (.object keywords) (.object members)

/-- A schema that says no more than the type. -/
theorem valid_type {name : String}
    (hknown : ∀ keyword ∈ keywords, keyword.1 ∈ assertions ++ annotations)
    (htype : keywords.lookup "type" = some (.string name))
    (hrequired : keywords.lookup "required" = none)
    (hproperties : keywords.lookup "properties" = none)
    (hreference : keywords.lookup "$ref" = none) :
    Valid document (.object keywords) value ↔ typeName value = name := by
  refine ⟨fun h => ?_, fun h => ?_⟩
  · cases h with
    | keywords _ htype' => exact (Json.string.inj (htype' _ htype)).symm
  · refine .keywords hknown (fun type htype' => ?_) (fun names members hnames => ?_)
      (fun properties members hmembers => ?_) fun reference hreference' => ?_
    · rw [htype] at htype'
      rw [← Option.some.inj htype', h]
    · rw [hrequired] at hnames
      cases hnames
    · rw [hproperties] at hmembers
      cases hmembers
    · rw [hreference] at hreference'
      cases hreference'

/-- A schema that only refers to another. -/
theorem valid_reference {reference : Json} :
    Valid document (.object [("$ref", reference)]) value ↔
      Valid document (resolve document reference) value := by
  refine ⟨fun h => ?_, fun h => ?_⟩
  · cases h with
    | keywords _ _ _ _ hreference => exact hreference reference rfl
  · refine .keywords (by simp [assertions]) (fun type htype => ?_) (fun names members hnames => ?_)
      (fun properties members hmembers => ?_) fun reference' hreference => ?_
    · cases htype
    · cases hnames
    · cases hmembers
    · cases hreference
      exact h

theorem lookup_of_mem (hfields : (fields.map Prod.fst).Nodup) {field : String × Json}
    (hfield : field ∈ fields) : fields.lookup field.1 = some field.2 := by
  induction fields with
  | nil => cases hfield
  | cons first fields ih =>
    rw [List.map_cons, List.nodup_cons] at hfields
    obtain ⟨key, sub⟩ := first
    rcases List.mem_cons.1 hfield with rfl | hrest
    · exact List.lookup_cons_self
    · have hne : field.1 ≠ key := by
        rintro rfl
        exact hfields.1 (List.mem_map.2 ⟨field, hrest, rfl⟩)
      rw [List.lookup_cons, beq_eq_false_iff_ne.2 hne]
      exact ih hfields.2 hrest

theorem mem_of_lookup {key : String} (h : fields.lookup key = some schema) :
    (key, schema) ∈ fields := by
  induction fields with
  | nil => cases h
  | cons first fields ih =>
    obtain ⟨name, sub⟩ := first
    rw [List.lookup_cons] at h
    split at h
    · next heq =>
      rw [beq_iff_eq.1 heq, ← Option.some.inj h]
      exact List.mem_cons_self
    · exact List.mem_cons_of_mem _ (ih h)

/-- The schema of a record. -/
theorem valid_record (hknown : ∀ keyword ∈ keywords, keyword.1 ∈ assertions ++ annotations)
    (htype : keywords.lookup "type" = some (.string "object"))
    (hrequired : keywords.lookup "required" =
      some (.array (fields.map fun field => .string field.1)))
    (hproperties : keywords.lookup "properties" = some (.object fields))
    (hreference : keywords.lookup "$ref" = none) (hfields : (fields.map Prod.fst).Nodup)
    (hkeys : (members.map Prod.fst).Nodup) :
    Valid document (.object keywords) (.object members) ↔
      ∀ field ∈ fields, ∃ j, (field.1, j) ∈ members ∧ Valid document field.2 j := by
  refine ⟨fun h field hfield => ?_, fun h => ?_⟩
  · cases h with
    | keywords _ _ hrequired' hproperties' =>
      have hmem := hrequired' _ members hrequired rfl field.1
        (List.mem_map.2 ⟨field, hfield, rfl⟩)
      obtain ⟨⟨key, j⟩, hj, rfl⟩ := List.mem_map.1 hmem
      exact ⟨j, hj, hproperties' fields members hproperties rfl _ hj _
        (lookup_of_mem hfields hfield)⟩
  · refine .keywords hknown (fun type htype' => ?_)
      (fun names members' hnames hmembers name hname => ?_)
      (fun properties members' hproperties' hmembers member hmember schema hschema => ?_)
      fun reference hreference' => ?_
    · rw [htype] at htype'
      exact (Option.some.inj htype').symm
    · rw [hrequired] at hnames
      cases hnames
      cases hmembers
      obtain ⟨field, hfield, heq⟩ := List.mem_map.1 hname
      obtain ⟨j, hj, -⟩ := h field hfield
      rw [← Json.string.inj heq]
      exact List.mem_map.2 ⟨_, hj, rfl⟩
    · rw [hproperties] at hproperties'
      cases hproperties'
      cases hmembers
      obtain ⟨j, hj, hvalid⟩ := h _ (mem_of_lookup hschema)
      have heq := List.inj_on_of_nodup_map hkeys hj hmember rfl
      rw [← heq]
      exact hvalid
    · rw [hreference] at hreference'
      cases hreference'

/-- Only an object is valid for the schema of a record. -/
theorem Valid.typeName_eq {name : String} (h : Valid document (.object keywords) value)
    (htype : keywords.lookup "type" = some (.string name)) : typeName value = name := by
  cases h with
  | keywords _ htype' => exact (Json.string.inj (htype' _ htype)).symm

end HostStatus.OpenApi
