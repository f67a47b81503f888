import HostStatus.Proofs.FirstOffence

/-!
# Kinds of fields

A kind says which values a field takes, what they stand for, and with which error each other value
is refused. `Kind.Decodes` joins a kind to the decoding of a value. The fields of an object that is
taken hold what their only members stand for, since each is filled by the one member that names it
and by no other.

What a member does to the draft is all that matters of it, so members that do nothing may be left
out, and others may be put in the place of those that do the same.
-/

namespace HostStatus.Json

variable {α β δ : Type} {j : Json} {e : ReadError} {x x' : β} {key : String}
  {members : List (String × Json)}

structure Kind (β : Type) where
  StandsFor : Json → β → Prop
  Refuses : Json → ReadError → Prop

namespace Kind

variable {kind : Kind β} {decode : Json → Except ReadError β}

structure Decodes (kind : Kind β) (decode : Json → Except ReadError β) : Prop where
  ok : ∀ {j x}, decode j = .ok x ↔ kind.StandsFor j x
  error : ∀ {j e}, decode j = .error e ↔ kind.Refuses j e

def demand (kind : Kind β) (key : String) : Demand where
  key := key
  Refuses := kind.Refuses

/-- What is given for a field: the value of the only member that names it stands for that. -/
def Gives (kind : Kind β) (key : String) (members : List (String × Json)) (x : β) : Prop :=
  ∃ j, Once key j members ∧ kind.StandsFor j x

/-- A kind of values that have no parts. What else stands in their place is named, and a number is
named only if there is one for its numeral. -/
def plain (expected : Expected) (StandsFor : Json → β → Prop) : Kind β where
  StandsFor := StandsFor
  Refuses j e := (∀ x, ¬StandsFor j x) ∧ e = j.misfit expected

def string : Kind String :=
  plain .string fun j s => j = .string s

def single : Kind Single :=
  plain .single fun j x => ∃ numeral n, j = .number numeral ∧ numberOf? numeral = some n ∧
    x = n.toSingle

theorem plain_decodes {expected : Expected} {StandsFor : Json → β → Prop}
    (hok : ∀ j x, decode j = .ok x ↔ StandsFor j x)
    (herror : ∀ j e, decode j = .error e → e = j.misfit expected) :
    (plain expected StandsFor).Decodes decode where
  ok := hok _ _
  error := by
    intro j e
    constructor
    · intro h
      refine ⟨fun x hx => ?_, herror j e h⟩
      rw [(hok j x).2 hx] at h
      cases h
    · rintro ⟨hnone, rfl⟩
      cases h : decode j with
      | ok x => exact absurd ((hok j x).1 h) (hnone x)
      | error e => rw [herror j e h]

theorem string_decodes : string.Decodes decodeString := by
  refine plain_decodes (fun j s => ?_) fun j e h => ?_
  · cases j with
    | string s' => rw [decodeString, Except.ok.injEq, Json.string.injEq]
    | _ => exact iff_of_false (by rintro ⟨⟩) (by rintro ⟨⟩)
  · cases j with
    | string => cases h
    | _ =>
      cases h
      rfl

theorem single_decodes : single.Decodes decodeSingle := by
  refine plain_decodes (fun j x => ?_) fun j e h => ?_
  · cases j with
    | number numeral =>
      rw [decodeSingle]
      cases hnumber : numberOf? numeral with
      | none =>
        refine iff_of_false (by rintro ⟨⟩) ?_
        rintro ⟨_, n, ⟨⟩, hn, -⟩
        rw [hnumber] at hn
        cases hn
      | some n =>
        rw [Option.elim_some, Except.ok.injEq]
        constructor
        · rintro rfl
          exact ⟨numeral, n, rfl, hnumber, rfl⟩
        · rintro ⟨_, n', ⟨⟩, hn', rfl⟩
          rw [Option.some.inj (hnumber.symm.trans hn')]
    | _ =>
      refine iff_of_false (by rintro ⟨⟩) ?_
      rintro ⟨_, _, ⟨⟩, -⟩
  · cases j with
    | number numeral =>
      rw [decodeSingle] at h
      rw [misfit, found?]
      cases hnumber : numberOf? numeral with
      | none =>
        rw [hnumber] at h
        cases h
        rfl
      | some n =>
        rw [hnumber] at h
        cases h
    | _ =>
      cases h
      rfl

theorem Decodes.unique (h : kind.Decodes decode) (hx : kind.StandsFor j x)
    (hx' : kind.StandsFor j x') : x = x' :=
  Except.ok.inj ((h.ok.2 hx).symm.trans (h.ok.2 hx'))

theorem Decodes.not_refuses (h : kind.Decodes decode) (hx : kind.StandsFor j x) :
    ¬kind.Refuses j e := fun hrefuses => by
  have hok := h.ok.2 hx
  rw [h.error.2 hrefuses] at hok
  cases hok

theorem Gives.unique (hkind : kind.Decodes decode) (h : kind.Gives key members x)
    (h' : kind.Gives key members x') : x = x' := by
  obtain ⟨j, honce, hx⟩ := h
  obtain ⟨j', honce', hx'⟩ := h'
  obtain rfl := honce.unique honce'
  exact hkind.unique hx hx'

theorem Gives.meets_demand (hkind : kind.Decodes decode) (h : kind.Gives key members x) :
    ∃ j, Once (kind.demand key).key j members ∧ ∀ e, ¬(kind.demand key).Refuses j e := by
  obtain ⟨j, honce, hx⟩ := h
  exact ⟨j, honce, fun e => hkind.not_refuses hx⟩

end Kind

/-! ## Fields of a draft -/

section

variable {kind : Kind β} {read : List Char → Except ReadError (Scanned β)}
  {decode : Json → Except ReadError β} {get : δ → Option β} {fill : δ → β → δ}
  {hreads : Reads read decode} {draft next : δ}

theorem FieldRule.ofOption_meets (hkind : kind.Decodes decode) :
    (ofOption key get fill hreads).Meets (kind.demand key) where
  key := rfl
  refuses := by
    intro draft j e
    change (decode j).map (fill draft) = .error e ↔ kind.Refuses j e
    rw [← hkind.error]
    cases decode j with
    | error e' => rw [Except.map, Except.error.injEq, Except.error.injEq]
    | ok x => exact iff_of_false nofun nofun

theorem FieldRule.get_of_ofOption_eq_ok (hkind : kind.Decodes decode)
    (hget : ∀ draft x, get (fill draft x) = some x)
    (h : (ofOption key get fill hreads).decode draft j = .ok next) :
    get next = some x ↔ kind.StandsFor j x := by
  obtain ⟨x', hx', rfl⟩ := ofOption_eq_ok.1 h
  rw [hget, ← hkind.ok, hx', Option.some.injEq, Except.ok.injEq]

end

namespace RecordRules

variable {r : RecordReader δ α} {R : RecordRules r} {demands : List Demand} {rule : FieldRule δ}
  {get : δ → Option β} {kind : Kind β} {draft final : δ}

/-- The draft holds the value of one field, and no other field touches it. -/
structure Holds (R : RecordRules r) (key : String) (get : δ → Option β) (kind : Kind β) :
    Prop where
  own : ∃ rule ∈ R.rules, rule.field.key = key ∧
    (∀ draft, rule.field.isFilled draft = (get draft).isSome) ∧
    ∀ draft j next, rule.decode draft j = .ok next → ∀ x, get next = some x ↔ kind.StandsFor j x
  others : ∀ other ∈ R.rules, ∀ draft j next, other.decode draft j = .ok next →
    other.field.key ≠ key → get next = get draft

theorem holds_ofOption {read : List Char → Except ReadError (Scanned β)}
    {decode : Json → Except ReadError β} {fill : δ → β → δ} {hreads : Reads read decode}
    (hkind : kind.Decodes decode) (hmem : .ofOption key get fill hreads ∈ R.rules)
    (hget : ∀ draft x, get (fill draft x) = some x)
    (hothers : ∀ other ∈ R.rules, ∀ draft j next, other.decode draft j = .ok next →
      other.field.key ≠ key → get next = get draft) :
    R.Holds key get kind where
  own := ⟨_, hmem, rfl, fun _ => rfl, fun _ _ _ hok _ =>
    FieldRule.get_of_ofOption_eq_ok hkind hget hok⟩
  others := hothers

theorem Lawful.get_eq_some_iff (h : R.Lawful) (hholds : R.Holds key get kind)
    (hok : decodeMembers R.rules r.empty members = .ok final) :
    get final = some x ↔ ∃ j, (key, j) ∈ members ∧ kind.StandsFor j x := by
  obtain ⟨rule, hrule, rfl, hfilled, hown⟩ := hholds.own
  induction members using List.reverseRecOn generalizing final with
  | nil =>
    obtain rfl := Except.ok.inj hok
    have hempty := h.empty rule hrule
    rw [hfilled, Option.isSome_eq_false_iff, Option.isNone_iff_eq_none] at hempty
    rw [hempty]
    exact iff_of_false nofun fun ⟨_, hmem, _⟩ => List.not_mem_nil hmem
  | append_singleton members member ih =>
    rw [decodeMembers_concat] at hok
    cases hmembers : decodeMembers R.rules r.empty members with
    | error e =>
      rw [hmembers] at hok
      cases hok
    | ok draft =>
      rw [hmembers] at hok
      have hmember : decodeMember R.rules draft member = .ok final := hok
      have hskip (hne : rule.field.key ≠ member.1) :
          (∃ j, (rule.field.key, j) ∈ members ++ [member] ∧ kind.StandsFor j x) ↔
            ∃ j, (rule.field.key, j) ∈ members ∧ kind.StandsFor j x := by
        refine exists_congr fun j => and_congr_left' ?_
        rw [List.mem_append, List.mem_singleton]
        exact or_iff_left fun heq => hne (congrArg Prod.fst heq)
      rcases R.decodeMember_cases draft member with
        ⟨hnone, hcase⟩ | ⟨other, hother, hkey, hcase⟩
      · obtain rfl : draft = final := Except.ok.inj (hcase.symm.trans hmember)
        rw [hskip (hnone rule hrule), ih hmembers]
      · rw [hcase] at hmember
        split at hmember
        · cases hmember
        · next hfresh =>
          -- the field was not filled before, so no earlier member has its key
          by_cases hsame : other.field.key = rule.field.key
          · obtain rfl := h.eq_of_key hother hrule hsame
            have habsent := mt (h.isFilled_iff hmembers hother).2 hfresh
            rw [hown _ _ _ hmember]
            constructor
            · intro hx
              refine ⟨member.2, List.mem_append_right _ ?_, hx⟩
              rw [hkey]
              exact List.mem_singleton_self _
            · rintro ⟨j, hmem, hx⟩
              rcases List.mem_append.1 hmem with hmem | hmem
              · exact absurd (List.mem_map_of_mem hmem) habsent
              · rw [← List.mem_singleton.1 hmem]
                exact hx
          · have hne : rule.field.key ≠ member.1 := fun heq => hsame (hkey.trans heq.symm)
            rw [hholds.others other hother _ _ _ hmember hsame, hskip hne, ih hmembers]

/-- What the draft holds in the end was given by the only member of that key. -/
theorem Lawful.gives (h : R.Lawful) (hmeets : List.Forall₂ FieldRule.Meets R.rules demands)
    (hholds : R.Holds key get kind) (hok : decodeMembers R.rules r.empty members = .ok final)
    (hx : get final = some x) : kind.Gives key members x := by
  obtain ⟨j, hmem, hj⟩ := (h.get_eq_some_iff hholds hok).1 hx
  obtain ⟨rule, hrule, rfl, -⟩ := hholds.own
  obtain ⟨demand, hdemand, hrulemeets⟩ := exists_meets_of_mem_rules hmeets hrule
  rw [hrulemeets.key] at hmem ⊢
  exact ⟨j, (h.inoffensive_of_eq_ok hmeets hok).once hdemand hmem, hj⟩

theorem exists_of_decode_object_eq_ok {value : α} (hok : R.decode (.object members) = .ok value) :
    ∃ final, decodeMembers R.rules r.empty members = .ok final ∧
      r.complete? final = some value := by
  change (decodeMembers R.rules r.empty members >>= r.finish) = .ok value at hok
  cases hmembers : decodeMembers R.rules r.empty members with
  | error e =>
    rw [hmembers] at hok
    cases hok
  | ok final =>
    rw [hmembers] at hok
    have hfinish : r.finish final = .ok value := hok
    refine ⟨final, rfl, ?_⟩
    rw [RecordReader.finish] at hfinish
    split at hfinish
    · next hcomplete =>
      rw [hcomplete, Except.ok.inj hfinish]
    · cases hfinish
    · cases hfinish

/-- An object is taken exactly if each field is there once with a value that is taken. -/
theorem Lawful.exists_decode_object_eq_ok (h : R.Lawful)
    (hmeets : List.Forall₂ FieldRule.Meets R.rules demands) :
    (∃ value, R.decode (.object members) = .ok value) ↔
      ∀ demand ∈ demands, ∃ j, Once demand.key j members ∧ ∀ e, ¬demand.Refuses j e := by
  rw [← not_refusesObject_iff]
  simp only [← h.decode_object_eq_error hmeets]
  cases R.decode (.object members) with
  | error e => exact iff_of_false nofun fun hnone => hnone e rfl
  | ok value => exact iff_of_true ⟨value, rfl⟩ (by rintro e ⟨⟩)

/-! ## Items -/

theorem decodeItems_eq_ok {tooFew : ℕ → Mismatch} {rules : List (FieldRule δ)} {count : ℕ}
    {items : List Json} :
    decodeItems tooFew count (rule :: rules) draft items = .ok final ↔
      ∃ item rest next, items = item :: rest ∧ rule.decode draft item = .ok next ∧
        decodeItems tooFew (count + 1) rules next rest = .ok final := by
  cases items with
  | nil =>
    refine iff_of_false nofun ?_
    rintro ⟨_, _, _, ⟨⟩, -⟩
  | cons item rest =>
    rw [decodeItems]
    constructor
    · intro hok
      cases hitem : rule.decode draft item with
      | error e =>
        rw [hitem] at hok
        cases hok
      | ok next =>
        rw [hitem] at hok
        exact ⟨item, rest, next, rfl, hitem, hok⟩
    · rintro ⟨_, _, next, ⟨⟩, hitem, hrest⟩
      rw [hitem]
      exact hrest

theorem decodeItems_nil_eq_ok {tooFew : ℕ → Mismatch} {count : ℕ} {items : List Json} :
    decodeItems tooFew count [] draft items = .ok final ↔ items = [] ∧ draft = final := by
  cases items with
  | nil => simp [decodeItems]
  | cons item items => exact iff_of_false (by rintro ⟨⟩) (by rintro ⟨⟨⟩, -⟩)

/-! ## Members that do not matter -/

theorem decodeMember_of_unknown {member : String × Json}
    (hkey : member.1 ∉ R.rules.map (·.field.key)) (draft : δ) :
    decodeMember R.rules draft member = .ok draft := by
  rcases R.decodeMember_cases draft member with ⟨-, hcase⟩ | ⟨rule, hrule, hrulekey, -⟩
  · exact hcase
  · rw [← hrulekey] at hkey
    exact absurd (List.mem_map_of_mem hrule) hkey

/-- Members may be left out if they do nothing, and replaced by what does the same. -/
theorem decodeMembers_filterMap {rules : List (FieldRule δ)}
    {revise : String × Json → Option (String × Json)}
    (h : ∀ draft member, (revise member).elim (.ok draft) (decodeMember rules draft) =
      decodeMember rules draft member) (draft : δ) :
    decodeMembers rules draft (members.filterMap revise) = decodeMembers rules draft members := by
  induction members generalizing draft with
  | nil => rfl
  | cons member members ih =>
    have hmember := h draft member
    have hcons (first : String × Json) (rest : List (String × Json)) :
        decodeMembers rules draft (first :: rest) =
          decodeMember rules draft first >>= fun next => decodeMembers rules next rest :=
      List.foldlM_cons
    rw [hcons, ← hmember, List.filterMap_cons]
    cases revise member with
    | none => exact ih draft
    | some other =>
      dsimp only
      rw [hcons, Option.elim_some]
      congr 1
      funext next
      exact ih next

theorem decode_filterMap {revise : String × Json → Option (String × Json)}
    (h : ∀ draft member, (revise member).elim (.ok draft) (decodeMember R.rules draft) =
      decodeMember R.rules draft member) (members : List (String × Json)) :
    R.decode (.object (members.filterMap revise)) = R.decode (.object members) := by
  change (decodeMembers R.rules r.empty (members.filterMap revise) >>= r.finish) =
    (decodeMembers R.rules r.empty members >>= r.finish)
  rw [decodeMembers_filterMap h]

end RecordRules

end HostStatus.Json
