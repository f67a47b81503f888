import HostStatus.Proofs.TreeReading

/-!
# What readers make of a value

`Reads read decode` says that a reader depends on the value alone: however it is written, it is read
as `decode` says, or refused with that error. Here `decode` is given for strings and for numbers.
Anything else in their place is named in the error, so a numeral there must be one that stands for a
number.
-/

namespace HostStatus.Json

variable {α : Type} {tree : Tree} {j : Json}

/-- The number that a numeral stands for, unless it is beyond all numbers. -/
def numberOf? (numeral : String) : Option Number :=
  match scanNumeral numeral.toList with
  | .ok (n, _) => Number.ofNumeral? n
  | .error _ => none

theorem SpellsNumeral.numberOf? {n : Numeral} {numeral : String}
    (h : SpellsNumeral n numeral.toList) : numberOf? numeral = Number.ofNumeral? n := by
  have hscan := h.scan delimits_nil
  rw [List.append_nil] at hscan
  rw [Json.numberOf?, hscan]

def found? : Json → Option Found
  | .null => some .null
  | .boolean value => some (.boolean value)
  | .number numeral => (numberOf? numeral).map Number.found
  | .string value => some (.string value)
  | .array _ => some .array
  | .object _ => some .object

/-- The error where something else was asked for. -/
def misfit (expected : Expected) (j : Json) : ReadError :=
  j.found?.elim .malformed fun found => .unfit (.wrongKind found expected)

theorem SpellsNumeral.scanNumber_toList {n : Numeral} {numeral : String}
    (h : SpellsNumeral n numeral.toList) :
    Json.scanNumber numeral.toList =
      (Json.numberOf? numeral).elim (.error .malformed) fun x => .ok (x, []) := by
  have hscan := h.scanNumber delimits_nil
  rwa [List.append_nil, ← h.numberOf?] at hscan

theorem Conveys.scanFound (h : Conveys (.value tree) (.value j)) :
    scanFound tree.compact = j.found?.elim (.error .malformed) .ok := by
  cases h with
  | null => rfl
  | boolean b => cases b <;> rfl
  | number hn =>
    have hscan := hn.scanNumber_toList
    obtain ⟨c, cs, htext, hc⟩ := hn.head
    rw [Tree.compact]
    rw [htext] at hscan ⊢
    rw [scanFound_numeral hc, hscan, found?]
    cases numberOf? _ <;> rfl
  | string hs =>
    simp only [Tree.compact, Json.scanFound, hs.scanString, found?]
    simp [Except.map]
  | array => rfl
  | object => rfl

theorem Conveys.refuse (h : Conveys (.value tree) (.value j)) (expected : Expected) :
    (refuse expected tree.compact : Except ReadError α) = .error (j.misfit expected) := by
  rw [Json.refuse, h.scanFound, misfit]
  cases j.found? <;> rfl

theorem Conveys.evaluate_refuse (h : Conveys (.value tree) (.value j)) (expected : Expected) :
    evaluate (Json.refuse expected) tree = (.error (j.misfit expected) : Except ReadError α) := by
  rw [evaluate, map_refuse, h.refuse]

/-- The reader makes of each value what `decode` does, however it is written. -/
def Reads (read : List Char → Except ReadError (Scanned α)) (decode : Json → Except ReadError α) :
    Prop :=
  ∀ ⦃j : Json⦄ ⦃text before rest : List Char⦄, Spells (.value j) text → Blanks before →
    Delimits rest → read (before ++ (text ++ rest)) = (decode j).map (·, rest)

section

variable {read : List Char → Except ReadError (Scanned α)} {decode : Json → Except ReadError α}

theorem Reads.evaluate_eq (hread : Reads read decode) (htree : tree.WellFormed)
    (h : Conveys (.value tree) (.value j)) : evaluate read tree = decode j := by
  have hcompact := hread (h.spells htree.written) .nil delimits_nil
  rw [List.append_nil, List.nil_append] at hcompact
  exact Json.evaluate_eq hcompact

theorem Reads.readsTree (hread : Reads read decode) (h : Conveys (.value tree) (.value j)) :
    ReadsTree read tree := by
  intro text before rest htext hbefore hrest
  rw [hread.evaluate_eq htext.wellFormed h]
  exact hread (h.spells htext) hbefore hrest

/-- It is enough to know what a reader makes of the trees that convey a value. -/
theorem reads_of_evaluate
    (hread : ∀ ⦃tree j⦄, Conveys (.value tree) (.value j) → ReadsTree read tree)
    (h : ∀ ⦃tree j⦄, tree.WellFormed → Conveys (.value tree) (.value j) →
      evaluate read tree = decode j) :
    Reads read decode := by
  intro j text before rest hspells hbefore hrest
  obtain ⟨q, hq, htext⟩ := hspells.exists_written
  obtain ⟨tree, rfl⟩ := hq.eq_value
  rw [← h htext.wellFormed hq]
  exact hread hq htext hbefore hrest

end

def decodeString : Json → Except ReadError String
  | .string s => .ok s
  | j => .error (j.misfit .string)

def decodeSingle : Json → Except ReadError Single
  | .number numeral => (numberOf? numeral).elim (.error .malformed) fun n => .ok n.toSingle
  | j => .error (j.misfit .single)

theorem readString_reads : Reads readString decodeString := by
  refine reads_of_evaluate (fun tree _ _ => readString_readsTree tree) fun tree j _ h => ?_
  have hrefuse := h.evaluate_refuse (α := String) .string
  cases h with
  | string hs =>
    rw [evaluate, Tree.compact, readString_quote, hs.scanString]
    simp [Except.map, decodeString]
  | number hn =>
    obtain ⟨c, cs, htext, hc⟩ := hn.head
    rw [evaluate, Tree.compact, htext] at hrefuse ⊢
    rw [readString_numeral hc]
    exact hrefuse
  | null => exact hrefuse
  | boolean b => cases b <;> exact hrefuse
  | array => exact hrefuse
  | object => exact hrefuse

theorem readSingle_reads : Reads readSingle decodeSingle := by
  refine reads_of_evaluate (fun tree _ _ => readSingle_readsTree tree) fun tree j _ h => ?_
  have hrefuse := h.evaluate_refuse (α := Single) .single
  cases h with
  | number hn =>
    have hscan := hn.scanNumber_toList
    obtain ⟨c, cs, htext, hc⟩ := hn.head
    rw [htext] at hscan
    rw [evaluate, Tree.compact, htext, readSingle_numeral hc, hscan, decodeSingle]
    cases numberOf? _ <;> rfl
  | string => exact hrefuse
  | null => exact hrefuse
  | boolean b => cases b <;> exact hrefuse
  | array => exact hrefuse
  | object => exact hrefuse

end HostStatus.Json
