import HostStatus.Proofs.MarkupText

/-!
# Four replacements and a single pass

Each replacement cuts the whole text at one character and puts an entity between the parts,
`substitute`, and the later ones go over what the earlier ones brought in. Nothing of that is
replaced once more: no entity has a bracket or a quote in it, and ampersands come first, before any
entity is there. So the outcome is that of a single pass in which each character becomes what
`entity` says. All else follows from that, such as that an ampersand of the outcome can only be the
first character of an entity.
-/

namespace HostStatus.Text.Markup

/-- The characters that are replaced, in their order, and the entities that replace them. -/
def entities : List (Char × String) :=
  [('&', "&amp;"), ('<', "&lt;"), ('>', "&gt;"), ('"', "&quot;")]

/-- The text is cut at each of the characters, and the entity put between the parts. -/
def substitute (cs : List Char) (e : Char × String) : List Char :=
  e.2.toList.intercalate (cs.splitOn e.1)

theorem intercalate_cons_head (sep : List Char) (x : Char) (part : List Char)
    (parts : List (List Char)) :
    sep.intercalate ((x :: part) :: parts) = x :: sep.intercalate (part :: parts) := by
  cases parts with
  | nil => simp
  | cons next parts =>
    rw [List.intercalate_cons_cons, List.intercalate_cons_cons]
    rfl

theorem replace_eq_substitute (c : Char) (text : String) (cs : List Char) :
    replace c text.toList cs = substitute cs (c, text) := by
  unfold substitute List.splitOn
  induction cs with
  | nil => simp [replace]
  | cons x cs ih =>
    obtain ⟨part, parts, hparts⟩ := List.exists_cons_of_ne_nil (List.splitOnP_ne_nil (· == c) cs)
    rw [hparts] at ih
    rw [List.splitOnP_cons_eq_if_modifyHead, hparts]
    by_cases hx : x = c
    · rw [if_pos (beq_iff_eq.2 hx), List.intercalate_cons_cons, ← ih]
      simp [replace, hx]
    · rw [if_neg (by simpa using hx), List.modifyHead_cons, intercalate_cons_head, ← ih]
      simp [replace, hx]

theorem escapeChars_eq_foldl (cs : List Char) : escapeChars cs = entities.foldl substitute cs := by
  unfold escapeChars
  rw [replace_eq_substitute, replace_eq_substitute, replace_eq_substitute, replace_eq_substitute]
  rfl

/-- An ampersand is nowhere but at the start of an entity. -/
theorem entity_spec (c : Char) :
    (∃ e ∈ entities, entity c = e.2.toList ∧ ∃ name, entity c = '&' :: name ∧ '&' ∉ name) ∨
      (c ≠ '&' ∧ entity c = [c]) := by
  rcases entity_cases c with rfl | rfl | rfl | rfl | ⟨hamp, -, -, -, hentity⟩
  · exact .inl ⟨('&', "&amp;"), by decide, rfl, _, rfl, by decide⟩
  · exact .inl ⟨('<', "&lt;"), by decide, rfl, _, rfl, by decide⟩
  · exact .inl ⟨('>', "&gt;"), by decide, rfl, _, rfl, by decide⟩
  · exact .inl ⟨('"', "&quot;"), by decide, rfl, _, rfl, by decide⟩
  · exact .inr ⟨hamp, hentity⟩

theorem eq_nil_of_cons_eq_append {x : Char} {tail before after : List Char} (hx : x ∉ tail)
    (h : x :: tail = before ++ x :: after) : before = [] := by
  cases before with
  | nil => rfl
  | cons y before =>
    rw [List.cons_append, List.cons.injEq] at h
    exact absurd (h.2 ▸ List.mem_append_right before (List.mem_cons_self ..)) hx

theorem entity_of_ampersand {c : Char} {before after : List Char}
    (h : entity c = before ++ '&' :: after) :
    before = [] ∧ ∃ e ∈ entities, entity c = e.2.toList := by
  rcases entity_spec c with ⟨e, he, hentity, name, hname, hnot⟩ | ⟨hamp, hentity⟩
  · exact ⟨eq_nil_of_cons_eq_append hnot (hname.symm.trans h), e, he, hentity⟩
  · have hmem : '&' ∈ [c] := by
      rw [← hentity, h]
      exact List.mem_append_right before (List.mem_cons_self ..)
    exact absurd (List.mem_singleton.1 hmem).symm hamp

/-- Wherever an ampersand stands, an entity starts. -/
theorem exists_entity_prefix {cs before rest : List Char}
    (h : cs.flatMap entity = before ++ '&' :: rest) :
    ∃ e ∈ entities, e.2.toList <+: '&' :: rest := by
  induction cs generalizing before with
  | nil => simp at h
  | cons c cs ih =>
    rw [List.flatMap_cons] at h
    rcases List.append_eq_append_iff.1 h with ⟨between, -, hrest⟩ | ⟨after, hentity, hrest⟩
    · exact ih hrest
    · -- If nothing of this character's text is left, the ampersand is the first of what follows.
      cases after with
      | nil =>
        have hfirst : cs.flatMap entity = [] ++ '&' :: rest := hrest.symm
        exact ih hfirst
      | cons x after =>
        obtain ⟨rfl, -⟩ := List.cons.inj (hrest.trans (List.cons_append ..))
        obtain ⟨rfl, e, he, htext⟩ := entity_of_ampersand hentity
        refine ⟨e, he, cs.flatMap entity, ?_⟩
        rw [← htext, hentity, hrest]
        rfl

/-- The four replacements do what a single pass does; so escaping works on each part of a text
alone, leaves neither brackets nor quotes and no ampersand but those of entities, and is undone by
decoding these once. -/
theorem escape_is_single_pass :
    (∀ s : String, (escape s).toList = entities.foldl substitute s.toList ∧
      (escape s).toList = s.toList.flatMap entity) ∧
    (∀ s t : String, escape (s ++ t) = escape s ++ escape t) ∧
    ∀ s : String,
      (∀ c ∈ (escape s).toList, c ≠ '<' ∧ c ≠ '>' ∧ c ≠ '"') ∧
      (∀ before rest, (escape s).toList = before ++ '&' :: rest →
        ∃ e ∈ entities, e.2.toList <+: '&' :: rest) ∧
      String.ofList (unescape (escape s).toList) = s := by
  have hlist (s : String) : (escape s).toList = escapeChars s.toList := by
    rw [escape, String.toList_ofList]
  refine ⟨fun s => ⟨?_, ?_⟩, fun s t => ?_,
    fun s => ⟨fun c hc => ?_, fun before rest h => ?_, ?_⟩⟩
  · rw [hlist, escapeChars_eq_foldl]
  · rw [hlist, escapeChars_eq_flatMap]
  · rw [escape, String.toList_append, escapeChars_append, String.ofList_append]
    rfl
  · rw [hlist] at hc
    simpa [isPlain, and_assoc] using isPlain_of_mem_escapeChars c hc
  · rw [hlist, escapeChars_eq_flatMap] at h
    exact exists_entity_prefix h
  · rw [hlist, unescape_escapeChars, String.ofList_toList]

/-- A text that has entities already: they are escaped too, and come back as they were. -/
theorem escape_is_single_pass_of_entities :
    escape "<a&lt;\"" = "&lt;a&amp;lt;&quot;" ∧
      ('a' ∈ (escape "<a&lt;\"").toList ∧ 'a' ≠ '<' ∧ 'a' ≠ '>' ∧ 'a' ≠ '"') ∧
      ((escape "<a&lt;\"").toList = "&lt;a".toList ++ '&' :: "amp;lt;&quot;".toList ∧
        ∃ e ∈ entities, e.2.toList <+: '&' :: "amp;lt;&quot;".toList) ∧
      String.ofList (unescape (escape "<a&lt;\"").toList) = "<a&lt;\"" := by
  obtain ⟨-, -, hescaped⟩ := escape_is_single_pass
  obtain ⟨hplain, hentity, hback⟩ := hescaped "<a&lt;\""
  have hmem : 'a' ∈ (escape "<a&lt;\"").toList := by decide +kernel
  have hsplit : (escape "<a&lt;\"").toList = "&lt;a".toList ++ '&' :: "amp;lt;&quot;".toList := by
    decide +kernel
  exact ⟨by decide +kernel, ⟨hmem, hplain 'a' hmem⟩, ⟨hsplit, hentity _ _ hsplit⟩, hback⟩

end HostStatus.Text.Markup
