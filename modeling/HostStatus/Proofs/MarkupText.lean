import HostStatus.Text.Markup
import Mathlib.Data.List.Basic

/-!
# Markup and the text between it

Escaping works on each character alone, and decoding its entities once gives the text back. `pieces`
tells the marks of a text, each from an angle bracket to the next closing one, from the characters
outside of them. A text without brackets is all characters, so that escaped text never adds a mark.
-/

namespace HostStatus.Text.Markup

/-! ## Escaping -/

theorem entity_cases (c : Char) :
    c = '&' ∨ c = '<' ∨ c = '>' ∨ c = '"' ∨
      (c ≠ '&' ∧ c ≠ '<' ∧ c ≠ '>' ∧ c ≠ '"' ∧ entity c = [c]) := by
  unfold entity
  split
  · exact .inl rfl
  · exact .inr (.inl rfl)
  · exact .inr (.inr (.inl rfl))
  · exact .inr (.inr (.inr (.inl rfl)))
  · next hamp hlt hgt hquot => exact .inr (.inr (.inr (.inr ⟨hamp, hlt, hgt, hquot, rfl⟩)))

theorem escapeChars_append (cs ds : List Char) :
    escapeChars (cs ++ ds) = escapeChars cs ++ escapeChars ds := by
  delta escapeChars replace
  simp only [List.flatMap_append]

theorem replace_of_ne {c x : Char} (h : x ≠ c) (cs : List Char) : replace c cs [x] = [x] := by
  simp [replace, h]

theorem escapeChars_singleton (c : Char) : escapeChars [c] = entity c := by
  rcases entity_cases c with rfl | rfl | rfl | rfl | ⟨hamp, hlt, hgt, hquot, hentity⟩
  · rfl
  · rfl
  · rfl
  · rfl
  · delta escapeChars
    rw [replace_of_ne hamp, replace_of_ne hlt, replace_of_ne hgt, replace_of_ne hquot, hentity]

/-- Each character is escaped on its own, since no replacement meets what another one brought in. -/
theorem escapeChars_eq_flatMap (cs : List Char) : escapeChars cs = cs.flatMap entity := by
  induction cs with
  | nil => rfl
  | cons c cs ih =>
    rw [← List.singleton_append, escapeChars_append, escapeChars_singleton, ih, List.flatMap_append,
      List.flatMap_singleton]

/-- Neither a bracket nor a quote. -/
def isPlain (c : Char) : Bool :=
  c ≠ '<' && c ≠ '>' && c ≠ '"'

theorem isPlain_of_mem_entity {c x : Char} (h : x ∈ entity c) : isPlain x = true := by
  rcases entity_cases c with rfl | rfl | rfl | rfl | ⟨-, hlt, hgt, hquot, hentity⟩
  · exact List.all_eq_true.1 (by decide) x h
  · exact List.all_eq_true.1 (by decide) x h
  · exact List.all_eq_true.1 (by decide) x h
  · exact List.all_eq_true.1 (by decide) x h
  · rw [hentity, List.mem_singleton] at h
    simp [isPlain, h, hlt, hgt, hquot]

theorem isPlain_of_mem_escapeChars {cs : List Char} : ∀ x ∈ escapeChars cs, isPlain x = true := by
  intro x hx
  rw [escapeChars_eq_flatMap, List.mem_flatMap] at hx
  obtain ⟨c, -, hc⟩ := hx
  exact isPlain_of_mem_entity hc

/-! ## Decoding -/

/-- Decodes each entity once. -/
def unescape : List Char → List Char
  | '&' :: 'a' :: 'm' :: 'p' :: ';' :: cs => '&' :: unescape cs
  | '&' :: 'l' :: 't' :: ';' :: cs => '<' :: unescape cs
  | '&' :: 'g' :: 't' :: ';' :: cs => '>' :: unescape cs
  | '&' :: 'q' :: 'u' :: 'o' :: 't' :: ';' :: cs => '"' :: unescape cs
  | c :: cs => c :: unescape cs
  | [] => []

theorem unescape_plain {c : Char} (h : c ≠ '&') (cs : List Char) :
    unescape (c :: cs) = c :: unescape cs := by
  rw [unescape.eq_def]
  split
  · next heq => exact absurd (List.cons.inj heq).1 h
  · next heq => exact absurd (List.cons.inj heq).1 h
  · next heq => exact absurd (List.cons.inj heq).1 h
  · next heq => exact absurd (List.cons.inj heq).1 h
  · next heq =>
    obtain ⟨rfl, rfl⟩ := List.cons.inj heq
    rfl
  · next heq => cases heq

theorem unescape_entity (c : Char) (cs : List Char) :
    unescape (entity c ++ cs) = c :: unescape cs := by
  rcases entity_cases c with rfl | rfl | rfl | rfl | ⟨hamp, -, -, -, hentity⟩
  · rfl
  · rfl
  · rfl
  · rfl
  · rw [hentity]
    exact unescape_plain hamp cs

theorem unescape_escapeChars (cs : List Char) : unescape (escapeChars cs) = cs := by
  rw [escapeChars_eq_flatMap]
  induction cs with
  | nil => rfl
  | cons c cs ih => rw [List.flatMap_cons, unescape_entity, ih]

/-! ## Marks -/

inductive Piece where
  /-- What stands between an angle bracket and the next closing one. -/
  | mark (inside : List Char)
  | char (c : Char)
  deriving DecidableEq

/-- The marks and the characters outside, where `opened` is what was read of a mark so far. A mark
that is never closed is none. -/
def pieces (opened : Option (List Char)) : List Char → List Piece
  | [] => opened.elim [] fun cs => ('<' :: cs).map .char
  | c :: rest =>
    match opened with
    | none => if c = '<' then pieces (some []) rest else .char c :: pieces none rest
    | some cs => if c = '>' then .mark cs :: pieces none rest else pieces (some (cs ++ [c])) rest

def Piece.mark? : Piece → Option (List Char)
  | mark inside => some inside
  | char _ => none

def Piece.char? : Piece → Option Char
  | mark _ => none
  | char c => some c

def marks (cs : List Char) : List (List Char) :=
  (pieces none cs).filterMap Piece.mark?

def outside (cs : List Char) : List Char :=
  (pieces none cs).filterMap Piece.char?

theorem pieces_text {text : List Char} (h : '<' ∉ text) (rest : List Char) :
    pieces none (text ++ rest) = text.map .char ++ pieces none rest := by
  induction text with
  | nil => rfl
  | cons c text ih =>
    rw [List.mem_cons, not_or] at h
    rw [List.cons_append, pieces, if_neg (Ne.symm h.1), ih h.2]
    rfl

theorem pieces_opened {inside : List Char} (h : '>' ∉ inside) (cs rest : List Char) :
    pieces (some cs) (inside ++ '>' :: rest) = .mark (cs ++ inside) :: pieces none rest := by
  induction inside generalizing cs with
  | nil =>
    rw [List.nil_append, pieces, List.append_nil]
    exact if_pos rfl
  | cons c inside ih =>
    rw [List.mem_cons, not_or] at h
    rw [List.cons_append, pieces, if_neg (Ne.symm h.1), ih h.2, List.append_assoc,
      List.singleton_append]

theorem pieces_mark {inside : List Char} (h : '>' ∉ inside) (rest : List Char) :
    pieces none ('<' :: (inside ++ '>' :: rest)) = .mark inside :: pieces none rest := by
  rw [pieces]
  exact pieces_opened h [] rest

section Sections

variable {sections : List (List Char × List Char)}

/-- A mark and the text behind it, up to the next mark. -/
def sectionChars (s : List Char × List Char) : List Char :=
  '<' :: (s.1 ++ '>' :: s.2)

theorem pieces_sections (h : ∀ s ∈ sections, '>' ∉ s.1 ∧ '<' ∉ s.2) :
    pieces none (sections.flatMap sectionChars) =
      sections.flatMap fun s => .mark s.1 :: s.2.map .char := by
  induction sections with
  | nil => rfl
  | cons s sections ih =>
    rw [List.forall_mem_cons] at h
    obtain ⟨⟨hmark, htext⟩, hothers⟩ := h
    rw [List.flatMap_cons, sectionChars, List.cons_append, List.append_assoc, List.cons_append,
      pieces_mark hmark, pieces_text htext, ih hothers, List.flatMap_cons, List.cons_append]

theorem marks_sections (h : ∀ s ∈ sections, '>' ∉ s.1 ∧ '<' ∉ s.2) :
    marks (sections.flatMap sectionChars) = sections.map Prod.fst := by
  have hchars (text : List Char) : (text.map Piece.char).filterMap Piece.mark? = [] := by
    simp [Piece.mark?]
  rw [marks, pieces_sections h]
  clear h
  induction sections with
  | nil => rfl
  | cons s sections ih =>
    rw [List.flatMap_cons, List.filterMap_append, ih, List.map_cons]
    exact congrArg (fun text => s.1 :: (text ++ sections.map Prod.fst)) (hchars s.2)

theorem outside_sections (h : ∀ s ∈ sections, '>' ∉ s.1 ∧ '<' ∉ s.2) :
    outside (sections.flatMap sectionChars) = sections.flatMap Prod.snd := by
  have hchars (text : List Char) : (text.map Piece.char).filterMap Piece.char? = text := by
    rw [List.filterMap_map, show Piece.char? ∘ Piece.char = some from rfl, List.filterMap_some]
  rw [outside, pieces_sections h]
  clear h
  induction sections with
  | nil => rfl
  | cons s sections ih =>
    rw [List.flatMap_cons, List.filterMap_append, ih, List.flatMap_cons]
    exact congrArg (· ++ sections.flatMap Prod.snd) (hchars s.2)

end Sections

end HostStatus.Text.Markup
