import Mathlib.Data.List.Basic

/-!
# Texts between labels

A text in which values and labels take turns is cut at the first occurrence of each label, one after
the other. This gives back the values if each label has a character that stands neither earlier in
it nor in the value in front of it.
-/

namespace HostStatus

/-- What stands before the first occurrence of a label, and what follows it. -/
def cutAt? (label : List Char) : List Char → Option (List Char × List Char)
  | [] => if label = [] then some ([], []) else none
  | c :: cs =>
    if label.isPrefixOf (c :: cs) then some ([], (c :: cs).drop label.length)
    else (cutAt? label cs).map fun (before, behind) => (c :: before, behind)

/-- The texts in front of each of the labels, one after the other. -/
def between : List (List Char) → List Char → Option (List (List Char))
  | [], _ => some []
  | label :: labels, cs => do
    let (text, cs) ← cutAt? label cs
    let texts ← between labels cs
    pure (text :: texts)

/-- The label has a character that stands neither earlier in it nor in the text. -/
def Ends (label text : List Char) : Prop :=
  ∃ front c back, label = front ++ c :: back ∧ c ∉ front ∧ c ∉ text

theorem not_prefix_of_ends {label text : List Char} {x : Char} (h : Ends label (x :: text))
    (rest : List Char) : ¬ label <+: x :: text ++ (label ++ rest) := by
  obtain ⟨front, c, back, rfl, hfront, htext⟩ := h
  rintro ⟨tail, heq⟩
  -- Both sides have the character for the first time behind a different prefix.
  have hfirst (pre post : List Char) (h : c ∉ pre) :
      (pre ++ c :: post).takeWhile (· ≠ c) = pre := by
    rw [List.takeWhile_append_of_pos fun y hy => by simpa using ne_of_mem_of_not_mem hy h]
    simp
  have hleft := hfirst front (back ++ tail) hfront
  have hright := hfirst (x :: text ++ front) (back ++ rest) (by simp_all)
  have hsides : front ++ c :: (back ++ tail) = x :: text ++ front ++ c :: (back ++ rest) := by
    simpa using heq
  rw [← hsides, hleft] at hright
  have hlength := congrArg List.length hright
  simp only [List.length_append, List.length_cons] at hlength
  omega

theorem cutAt?_self (label rest : List Char) : cutAt? label (label ++ rest) = some ([], rest) := by
  cases label with
  | nil => cases rest <;> rfl
  | cons x label =>
    have hprefix : (x :: label).isPrefixOf (x :: label ++ rest) = true := by
      rw [List.isPrefixOf_iff_prefix]
      exact List.prefix_append _ _
    rw [List.cons_append] at hprefix ⊢
    rw [cutAt?, if_pos hprefix, ← List.cons_append, List.drop_left]

theorem cutAt?_append {label text : List Char} (h : Ends label text) (rest : List Char) :
    cutAt? label (text ++ (label ++ rest)) = some (text, rest) := by
  induction text with
  | nil => exact cutAt?_self label rest
  | cons x text ih =>
    have hprefix := not_prefix_of_ends h rest
    rw [← List.isPrefixOf_iff_prefix] at hprefix
    obtain ⟨front, c, back, hlabel, hfront, htext⟩ := h
    rw [List.cons_append] at hprefix ⊢
    rw [cutAt?, if_neg hprefix,
      ih ⟨front, c, back, hlabel, hfront, List.not_mem_of_not_mem_cons htext⟩]
    rfl

/-- Each text and the label behind it. -/
def labelled (parts : List (String × String)) : String :=
  parts.foldr (fun p page => p.1 ++ (p.2 ++ page)) ""

/-- Texts are found between their labels. -/
theorem between_labelled {parts : List (String × String)}
    (h : ∀ p ∈ parts, Ends p.2.toList p.1.toList) (rest : List Char) :
    between (parts.map fun p => p.2.toList) ((labelled parts).toList ++ rest) =
      some (parts.map fun p => p.1.toList) := by
  induction parts with
  | nil => rfl
  | cons p parts ih =>
    rw [List.forall_mem_cons] at h
    have hpage : (labelled (p :: parts)).toList =
        p.1.toList ++ (p.2.toList ++ (labelled parts).toList) := by
      rw [labelled, List.foldr_cons, String.toList_append, String.toList_append]
      rfl
    rw [hpage, List.append_assoc, List.append_assoc, List.map_cons, between, cutAt?_append h.1]
    simp only [Option.bind_eq_bind, Option.bind_some, ih h.2]
    rfl

end HostStatus
