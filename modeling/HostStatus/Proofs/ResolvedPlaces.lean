import HostStatus.Collect.FileTree
import Mathlib.Data.List.Basic

/-!
# Places that paths lead to

A place that a walk gets to is reached from the root name by name, each of them in a directory and
none of them a link: `Reached` says so, and every step of a walk keeps it, also where a link is
followed. So what a path leads to is there, and the path of such a place leads to it again, from
wherever it is walked.
-/

namespace HostStatus.FileTree

open Text (Bytes)

variable {root t : FileTree} {place working names rest : List Bytes} {name path resolved : Bytes}

/-- A name that leads on from a directory. -/
structure IsProper (name : Bytes) : Prop where
  ne_nil : name ≠ []
  ne_dot : name ≠ [dot]
  ne_dots : name ≠ [dot, dot]
  slash_not_mem : slash ∉ name

/-- From the root, one name after the other is found, and there are no links. -/
inductive Reached (root : FileTree) : List Bytes → Prop where
  | root : Reached root []
  | step {place : List Bytes} {name : Bytes} {t : FileTree} (hplace : Reached root place)
      (hname : IsProper name) (hfound : lookFor root place name = .ok t)
      (hlink : ∀ target, t ≠ link target) : Reached root (name :: place)

/-! ## Components -/

theorem components_slash (path : Bytes) : components (slash :: path) = [] :: components path :=
  rfl

theorem components_of_ne {b : UInt8} (hb : b ≠ slash) {part : Bytes} {parts : List Bytes}
    (h : components path = part :: parts) : components (b :: path) = (b :: part) :: parts := by
  rw [components] at h
  rw [components, List.foldr_cons, if_neg hb, h]

theorem components_ne_nil (path : Bytes) : components path ≠ [] := by
  induction path with
  | nil => exact List.cons_ne_nil _ _
  | cons b path ih =>
    by_cases hb : b = slash
    · rw [hb, components_slash]
      exact List.cons_ne_nil _ _
    · obtain ⟨part, parts, h⟩ := List.exists_cons_of_ne_nil ih
      rw [components_of_ne hb h]
      exact List.cons_ne_nil _ _

theorem components_append {part : Bytes} {parts : List Bytes} (hname : slash ∉ name)
    (h : components path = part :: parts) :
    components (name ++ path) = (name ++ part) :: parts := by
  induction name with
  | nil => exact h
  | cons b name ih =>
    rw [List.mem_cons, not_or] at hname
    exact components_of_ne (Ne.symm hname.1) (ih hname.2)

/-- No slash is left in a component. -/
theorem slash_not_mem_of_mem_components (path : Bytes) :
    ∀ name ∈ components path, slash ∉ name := by
  induction path with
  | nil =>
    intro name hmem
    rw [List.mem_singleton.1 hmem]
    exact List.not_mem_nil
  | cons b path ih =>
    by_cases hb : b = slash
    · rw [hb, components_slash]
      exact List.forall_mem_cons.2 ⟨List.not_mem_nil, ih⟩
    · cases h : components path with
      | nil => exact absurd h (components_ne_nil path)
      | cons part parts =>
        rw [h, List.forall_mem_cons] at ih
        rw [components_of_ne hb h]
        refine List.forall_mem_cons.2 ⟨fun hmem => ?_, ih.2⟩
        rcases List.mem_cons.1 hmem with hslash | hslash
        · exact hb hslash.symm
        · exact ih.1 hslash

theorem components_flatMap (h : ∀ name ∈ names, slash ∉ name) :
    components (names.flatMap (slash :: ·)) = [] :: names := by
  induction names with
  | nil => rfl
  | cons name names ih =>
    rw [List.forall_mem_cons] at h
    rw [List.flatMap_cons, List.cons_append, components_slash, components_append h.1 (ih h.2),
      List.append_nil]

/-! ## Places -/

namespace Reached

theorem of_append {front : List Bytes} (h : Reached root (front ++ place)) :
    Reached root place := by
  induction front with
  | nil => exact h
  | cons name front ih =>
    cases h with
    | step hplace _ _ _ => exact ih hplace

theorem tail (h : Reached root place) : Reached root place.tail := by
  cases h with
  | root => exact .root
  | step hplace _ _ _ => exact hplace

theorem isProper (h : Reached root place) : ∀ name ∈ place, IsProper name := by
  induction h with
  | root => exact fun _ hmem => absurd hmem List.not_mem_nil
  | step _ hname _ _ ih => exact List.forall_mem_cons.2 ⟨hname, ih⟩

theorem startOf (h : Reached root place) (names : List Bytes) :
    Reached root (startOf place names) := by
  rw [FileTree.startOf]
  split
  · exact .root
  · exact h

/-- A place that is reached is in the tree. -/
theorem exists_find? (h : Reached root (name :: place)) :
    ∃ t, root.find? (name :: place).reverse = some t ∧ ∀ target, t ≠ link target := by
  cases h with
  | @step _ _ t _ _ hfound hlink =>
    refine ⟨t, ?_, hlink⟩
    rw [lookFor] at hfound
    split at hfound
    · cases hfound
    · split at hfound
      · next synthetic entries hplace =>
        split at hfound
        · cases hfound
        · split at hfound
          · next found hname =>
            obtain rfl := Except.ok.inj hfound
            rw [find?] at hplace
            rw [find?, List.reverse_cons, List.foldlM_append, hplace]
            simp [child?, hname]
          · cases hfound
      · cases hfound
      · cases hfound

end Reached

/-! ## Walks -/

section Walk

variable {follow : List Bytes → List Bytes → Except IoError (List Bytes)} {final : List Bytes}

theorem walkWith_stay (h : name = [] ∨ name = [dot]) :
    walkWith root follow place (name :: rest) = walkWith root follow place rest := by
  rw [walkWith, if_pos h]

theorem walkWith_back :
    walkWith root follow place ([dot, dot] :: rest) = walkWith root follow place.tail rest := by
  rw [walkWith, if_neg (by decide), if_pos rfl]

theorem asDirectory_error (place : List Bytes) (e : IoError) :
    ∃ e', asDirectory place (.error e) = .error e' := by
  unfold asDirectory
  split
  · exact ⟨_, rfl⟩
  · exact ⟨_, rfl⟩

theorem walkWith_missing {e : IoError} (hname : IsProper name)
    (hfound : lookFor root place name = .error e) :
    walkWith root follow place (name :: rest) ≠ .ok final := by
  obtain ⟨e', hdirectory⟩ := asDirectory_error (name :: place) e
  rw [walkWith, if_neg (not_or.2 ⟨hname.ne_nil, hname.ne_dot⟩), if_neg hname.ne_dots, hfound]
  dsimp only
  rw [hdirectory]
  cases needDirectory rest with
  | false => exact fun h => by cases h
  | true => exact fun h => by cases h

theorem walkWith_link {target : Bytes} (hname : IsProper name)
    (hfound : lookFor root place name = .ok (link target)) :
    walkWith root follow place (name :: rest) =
      follow (startOf place (components target)) (components target ++ rest) := by
  rw [walkWith, if_neg (not_or.2 ⟨hname.ne_nil, hname.ne_dot⟩), if_neg hname.ne_dots, hfound]

theorem walkWith_found (hname : IsProper name) (hfound : lookFor root place name = .ok t)
    (hlink : ∀ target, t ≠ link target) :
    walkWith root follow place (name :: rest) =
      (if needDirectory rest then asDirectory (name :: place) (.ok t) else .ok t) >>= fun _ =>
        walkWith root follow (name :: place) rest := by
  rw [walkWith, if_neg (not_or.2 ⟨hname.ne_nil, hname.ne_dot⟩), if_neg hname.ne_dots, hfound]
  cases t with
  | link target => exact absurd rfl (hlink target)
  | file => cases needDirectory rest <;> rfl
  | directory synthetic entries => cases needDirectory rest <;> rfl

/-- Every step keeps to places that are reached, as long as links do. -/
theorem walkWith_reached
    (hfollow : ∀ {place names final}, Reached root place → (∀ name ∈ names, slash ∉ name) →
      follow place names = .ok final → Reached root final)
    (hplace : Reached root place) (hnames : ∀ name ∈ names, slash ∉ name)
    (h : walkWith root follow place names = .ok final) : Reached root final := by
  induction names generalizing place with
  | nil =>
    obtain rfl := Except.ok.inj h
    exact hplace
  | cons name rest ih =>
    rw [List.forall_mem_cons] at hnames
    by_cases hstays : name = [] ∨ name = [dot]
    · rw [walkWith_stay hstays] at h
      exact ih hplace hnames.2 h
    by_cases hback : name = [dot, dot]
    · rw [hback, walkWith_back] at h
      exact ih hplace.tail hnames.2 h
    rw [not_or] at hstays
    have hname : IsProper name := ⟨hstays.1, hstays.2, hback, hnames.1⟩
    cases hfound : lookFor root place name with
    | error e => exact absurd h (walkWith_missing hname hfound)
    | ok t =>
      by_cases hlink : ∃ target, t = link target
      · obtain ⟨target, rfl⟩ := hlink
        rw [walkWith_link hname hfound] at h
        refine hfollow (hplace.startOf _) (fun name hmem => ?_) h
        exact (List.mem_append.1 hmem).elim (slash_not_mem_of_mem_components target name)
          (hnames.2 name)
      · rw [not_exists] at hlink
        rw [walkWith_found hname hfound hlink] at h
        have hstep : Reached root (name :: place) := .step hplace hname hfound hlink
        generalize (if needDirectory rest then _ else _) = probe at h
        cases probe with
        | error e => cases h
        | ok found => exact ih hstep hnames.2 h

theorem needDirectory_of_proper (h : ∀ name ∈ rest, IsProper name) :
    needDirectory rest = false := by
  cases rest with
  | nil => rfl
  | cons name rest =>
    have hname := h name List.mem_cons_self
    simp [needDirectory, hname.ne_nil, hname.ne_dot, hname.ne_dots]

theorem walkWith_skip {empty : List Bytes} (h : ∀ name ∈ empty, name = []) :
    walkWith root follow place (empty ++ names) = walkWith root follow place names := by
  induction empty with
  | nil => rfl
  | cons name empty ih =>
    rw [List.forall_mem_cons] at h
    rw [List.cons_append, walkWith_stay (.inl h.1), ih h.2]

/-- The names of a place lead to it. -/
theorem walkWith_names (h : Reached root (names.reverse ++ place)) :
    walkWith root follow place names = .ok (names.reverse ++ place) := by
  induction names generalizing place with
  | nil => rfl
  | cons name names ih =>
    rw [List.reverse_cons, List.append_assoc, List.singleton_append] at h ⊢
    have hrest : ∀ name ∈ names, IsProper name := fun name hmem =>
      h.isProper name (List.mem_append_left _ (List.mem_reverse.2 hmem))
    cases h.of_append with
    | step hplace hname hfound hlink =>
      rw [walkWith_found hname hfound hlink, needDirectory_of_proper hrest,
        if_neg Bool.false_ne_true]
      exact ih h

end Walk

theorem walk_eq (root : FileTree) (links : ℕ) :
    ∃ follow, walk root links = walkWith root follow := by
  cases links with
  | zero => exact ⟨_, rfl⟩
  | succ links => exact ⟨_, rfl⟩

theorem walk_reached (links : ℕ) {final : List Bytes} (hplace : Reached root place)
    (hnames : ∀ name ∈ names, slash ∉ name) (h : walk root links place names = .ok final) :
    Reached root final := by
  induction links generalizing place names final with
  | zero => exact walkWith_reached (fun _ _ hfollow => by cases hfollow) hplace hnames h
  | succ links ih => exact walkWith_reached ih hplace hnames h

/-! ## Paths -/

theorem components_pathOf (h : ∀ name ∈ place, slash ∉ name) :
    ∃ empty, (∀ name ∈ empty, name = []) ∧
      components (pathOf place) = [] :: (empty ++ place.reverse) := by
  cases place with
  | nil => exact ⟨[[]], List.forall_mem_singleton.2 rfl, rfl⟩
  | cons name place =>
    refine ⟨[], fun name hmem => absurd hmem List.not_mem_nil, ?_⟩
    rw [pathOf, if_neg (List.cons_ne_nil _ _), List.nil_append]
    exact components_flatMap fun name hmem => h name (List.mem_reverse.1 hmem)

theorem pathOf_ne_nil (place : List Bytes) : pathOf place ≠ [] := by
  intro hnil
  cases place with
  | nil => cases hnil
  | cons name place =>
    rw [pathOf, if_neg (List.cons_ne_nil _ _), List.flatMap_eq_nil_iff] at hnil
    exact List.cons_ne_nil _ _ (hnil name (List.mem_reverse.2 List.mem_cons_self))

theorem resolve_eq (hnul : path.contains 0 = false) (hpath : path ≠ []) :
    resolve root working path =
      (walk root maxLinks (startOf working (components path)) (components path)).map pathOf := by
  rw [resolve, hnul, if_neg Bool.false_ne_true, if_neg hpath]

/-- What a path leads to has the path of a place that is reached, if the working directory is, and
so of one that is in the tree. -/
theorem exists_reached (hworking : Reached root working)
    (h : resolve root working path = .ok resolved) :
    ∃ place, resolved = pathOf place ∧ Reached root place ∧
      (place ≠ [] → ∃ t, root.find? place.reverse = some t ∧ ∀ target, t ≠ link target) := by
  have hnul : path.contains 0 = false := by
    rw [resolve] at h
    split_ifs at h with hnul
    exact Bool.eq_false_iff.2 hnul
  have hpath : path ≠ [] := by
    rintro rfl
    cases h
  rw [resolve_eq hnul hpath] at h
  cases hwalk : walk root maxLinks (startOf working (components path)) (components path) with
  | error e =>
    rw [hwalk] at h
    cases h
  | ok place =>
    rw [hwalk] at h
    have hplace : Reached root place := walk_reached maxLinks (hworking.startOf _)
      (slash_not_mem_of_mem_components path) hwalk
    refine ⟨place, (Except.ok.inj h).symm, hplace, fun hne => ?_⟩
    obtain ⟨name, outer, rfl⟩ := List.exists_cons_of_ne_nil hne
    exact hplace.exists_find?

/-- What a path leads to leads to itself, from wherever it is walked. -/
theorem resolve_resolved (hworking : Reached root working)
    (h : resolve root working path = .ok resolved) (hnul : resolved.contains 0 = false)
    (working' : List Bytes) : resolve root working' resolved = .ok resolved := by
  obtain ⟨place, rfl, hplace, -⟩ := exists_reached hworking h
  obtain ⟨empty, hempty, hcomponents⟩ :=
    components_pathOf fun name hmem => (hplace.isProper name hmem).slash_not_mem
  obtain ⟨follow, hwalk⟩ := walk_eq root maxLinks
  have hnames : Reached root (place.reverse.reverse ++ []) := by
    rwa [List.reverse_reverse, List.append_nil]
  have hstart : startOf working' (components (pathOf place)) = [] := by
    rw [hcomponents]
    rfl
  rw [resolve_eq hnul (pathOf_ne_nil place), hstart, hcomponents, hwalk,
    walkWith_stay (.inl rfl), walkWith_skip hempty, walkWith_names hnames, List.reverse_reverse,
    List.append_nil]
  rfl

end HostStatus.FileTree
