import HostStatus.EnvFile.Load
import HostStatus.Proofs.Utf8Text
import Mathlib.Data.List.TakeDrop
import Mathlib.Data.List.TakeWhile

/-!
# Variables of the environment and of the file

An entry of the environment belongs to one variable, since a name has no equals sign. So to set a
variable changes no other, and a file that is loaded sets those that were unset, each to what is
first assigned to it. `EnvFile.assignments` is the list of what a file assigns, up to its first
malformed line; `get?_loadLines` is by induction on the lines, with `get?_setUnset` for one
assignment.
-/

namespace HostStatus

open Text

variable {name other value : String} {env : Environment}

/-- The name of a variable. -/
def IsVariable (name : String) : Prop :=
  name ≠ "" ∧ '=' ∉ name.toList

instance (name : String) : Decidable (IsVariable name) :=
  inferInstanceAs (Decidable (_ ∧ _))

theorem IsVariable.not_mem_toUtf8 (h : IsVariable name) : 0x3d ∉ toUtf8 name := by
  intro hmem
  rw [toUtf8_eq_flatMap, List.mem_flatMap] at hmem
  obtain ⟨c, hc, hbyte⟩ := hmem
  have hsign : c.toNat = '='.toNat := eq_of_mem_utf8EncodeChar (n := 0x3d) (by decide) hbyte
  rw [Char.toNat_inj] at hsign
  exact h.2 (hsign ▸ hc)

theorem toUtf8_injective {s t : String} (h : toUtf8 s = toUtf8 t) : s = t := by
  have hread := ofUtf8?_toUtf8 s
  rw [h, ofUtf8?_toUtf8] at hread
  exact (Option.some.inj hread).symm

namespace Environment

/-! ## Entries -/

theorem start_eq (name : String) : start name = toUtf8 name ++ [0x3d] := by
  have hsign : toUtf8 "=" = [0x3d] := by
    rw [toUtf8_eq_flatMap]
    decide
  rw [start, toUtf8_append, hsign]

theorem valueIn?_eq_some {e : Bytes} {bytes : Bytes} :
    valueIn? name e = some bytes ↔ name ≠ "" ∧ e = entry name bytes := by
  unfold valueIn? entry
  split_ifs with h
  · obtain ⟨rest, rfl⟩ := List.isPrefixOf_iff_prefix.1 h.2
    simp [h.1]
  · refine iff_of_false not_false fun heq => h ⟨heq.1, ?_⟩
    rw [heq.2, List.isPrefixOf_iff_prefix]
    exact List.prefix_append _ _

/-- Two texts that end at their first equals sign are the same. -/
theorem eq_of_append_sign {xs ys s t : Bytes} (hx : 0x3d ∉ xs) (hy : 0x3d ∉ ys)
    (h : xs ++ 0x3d :: s = ys ++ 0x3d :: t) : xs = ys := by
  have htake {zs : Bytes} (hz : 0x3d ∉ zs) (rest : Bytes) :
      (zs ++ 0x3d :: rest).takeWhile (· ≠ 0x3d) = zs := by
    have hne (b : UInt8) (hb : b ∈ zs) : decide (b ≠ 0x3d) = true :=
      decide_eq_true fun heq => hz (heq ▸ hb)
    rw [List.takeWhile_append_of_pos hne]
    simp
  rw [← htake hx s, h, htake hy]

theorem entry_inj (hname : IsVariable name) (hother : IsVariable other) {bytes bytes' : Bytes}
    (h : entry name bytes = entry other bytes') : name = other := by
  rw [entry, entry, start_eq, start_eq, List.append_assoc, List.append_assoc,
    List.singleton_append, List.singleton_append] at h
  exact toUtf8_injective (eq_of_append_sign hname.not_mem_toUtf8 hother.not_mem_toUtf8 h)

/-- An entry of a variable is none of another. -/
theorem valueIn?_of_ne (hname : IsVariable name) (hother : IsVariable other) (hne : other ≠ name)
    {e : Bytes} (h : (valueIn? name e).isSome) : valueIn? other e = none := by
  obtain ⟨bytes, hbytes⟩ := Option.isSome_iff_exists.1 h
  obtain ⟨-, rfl⟩ := valueIn?_eq_some.1 hbytes
  rw [Option.eq_none_iff_forall_ne_some]
  intro bytes' hbytes'
  exact hne (entry_inj hname hother (valueIn?_eq_some.1 hbytes').2).symm

/-! ## Setting a variable -/

/-- The entries before the first of a variable stay as they are, and those behind it. -/
theorem set_cases (env : Environment) (name value : String) :
    ∃ front back, (∀ e ∈ front, valueIn? name e = none) ∧
      (env.set name value).entries = front ++ entry name (toUtf8 value) :: back ∧
      (env.entries = front ∧ back = [] ∨
        ∃ e, (valueIn? name e).isSome ∧ env.entries = front ++ e :: back) := by
  have hfront : ∀ e ∈ env.entries.takeWhile fun e => (valueIn? name e).isNone,
      valueIn? name e = none :=
    fun e he => Option.isNone_iff_eq_none.1
      (List.mem_takeWhile_imp (p := fun e => (valueIn? name e).isNone) he)
  have hsplit := List.takeWhile_append_dropWhile
    (p := fun e => (valueIn? name e).isNone) (l := env.entries)
  have hspan := List.span_eq_takeWhile_dropWhile (p := fun e => (valueIn? name e).isNone)
    env.entries
  cases hback : env.entries.dropWhile fun e => (valueIn? name e).isNone with
  | nil =>
    rw [hback] at hspan hsplit
    refine ⟨_, [], hfront, ?_, .inl ⟨?_, rfl⟩⟩
    · rw [set, hspan]
    · rw [List.append_nil] at hsplit
      exact hsplit.symm
  | cons e back =>
    rw [hback] at hspan hsplit
    refine ⟨_, back, hfront, ?_, .inr ⟨e, ?_, hsplit.symm⟩⟩
    · rw [set, hspan]
    · have hhead := List.head?_dropWhile_not (fun e => (valueIn? name e).isNone) env.entries
      rw [hback] at hhead
      exact Option.isNone_eq_false_iff.1 hhead

theorem get?_set_self (hname : IsVariable name) (env : Environment) (value : String) :
    (env.set name value).get? name = some value := by
  obtain ⟨front, back, hfront, hentries, -⟩ := set_cases env name value
  have hnew : valueIn? name (entry name (toUtf8 value)) = some (toUtf8 value) :=
    valueIn?_eq_some.2 ⟨hname.1, rfl⟩
  rw [get?, bytes?, hentries, List.findSome?_append, List.findSome?_eq_none_iff.2 hfront,
    Option.none_or, List.findSome?_cons, hnew]
  exact ofUtf8?_toUtf8 value

theorem get?_set_of_ne (hname : IsVariable name) (hother : IsVariable other) (hne : other ≠ name)
    (env : Environment) (value : String) : (env.set name value).get? other = env.get? other := by
  obtain ⟨front, back, -, hentries, hcases⟩ := set_cases env name value
  have hnew : valueIn? other (entry name (toUtf8 value)) = none :=
    valueIn?_of_ne hname hother hne (by rw [valueIn?_eq_some.2 ⟨hname.1, rfl⟩]; rfl)
  rw [get?, get?, bytes?, bytes?, hentries]
  rcases hcases with ⟨hold, rfl⟩ | ⟨e, he, hold⟩
  · rw [hold, List.findSome?_append, List.findSome?_cons, hnew, List.findSome?_nil, Option.or_none]
  · rw [hold, List.findSome?_append, List.findSome?_append, List.findSome?_cons, hnew,
      List.findSome?_cons, valueIn?_of_ne hname hother hne he]

/-- A variable that is set keeps its value, and no other gets one. -/
theorem get?_setUnset (hname : IsVariable name) (hother : IsVariable other) (env : Environment)
    (value : String) :
    (env.setUnset name value).get? other =
      if other = name then (env.get? name).or (some value) else env.get? other := by
  unfold setUnset
  cases hget : env.get? name with
  | some old =>
    rw [Option.isSome_some, if_pos rfl]
    split
    · next heq => rw [heq, hget, Option.some_or]
    · rfl
  | none =>
    rw [Option.isSome_none, if_neg Bool.false_ne_true]
    split
    · next heq => rw [heq, get?_set_self hname, Option.none_or]
    · next hne => exact get?_set_of_ne hname hother hne env value

end Environment

namespace EnvFile

/-! ## Names that are assigned to -/

theorem isVariable_of_takeName? {cs name rest : List Char} (h : takeName? cs = some (name, rest)) :
    IsVariable (String.ofList name) := by
  unfold takeName? at h
  split at h
  · cases h
  · next c cs =>
    split_ifs at h with hstart
    obtain ⟨rfl, -⟩ := Prod.mk.inj (Option.some.inj h)
    have hc : isNameChar c = true := by
      simp only [isNameStart, isNameChar, Char.isAlphanum, Bool.or_eq_true] at hstart ⊢
      tauto
    refine ⟨?_, fun hsign => ?_⟩
    · rw [List.takeWhile_cons_of_pos hc]
      intro hempty
      have := congrArg String.toList hempty
      simp at this
    · rw [String.toList_ofList] at hsign
      exact absurd (List.mem_takeWhile_imp hsign) (show ¬isNameChar '=' = true by decide)

theorem isVariable_of_takeTarget? {cs name rest : List Char}
    (h : takeTarget? cs = some (name, rest)) : IsVariable (String.ofList name) := by
  unfold takeTarget? at h
  obtain ⟨⟨first, after⟩, hfirst, h⟩ := Option.bind_eq_some_iff.1 h
  dsimp only at h
  split at h
  · obtain ⟨rfl, -⟩ := Prod.mk.inj (Option.some.inj h)
    exact isVariable_of_takeName? hfirst
  · split_ifs at h
    obtain ⟨⟨second, after⟩, hsecond, h⟩ := Option.bind_eq_some_iff.1 h
    obtain ⟨_, -, h⟩ := Option.bind_eq_some_iff.1 h
    obtain ⟨rfl, -⟩ := Prod.mk.inj (Option.some.inj h)
    exact isVariable_of_takeName? hsecond

theorem isVariable_of_ofLine {lookup : String → Option String} {line : List Char}
    (h : Statement.ofLine lookup line = .assign name value) : IsVariable name := by
  unfold Statement.ofLine at h
  dsimp only at h
  split at h
  · cases h
  · split at h
    · cases h
    · next htarget =>
      have hvariable := isVariable_of_takeTarget? htarget
      split at h
      · obtain ⟨rfl, -⟩ := Statement.assign.inj h
        exact hvariable
      · split at h
        · obtain ⟨rfl, -⟩ := Statement.assign.inj h
          exact hvariable
        · cases h

/-! ## Loading -/

/-- What is assigned in these lines, in order, up to the first that is not well formed. Values may
name variables, those assigned before included. -/
def assignments (env : Environment) : List Line → List (String × String)
  | [] => []
  | .unfinished :: _ => []
  | .text line :: lines =>
    match Statement.ofLine env.get? line with
    | .nothing => assignments env lines
    | .assign name value => (name, value) :: assignments (env.setUnset name value) lines
    | .malformed => []

/-- The first assignment counts, if the variable was not set. -/
theorem get?_loadLines (hname : IsVariable name) (lines : List Line) (env : Environment) :
    (loadLines env lines).get? name = (env.get? name).or ((assignments env lines).lookup name) := by
  induction lines generalizing env with
  | nil => rw [loadLines, assignments, List.lookup_nil, Option.or_none]
  | cons line lines ih =>
    cases line with
    | unfinished => rw [loadLines, assignments, List.lookup_nil, Option.or_none]
    | text line =>
      rw [loadLines, assignments]
      cases hline : Statement.ofLine env.get? line with
      | nothing => exact ih env
      | malformed => rw [List.lookup_nil, Option.or_none]
      | assign target value =>
        have htarget := isVariable_of_ofLine hline
        dsimp only
        rw [ih, Environment.get?_setUnset htarget hname]
        by_cases heq : name = target
        · subst heq
          rw [if_pos rfl, List.lookup_cons_self, Option.or_assoc, Option.some_or]
        · rw [if_neg heq, List.lookup_cons, beq_eq_false_iff_ne.2 heq]

theorem isVariable_of_mem_assignments {lines : List Line}
    (h : (name, value) ∈ assignments env lines) : IsVariable name := by
  induction lines generalizing env with
  | nil => cases h
  | cons line lines ih =>
    cases line with
    | unfinished => cases h
    | text line =>
      rw [assignments] at h
      cases hline : Statement.ofLine env.get? line with
      | nothing =>
        rw [hline] at h
        exact ih h
      | malformed =>
        rw [hline] at h
        cases h
      | assign target first =>
        rw [hline, List.mem_cons] at h
        rcases h with heq | hmem
        · cases heq
          exact isVariable_of_ofLine hline
        · exact ih hmem

/-- A variable that was not set is first assigned a value that no entry can hold. -/
def AssignsUnfit (env : Environment) (assigned : List (String × String)) : Prop :=
  ∃ name value, env.get? name = none ∧ assigned.lookup name = some value ∧ '\x00' ∈ value.toList

/-- Once a variable is set, nothing else that is assigned to it counts. -/
theorem assignsUnfit_cons {assigned : List (String × String)} (hname : IsVariable name)
    (hvariables : ∀ assignment ∈ assigned, IsVariable assignment.1)
    (hfit : ¬(env.get? name = none ∧ '\x00' ∈ value.toList)) :
    AssignsUnfit env ((name, value) :: assigned) ↔
      AssignsUnfit (env.setUnset name value) assigned := by
  refine exists₂_congr fun other last => ?_
  by_cases heq : other = name
  · subst heq
    rw [List.lookup_cons_self, Environment.get?_setUnset hname hname, if_pos rfl]
    refine iff_of_false ?_ fun h => ?_
    · rintro ⟨hunset, ⟨⟩, hzero⟩
      exact hfit ⟨hunset, hzero⟩
    · have hset := h.1
      cases hget : env.get? other <;> simp [hget] at hset
  · rw [List.lookup_cons, beq_eq_false_iff_ne.2 heq]
    refine and_congr_left fun h => ?_
    obtain ⟨front, back, rfl, -⟩ := List.lookup_eq_some_iff.1 h.1
    have hother := hvariables (other, last) (List.mem_append_right _ List.mem_cons_self)
    rw [Environment.get?_setUnset hname hother, if_neg heq]

theorem isSome_unfit? (lines : List Line) (env : Environment) :
    (unfit? env lines).isSome ↔ AssignsUnfit env (assignments env lines) := by
  have hnone (env : Environment) : ¬AssignsUnfit env [] := by
    rintro ⟨_, _, -, hlookup, -⟩
    cases hlookup
  induction lines generalizing env with
  | nil => exact iff_of_false Bool.false_ne_true (hnone env)
  | cons line lines ih =>
    cases line with
    | unfinished => exact iff_of_false Bool.false_ne_true (hnone env)
    | text line =>
      rw [unfit?, assignments]
      cases hline : Statement.ofLine env.get? line with
      | nothing => exact ih env
      | malformed => exact iff_of_false Bool.false_ne_true (hnone env)
      | assign target value =>
        dsimp only
        split
        · next h => exact iff_of_true rfl ⟨target, value, h.1, List.lookup_cons_self, h.2⟩
        · next h =>
          have hvariables (assignment)
              (hmem : assignment ∈ assignments (env.setUnset target value) lines) :
              IsVariable assignment.1 := isVariable_of_mem_assignments hmem
          exact (ih _).trans (assignsUnfit_cons (isVariable_of_ofLine hline) hvariables h).symm

end EnvFile

end HostStatus
