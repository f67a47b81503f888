import HostStatus.Proofs.StringText
import Mathlib.Tactic.Common

/-!
# Records read back

`Fills` follows a draft along the members of an object: each names a field that is still empty and
reads back in it, up to one whose value is refused. If none is, the object is read as the record
that the last draft makes. One member is `bind_member`, and the members are taken by induction on
the way the draft is filled.
-/

namespace HostStatus.Json

/-- What stands behind the first of several texts. -/
def followers (texts : List (List Char)) : List Char :=
  texts.flatMap (',' :: ·)

theorem followers_cons (text : List Char) (texts : List (List Char)) :
    followers (text :: texts) = ',' :: (text ++ followers texts) := by
  simp [followers]

theorem separated_cons (text : List Char) (texts : List (List Char)) :
    separated (text :: texts) = text ++ followers texts := by
  induction texts generalizing text with
  | nil => simp [separated, followers]
  | cons next texts ih =>
    rw [separated, ih, followers_cons]
    exact List.cons_ne_nil _ _

theorem length_le_length_followers (texts : List (List Char)) :
    texts.length ≤ (followers texts).length := by
  induction texts with
  | nil => exact Nat.zero_le _
  | cons text texts ih =>
    rw [followers_cons]
    simp only [List.length_cons, List.length_append]
    omega

theorem length_memberTexts (members : List (String × Json)) :
    (memberTexts members).length = members.length := by
  induction members with
  | nil => rfl
  | cons member members ih =>
    rw [memberTexts, List.length_cons, List.length_cons, ih]

theorem FieldReader.ofOption_readsBack {δ β : Type} {key : String} {get : δ → Option β}
    {fill : δ → β → δ} {read : List Char → Except ReadError (Scanned β)} {j : Json} {value : β}
    (h : ReadsBack read j value) (draft : δ) :
    ReadsBack ((ofOption key get fill read).read draft) j (fill draft value) := by
  intro rest hrest
  dsimp only [ofOption]
  rw [h rest hrest]
  rfl

theorem FieldReader.ofOption_refuses {δ β : Type} {key : String} {get : δ → Option β}
    {fill : δ → β → δ} {read : List Char → Except ReadError (Scanned β)} {j : Json} {e : ReadError}
    (h : Refuses read j e) (draft : δ) :
    Refuses ((ofOption key get fill read).read draft) j e := by
  intro rest hrest
  dsimp only [ofOption]
  rw [h rest hrest]
  rfl

namespace RecordReader

variable {δ α : Type} {r : RecordReader δ α} {draft next final : δ} {key : String} {value : Json}
  {members : List (String × Json)} {outcome : Except ReadError δ} {rest : List Char} {x : α}
  {e : ReadError}

/-- The members are written into empty fields of the draft, which becomes another one unless a value
is refused. -/
inductive Fills (r : RecordReader δ α) : δ → List (String × Json) → Except ReadError δ → Prop where
  | nil (draft : δ) : Fills r draft [] (.ok draft)
  | cons {draft next : δ} {key : String} {value : Json} {members : List (String × Json)}
      {outcome : Except ReadError δ} (field : FieldReader δ)
      (hfind : r.fields.find? (·.key = key) = some field)
      (hempty : field.isFilled draft = false) (hread : ReadsBack (field.read draft) value next)
      (htail : Fills r next members outcome) : Fills r draft ((key, value) :: members) outcome
  | refuse {draft : δ} {key : String} {value : Json} {members : List (String × Json)}
      {e : ReadError} (field : FieldReader δ) (hfind : r.fields.find? (·.key = key) = some field)
      (hempty : field.isFilled draft = false) (hread : Refuses (field.read draft) value e) :
      Fills r draft ((key, value) :: members) (.error e)

theorem readMember_field {field : FieldReader δ}
    (hfind : r.fields.find? (·.key = key) = some field) (hempty : field.isFilled draft = false) :
    r.readMember key draft (':' :: (value.toChars ++ rest)) =
      field.read draft (value.toChars ++ rest) := by
  rw [readMember, hfind]
  dsimp only
  rw [hempty, if_neg Bool.false_ne_true]
  rfl

theorem readMembers_first (fuel : ℕ) (cs : List Char) :
    r.readMembers (fuel + 1) true draft ('"' :: cs) = (do
      let (key, cs) ← scanString cs
      let (draft, cs) ← r.readMember (String.ofList key) draft cs
      r.readMembers fuel false draft cs) := rfl

theorem readMembers_follower (fuel : ℕ) (cs : List Char) :
    r.readMembers (fuel + 1) false draft (',' :: '"' :: cs) = (do
      let (key, cs) ← scanString cs
      let (draft, cs) ← r.readMember (String.ofList key) draft cs
      r.readMembers fuel false draft cs) := rfl

theorem readMembers_closed (fuel : ℕ) (first : Bool) :
    r.readMembers (fuel + 1) first draft ('}' :: rest) = .ok (draft, rest) := rfl

theorem member_append (key : String) (value : Json) (rest : List Char) :
    quoteChars key.toList ++ ':' :: value.toChars ++ rest =
      '"' :: (key.toList.flatMap escapeChar ++ '"' :: ':' :: (value.toChars ++ rest)) := by
  simp [quoteChars]

/-- What is done with a member, once where it begins is found. -/
theorem bind_member {fuel : ℕ} {field : FieldReader δ}
    (hfind : r.fields.find? (·.key = key) = some field) (hempty : field.isFilled draft = false) :
    (do
      let (key, cs) ← scanString (key.toList.flatMap escapeChar ++ '"' :: ':' ::
        (value.toChars ++ rest))
      let (draft, cs) ← r.readMember (String.ofList key) draft cs
      r.readMembers fuel false draft cs) = (do
        let (draft, cs) ← field.read draft (value.toChars ++ rest)
        r.readMembers fuel false draft cs) := by
  rw [scanString_quoted]
  simp only [bind, Except.bind, String.ofList_toList, readMember_field hfind hempty]

theorem endsValue_followers (texts : List (List Char)) (rest : List Char) :
    EndsValue (followers texts ++ '}' :: rest) := by
  cases texts with
  | nil => exact endsValue_cons (.inr (.inl rfl)) rest
  | cons text texts =>
    rw [followers_cons]
    exact endsValue_cons (.inl rfl) _

theorem Fills.readMembers (h : r.Fills draft members outcome) (rest : List Char) {fuel : ℕ}
    (hfuel : members.length < fuel) :
    r.readMembers fuel false draft (followers (memberTexts members) ++ '}' :: rest) =
      outcome.map (·, rest) := by
  induction h generalizing fuel with
  | nil draft =>
    obtain ⟨fuel, rfl⟩ := Nat.exists_eq_succ_of_ne_zero (Nat.ne_zero_of_lt hfuel)
    exact readMembers_closed fuel false
  | cons field hfind hempty hread htail ih =>
    obtain ⟨fuel, rfl⟩ := Nat.exists_eq_succ_of_ne_zero (Nat.ne_zero_of_lt hfuel)
    rw [memberTexts, followers_cons, List.cons_append, List.append_assoc, member_append,
      readMembers_follower, bind_member hfind hempty, hread _ (endsValue_followers _ rest)]
    exact ih (by rw [List.length_cons] at hfuel; omega)
  | refuse field hfind hempty hread =>
    obtain ⟨fuel, rfl⟩ := Nat.exists_eq_succ_of_ne_zero (Nat.ne_zero_of_lt hfuel)
    rw [memberTexts, followers_cons, List.cons_append, List.append_assoc, member_append,
      readMembers_follower, bind_member hfind hempty, hread _ (endsValue_followers _ rest)]
    rfl

theorem Fills.readMembers_separated (h : r.Fills draft members outcome) (rest : List Char) :
    r.readMembers ((separated (memberTexts members) ++ '}' :: rest).length + 1) true draft
      (separated (memberTexts members) ++ '}' :: rest) = outcome.map (·, rest) := by
  cases h with
  | nil => exact readMembers_closed _ true
  | @cons _ _ _ _ followed _ field hfind hempty hread htail =>
    rw [memberTexts, separated_cons, List.append_assoc, member_append, readMembers_first,
      bind_member hfind hempty, hread _ (endsValue_followers _ rest)]
    apply htail.readMembers rest
    have hlength := length_le_length_followers (memberTexts followed)
    rw [length_memberTexts] at hlength
    simp only [List.length_cons, List.length_append]
    omega
  | refuse field hfind hempty hread =>
    rw [memberTexts, separated_cons, List.append_assoc, member_append, readMembers_first,
      bind_member hfind hempty, hread _ (endsValue_followers _ rest)]
    rfl

theorem Fills.read_object (h : r.Fills r.empty members outcome) (rest : List Char) :
    r.read ((object members).toChars ++ rest) =
      (do
        let draft ← outcome
        pure (← r.finish draft, rest)) := by
  rw [toChars, List.cons_append, List.cons_append, List.append_assoc, List.singleton_append,
    RecordReader.read, skipBlank_of_not_isBlank rfl]
  simp only [h.readMembers_separated rest]
  cases outcome <;> rfl

/-- An object is read as the record that its members fill. -/
theorem Fills.readsBack (h : r.Fills r.empty members (.ok final))
    (hfinish : r.finish final = .ok x) :
    ReadsBack r.read (.object members) x := by
  intro rest _
  rw [h.read_object rest]
  simp only [bind, Except.bind, hfinish, pure, Except.pure]

/-- An object with a member that is refused is refused. -/
theorem Fills.refuses (h : r.Fills r.empty members (.error e)) :
    Refuses r.read (.object members) e := fun rest _ => h.read_object rest

theorem readText_toText {j : Json} (h : ReadsBack r.read j x) : r.readText j.toText = .ok x := by
  have hread := h [] endsValue_nil
  rw [List.append_nil] at hread
  rw [readText, toText, String.toList_ofList, hread]
  rfl

theorem readText_refuses {j : Json} (h : Refuses r.read j e) : r.readText j.toText = .error e := by
  have hread := h [] endsValue_nil
  rw [List.append_nil] at hread
  rw [readText, toText, String.toList_ofList, hread]
  rfl

end RecordReader

end HostStatus.Json
