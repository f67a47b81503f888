import HostStatus.Http.Uri
import Mathlib.Data.List.TakeWhile

/-!
# Targets in writing

A target is shown as it is read, without its fragment, and what is shown reads back as the same
target. Only an absolute target can look different then: a scheme of the web is shown in small
letters, and an empty path as `/`. `ofHead` is what is read of the part before the query, and
`ofHead_cases` says that it stands there again unless the target is absolute.
-/

namespace HostStatus.Uri

variable {mark : Char} {cs front head scheme authority path : List Char} {query : Option String}

/-! ## Cutting -/

/-- What stands before the first number sign. -/
def withoutFragment (target : String) : String :=
  String.ofList (target.toList.takeWhile (· ≠ '#'))

theorem takeWhile_ne_of_not_mem (h : mark ∉ cs) : cs.takeWhile (· ≠ mark) = cs := by
  rw [List.takeWhile_eq_self_iff]
  exact fun c hc => decide_eq_true (ne_of_mem_of_not_mem hc h)

theorem not_mem_takeWhile_ne (mark : Char) (cs : List Char) : mark ∉ cs.takeWhile (· ≠ mark) :=
  fun h => of_decide_eq_true (List.mem_takeWhile_imp (p := (· ≠ mark)) h) rfl

theorem cut_of_not_mem (h : mark ∉ cs) : cut mark cs = (cs, none) := by
  have hdrop : cs.dropWhile (· ≠ mark) = [] := by
    rw [List.dropWhile_eq_nil_iff]
    exact fun c hc => decide_eq_true (ne_of_mem_of_not_mem hc h)
  rw [cut, hdrop]

theorem cut_append (h : mark ∉ front) (rest : List Char) :
    cut mark (front ++ mark :: rest) = (front, some rest) := by
  have hfront : ∀ c ∈ front, decide (c ≠ mark) = true :=
    fun c hc => decide_eq_true (ne_of_mem_of_not_mem hc h)
  rw [cut, List.dropWhile_append_of_pos hfront, List.takeWhile_append_of_pos hfront]
  simp

theorem takeWhile_append_mark (h : mark ∉ front) (rest : List Char) :
    (front ++ mark :: rest).takeWhile (· ≠ mark) = front := by
  rw [List.takeWhile_append_of_pos fun c hc => decide_eq_true (ne_of_mem_of_not_mem hc h)]
  simp

/-- A text is cut at the mark if it has one. -/
theorem cut_cases (mark : Char) (cs : List Char) :
    mark ∉ cs ∧ cut mark cs = (cs, none) ∨
      ∃ front rest, mark ∉ front ∧ cs = front ++ mark :: rest ∧
        cut mark cs = (front, some rest) := by
  by_cases h : mark ∈ cs
  · obtain ⟨front, rest, rfl, hfront⟩ := List.eq_append_cons_of_mem h
    exact .inr ⟨front, rest, hfront, rfl, cut_append hfront rest⟩
  · exact .inl ⟨h, cut_of_not_mem h⟩

theorem cut_takeWhile (cs : List Char) (mark : Char) :
    (cut mark cs).1 = cs.takeWhile (· ≠ mark) := by
  rcases cut_cases mark cs with ⟨h, hcut⟩ | ⟨front, rest, hfront, rfl, hcut⟩
  · rw [hcut, takeWhile_ne_of_not_mem h]
  · rw [hcut, takeWhile_append_mark hfront]

/-! ## The part before the query -/

/-- What is read of a target whose query was cut off. -/
def ofHead (head : List Char) (query : Option String) : Uri :=
  match head with
  | '/' :: _ | ['*'] => ⟨none, none, String.ofList head, query⟩
  | _ =>
    match cutScheme? head with
    | some (scheme, rest) =>
      ⟨some (schemeName scheme), some (String.ofList (rest.takeWhile (· ≠ '/'))),
        match rest.dropWhile (· ≠ '/') with
        | [] => "/"
        | path => String.ofList path,
        query⟩
    | none => ⟨none, some (String.ofList head), "", query⟩

theorem parse_eq_ofHead (target : String) :
    parse target =
      ofHead (cut '?' (withoutFragment target).toList).1
        ((cut '?' (withoutFragment target).toList).2.map String.ofList) := by
  rw [withoutFragment, String.toList_ofList, ← cut_takeWhile]
  rfl

/-- What is shown in front of the query. -/
def headChars (u : Uri) : List Char :=
  (u.scheme.elim [] fun scheme => scheme.toList ++ [':', '/', '/']) ++
    (u.authority.getD "").toList ++ u.path.toList

def queryChars (query : Option String) : List Char :=
  query.elim [] fun query => '?' :: query.toList

theorem toList_toText (u : Uri) : u.toText.toList = u.headChars ++ queryChars u.query := by
  obtain ⟨scheme, authority, path, query⟩ := u
  cases scheme <;> cases query <;> simp [toText, headChars, queryChars]

/-- A scheme of the web keeps its small letters, any other is kept. -/
theorem schemeName_cases (scheme : List Char) :
    schemeName scheme = "http" ∨ schemeName scheme = "https" ∨
      schemeName scheme = String.ofList scheme := by
  unfold schemeName
  dsimp only
  split_ifs with h
  · exact h.imp id .inl
  · exact .inr (.inr rfl)

theorem schemeName_schemeName (scheme : List Char) :
    schemeName (schemeName scheme).toList = schemeName scheme := by
  rcases schemeName_cases scheme with h | h | h
  · rw [h]
    decide +kernel
  · rw [h]
    decide +kernel
  · rw [h, String.toList_ofList, h]

theorem isSchemeChar_of_mem_schemeName (h : ∀ c ∈ scheme, isSchemeChar c = true) :
    ∀ c ∈ (schemeName scheme).toList, isSchemeChar c = true := by
  rcases schemeName_cases scheme with heq | heq | heq
  · rw [heq, ← List.all_eq_true]
    decide
  · rw [heq, ← List.all_eq_true]
    decide
  · rwa [heq, String.toList_ofList]

theorem cutScheme?_append (h : ∀ c ∈ scheme, isSchemeChar c = true) (rest : List Char) :
    cutScheme? (scheme ++ ':' :: '/' :: '/' :: rest) = some (scheme, rest) := by
  have hcolon : isSchemeChar ':' = false := by decide
  rw [cutScheme?, List.dropWhile_append_of_pos h, List.takeWhile_append_of_pos h,
    List.dropWhile_cons_of_neg (by simp [hcolon])]
  simp [hcolon]

theorem cutScheme?_eq_some {rest : List Char} (h : cutScheme? cs = some (scheme, rest)) :
    (∀ c ∈ scheme, isSchemeChar c = true) ∧ cs = scheme ++ ':' :: '/' :: '/' :: rest := by
  have hsplit := List.takeWhile_append_dropWhile (p := isSchemeChar) (l := cs)
  unfold cutScheme? at h
  split at h
  · next hdrop =>
    obtain ⟨rfl, rfl⟩ := Prod.mk.inj (Option.some.inj h)
    rw [hdrop] at hsplit
    exact ⟨fun c hc => List.mem_takeWhile_imp hc, hsplit.symm⟩
  · cases h

/-- What begins with a scheme is neither a path nor the lone asterisk. -/
theorem ofHead_scheme (hscheme : ∀ c ∈ scheme, isSchemeChar c = true) (rest : List Char)
    (query : Option String) :
    ofHead (scheme ++ ':' :: '/' :: '/' :: rest) query =
      ⟨some (schemeName scheme), some (String.ofList (rest.takeWhile (· ≠ '/'))),
        match rest.dropWhile (· ≠ '/') with
        | [] => "/"
        | path => String.ofList path,
        query⟩ := by
  unfold ofHead
  split
  · next tail heq =>
    exfalso
    cases scheme with
    | nil => cases heq
    | cons c scheme =>
      obtain ⟨rfl, -⟩ := List.cons.inj heq
      exact absurd (hscheme '/' List.mem_cons_self) (by decide)
  · next heq =>
    have hlength := congrArg List.length heq
    simp only [List.length_append, List.length_cons, List.length_nil] at hlength
    omega
  · rw [cutScheme?_append hscheme]

theorem ofHead_absolute (hscheme : ∀ c ∈ scheme, isSchemeChar c = true)
    (hauthority : '/' ∉ authority)
    (path : List Char) (query : Option String) :
    ofHead (scheme ++ ':' :: '/' :: '/' :: (authority ++ '/' :: path)) query =
      ⟨some (schemeName scheme), some (String.ofList authority), String.ofList ('/' :: path),
        query⟩ := by
  have hplain : ∀ c ∈ authority, decide (c ≠ '/') = true :=
    fun c hc => decide_eq_true (ne_of_mem_of_not_mem hc hauthority)
  have hdrop : (authority ++ '/' :: path).dropWhile (· ≠ '/') = '/' :: path := by
    rw [List.dropWhile_append_of_pos hplain]
    simp
  rw [ofHead_scheme hscheme, takeWhile_append_mark hauthority, hdrop]

/-- A target is shown as it is, or it is absolute and has a path when it is shown. -/
theorem ofHead_cases (head : List Char) (query : Option String) :
    (ofHead head query).query = query ∧
      ((ofHead head query).scheme = none ∧ (ofHead head query).headChars = head ∨
        ∃ scheme authority path, (∀ c ∈ scheme, isSchemeChar c = true) ∧ '/' ∉ authority ∧
          (head = scheme ++ ':' :: '/' :: '/' :: (authority ++ '/' :: path) ∨
            head = scheme ++ ':' :: '/' :: '/' :: authority ∧ path = []) ∧
          ofHead head query =
            ⟨some (schemeName scheme), some (String.ofList authority), String.ofList ('/' :: path),
              query⟩) := by
  by_cases habsolute : ∃ scheme rest, (∀ c ∈ scheme, isSchemeChar c = true) ∧
      head = scheme ++ ':' :: '/' :: '/' :: rest
  · obtain ⟨scheme, rest, hscheme, rfl⟩ := habsolute
    rw [ofHead_scheme hscheme]
    refine ⟨rfl, .inr ?_⟩
    by_cases hslash : '/' ∈ rest
    · obtain ⟨authority, path, rfl, hauthority⟩ := List.eq_append_cons_of_mem hslash
      refine ⟨scheme, authority, path, hscheme, hauthority, .inl rfl, ?_⟩
      rw [← ofHead_scheme hscheme, ofHead_absolute hscheme hauthority]
    · have hdrop : rest.dropWhile (· ≠ '/') = [] := by
        rw [List.dropWhile_eq_nil_iff]
        exact fun c hc => decide_eq_true (ne_of_mem_of_not_mem hc hslash)
      refine ⟨scheme, rest, [], hscheme, hslash, .inr ⟨rfl, rfl⟩, ?_⟩
      rw [takeWhile_ne_of_not_mem hslash, hdrop]
  · unfold ofHead
    split
    · exact ⟨rfl, .inl ⟨rfl, String.toList_ofList⟩⟩
    · exact ⟨rfl, .inl ⟨rfl, by simp [headChars]⟩⟩
    · split
      · next scheme rest hcut => exact absurd ⟨scheme, rest, cutScheme?_eq_some hcut⟩ habsolute
      · refine ⟨rfl, .inl ⟨rfl, ?_⟩⟩
        simp [headChars]

/-- What is shown of a target in front of its query has no mark that was not there. -/
theorem not_mem_headChars (hscheme : isSchemeChar mark = false) (hcolon : mark ≠ ':')
    (hslash : mark ≠ '/') (h : mark ∉ head) (query : Option String) :
    mark ∉ (ofHead head query).headChars := by
  obtain ⟨-, ⟨-, hsame⟩ | ⟨scheme, authority, path, hchars, -, hhead, heq⟩⟩ :=
    ofHead_cases head query
  · rwa [hsame]
  · have hname : mark ∉ (schemeName scheme).toList := fun hmem => by
      rw [isSchemeChar_of_mem_schemeName hchars mark hmem] at hscheme
      cases hscheme
    rw [heq]
    rcases hhead with rfl | ⟨rfl, rfl⟩ <;> simp_all [headChars]

/-- What is shown in front of the query is read as what was read before. -/
theorem ofHead_headChars (head : List Char) (query : Option String) :
    ofHead (ofHead head query).headChars query = ofHead head query := by
  obtain ⟨-, ⟨-, hsame⟩ | ⟨scheme, authority, path, hscheme, hauthority, -, heq⟩⟩ :=
    ofHead_cases head query
  · rw [hsame]
  · have hshown : (ofHead head query).headChars =
        (schemeName scheme).toList ++ ':' :: '/' :: '/' :: (authority ++ '/' :: path) := by
      rw [heq]
      simp [headChars]
    rw [hshown, ofHead_absolute (isSchemeChar_of_mem_schemeName hscheme) hauthority,
      schemeName_schemeName, heq]

/-! ## Whole targets -/

theorem not_mem_withoutFragment (target : String) : '#' ∉ (withoutFragment target).toList := by
  rw [withoutFragment, String.toList_ofList]
  exact not_mem_takeWhile_ne _ _

theorem withoutFragment_of_not_mem {target : String} (h : '#' ∉ target.toList) :
    withoutFragment target = target := by
  rw [withoutFragment, takeWhile_ne_of_not_mem h, String.ofList_toList]

theorem parse_withoutFragment (target : String) :
    parse (withoutFragment target) = parse target := by
  rw [parse_eq_ofHead, parse_eq_ofHead target,
    withoutFragment_of_not_mem (not_mem_withoutFragment target)]

/-- A text is read as its part before the first question mark and what follows that. -/
theorem parse_of_toList_eq {target : String} (hfragment : '#' ∉ target.toList) (hhead : '?' ∉ head)
    (h : target.toList = head ++ queryChars query) : parse target = ofHead head query := by
  rw [parse_eq_ofHead, withoutFragment_of_not_mem hfragment, h]
  cases query with
  | none => rw [queryChars, Option.elim_none, List.append_nil, cut_of_not_mem hhead,
      Option.map_none]
  | some query =>
    rw [queryChars, Option.elim_some, cut_append hhead, Option.map_some, String.ofList_toList]

theorem exists_head_query (cs : List Char) :
    ∃ head query, '?' ∉ head ∧ cs = head ++ queryChars query := by
  rcases cut_cases '?' cs with ⟨hcs, -⟩ | ⟨head, query, hhead, rfl, -⟩
  · exact ⟨cs, none, hcs, (List.append_nil cs).symm⟩
  · exact ⟨head, some (String.ofList query), hhead, by simp [queryChars]⟩

/-- What is shown of a target has no fragment and is read as the target; if the target is not
absolute, it is what stands before the fragment. -/
theorem toText_parse (target : String) :
    '#' ∉ (parse target).toText.toList ∧ parse (parse target).toText = parse target ∧
      ((parse target).scheme = none → (parse target).toText = withoutFragment target) := by
  obtain ⟨head, query, hhead, hsplit⟩ := exists_head_query (withoutFragment target).toList
  have hplain := not_mem_withoutFragment target
  have hparse : parse target = ofHead head query := by
    rw [← parse_withoutFragment, parse_of_toList_eq hplain hhead hsplit]
  rw [hsplit, List.mem_append, not_or] at hplain
  obtain ⟨hquery, hcases⟩ := ofHead_cases head query
  have hshown :
      (parse target).toText.toList = (ofHead head query).headChars ++ queryChars query := by
    rw [toList_toText, hparse, hquery]
  have hmark : '#' ∉ (parse target).toText.toList := by
    rw [hshown, List.mem_append, not_or]
    exact ⟨not_mem_headChars (by decide) (by decide) (by decide) hplain.1 query, hplain.2⟩
  refine ⟨hmark, ?_, fun hscheme => ?_⟩
  · have hquestion : '?' ∉ (ofHead head query).headChars :=
      not_mem_headChars (by decide) (by decide) (by decide) hhead query
    rw [parse_of_toList_eq hmark hquestion hshown, ofHead_headChars, hparse]
  · apply String.toList_injective
    rw [hshown, hsplit]
    rcases hcases with ⟨-, hsame⟩ | ⟨scheme, authority, path, -, -, -, habsolute⟩
    · rw [hsame]
    · rw [hparse, habsolute] at hscheme
      cases hscheme

/-- What stands behind an authority, with a path if there was none. -/
def withPath (behind : List Char) : List Char :=
  if behind.head? = some '/' then behind else '/' :: behind

/-- What is shown of an absolute target is what stands before the fragment, but that a scheme of the
web is in small letters and that there is a path. -/
theorem toText_parse_absolute {target name : String} (h : (parse target).scheme = some name) :
    ∃ scheme authority behind : List Char,
      (withoutFragment target).toList = scheme ++ ':' :: '/' :: '/' :: (authority ++ behind) ∧
      '/' ∉ authority ∧ '?' ∉ authority ∧ name = schemeName scheme ∧
      (parse target).toText.toList =
        name.toList ++ ':' :: '/' :: '/' :: (authority ++ withPath behind) := by
  obtain ⟨head, query, hhead, hsplit⟩ := exists_head_query (withoutFragment target).toList
  have hparse : parse target = ofHead head query := by
    rw [← parse_withoutFragment, parse_of_toList_eq (not_mem_withoutFragment target) hhead hsplit]
  obtain ⟨hquery, ⟨hscheme, -⟩ | ⟨scheme, authority, path, -, hauthority, hform, heq⟩⟩ :=
    ofHead_cases head query
  · rw [hparse, hscheme] at h
    cases h
  rw [hparse, heq] at h
  obtain rfl : schemeName scheme = name := Option.some.inj h
  have hshown : (parse target).toText.toList =
      (schemeName scheme).toList ++ ':' :: '/' :: '/' :: (authority ++ '/' :: path) ++
        queryChars query := by
    rw [toList_toText, hparse, heq]
    simp [headChars]
  rcases hform with rfl | ⟨rfl, rfl⟩
  · refine ⟨scheme, authority, '/' :: path ++ queryChars query, ?_, hauthority, ?_, rfl, ?_⟩
    · rw [hsplit]
      simp
    · simp only [List.mem_append, List.mem_cons, not_or] at hhead
      exact hhead.2.2.2.2.1
    · rw [hshown, withPath, List.cons_append, if_pos List.head?_cons]
      simp
  · refine ⟨scheme, authority, queryChars query, ?_, hauthority, ?_, rfl, ?_⟩
    · rw [hsplit]
      simp
    · simp only [List.mem_append, List.mem_cons, not_or] at hhead
      exact hhead.2.2.2.2
    · have hnone : (queryChars query).head? ≠ some '/' := by
        cases query <;> simp [queryChars]
      rw [hshown, withPath, if_neg hnone]
      simp

end HostStatus.Uri
