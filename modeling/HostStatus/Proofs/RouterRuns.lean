import HostStatus.Proofs.RouterReply
import Mathlib.Data.List.Basic
import Mathlib.Data.Nat.Notation

/-!
# Runs of the router

Over a whole run the collector is asked once for each request that makes it run, in their order, and
nothing of its outcomes is kept. `Leads s k t` says that the script `t` is what `s` has become after
`k` outcomes were taken. One request is `leads_step`, a run is `leads_run`, and by the same
induction each reply is the one to its request alone under the outcome whose number is the count of
such requests before it.
-/

namespace HostStatus

open Router

namespace Script

variable {settings : Settings} {ticket : Ticket} {request : Request} {s t u : Script}
  {requests front back : List (Ticket × Request)} {i k l n : ℕ}

/-- The outcomes to come, from number zero on; the last repeats. -/
def outcome (s : Script) (n : ℕ) : Outcome :=
  (s.next :: s.later).getD n (s.later.getLastD s.next)

/-- The replies to some requests, and what is left of the script. -/
def run (settings : Settings) (requests : List (Ticket × Request)) (s : Script) :
    List Reply × Script :=
  Id.run (StateT.run (serve settings requests) s)

/-- How many of the first `i` requests make the collector run. -/
def collected (requests : List (Ticket × Request)) (i : ℕ) : ℕ :=
  (requests.take i).countP (·.2.collects)

/-! ## The script -/

structure Leads (s : Script) (k : ℕ) (t : Script) : Prop where
  taken : t.taken = s.taken + k
  outcome : ∀ n, t.outcome n = s.outcome (k + n)

theorem Leads.refl (s : Script) : s.Leads 0 s :=
  ⟨rfl, fun n => by rw [Nat.zero_add]⟩

theorem Leads.trans (h : s.Leads k t) (h' : t.Leads l u) : s.Leads (k + l) u where
  taken := by rw [h'.taken, h.taken, Nat.add_assoc]
  outcome n := by rw [h'.outcome, h.outcome, Nat.add_assoc]

theorem outcome_zero (s : Script) : s.outcome 0 = s.next := rfl

theorem take_fst (s : Script) : (Script.take s).1 = s.next := by
  unfold Script.take
  split <;> rfl

theorem leads_take (s : Script) : s.Leads 1 (Script.take s).2 := by
  obtain ⟨next, later, taken⟩ := s
  cases later with
  | nil =>
    refine ⟨rfl, fun n => ?_⟩
    cases n <;> simp [outcome, Script.take]
  | cons o later =>
    refine ⟨rfl, fun n => ?_⟩
    simp only [outcome, Script.take, Nat.add_comm 1 n, List.getD_cons_succ, List.getLastD_cons]

/-! ## One request -/

theorem answer_run (settings : Settings) (ticket : Ticket) (request : Request) (s : Script) :
    (answer Script.take settings ticket request).run s =
      (replyTo settings ticket request (s.outcome 0),
        if request.collects then (Script.take s).2 else s) := by
  cases h : request.collects with
  | true =>
    rw [answer_of_collects h, outcome_zero, ← take_fst s]
    rfl
  | false =>
    rw [answer_of_not_collects h, replyTo_of_not_collects h]
    rfl

theorem run_cons (settings : Settings) (ticket : Ticket) (request : Request)
    (requests : List (Ticket × Request)) (s : Script) :
    run settings ((ticket, request) :: requests) s =
      let rest := run settings requests (if request.collects then (Script.take s).2 else s)
      (replyTo settings ticket request (s.outcome 0) :: rest.1, rest.2) := by
  have hstep := answer_run settings ticket request s
  rw [run, serve, List.mapM_cons]
  simp only [StateT.run_bind, hstep]
  rfl

theorem leads_step (request : Request) (s : Script) :
    s.Leads (if request.collects then 1 else 0)
      (if request.collects then (Script.take s).2 else s) := by
  split
  · exact leads_take s
  · exact .refl s

/-! ## A whole run -/

theorem leads_run (settings : Settings) (requests : List (Ticket × Request)) (s : Script) :
    s.Leads (requests.countP (·.2.collects)) (run settings requests s).2 := by
  induction requests generalizing s with
  | nil => exact .refl s
  | cons x requests ih =>
    obtain ⟨ticket, request⟩ := x
    have hleads := (leads_step request s).trans (ih _)
    rw [run_cons, List.countP_cons, Nat.add_comm]
    exact hleads

theorem collected_cons (x : Ticket × Request) (requests : List (Ticket × Request)) (i : ℕ) :
    collected (x :: requests) (i + 1) =
      (if x.2.collects then 1 else 0) + collected requests i := by
  rw [collected, List.take_succ_cons, List.countP_cons, Nat.add_comm]
  rfl

/-- Each reply is the one to its request alone. -/
theorem run_getElem? (settings : Settings) (requests : List (Ticket × Request)) (s : Script)
    (i : ℕ) :
    (run settings requests s).1[i]? = requests[i]?.map fun x =>
      replyTo settings x.1 x.2 (s.outcome (collected requests i)) := by
  induction requests generalizing s i with
  | nil => rfl
  | cons x requests ih =>
    obtain ⟨ticket, request⟩ := x
    rw [run_cons]
    cases i with
    | zero => rfl
    | succ i =>
      have hleads := leads_step request s
      dsimp only
      rw [List.getElem?_cons_succ, List.getElem?_cons_succ, ih, hleads.outcome, collected_cons]

theorem length_run (settings : Settings) (requests : List (Ticket × Request)) (s : Script) :
    (run settings requests s).1.length = requests.length := by
  induction requests generalizing s with
  | nil => rfl
  | cons x requests ih =>
    obtain ⟨ticket, request⟩ := x
    rw [run_cons, List.length_cons, List.length_cons, ih]

theorem run_append (settings : Settings) (front back : List (Ticket × Request)) (s : Script) :
    run settings (front ++ back) s =
      let first := run settings front s
      let rest := run settings back first.2
      (first.1 ++ rest.1, rest.2) := by
  induction front generalizing s with
  | nil => rfl
  | cons x front ih =>
    obtain ⟨ticket, request⟩ := x
    rw [List.cons_append, run_cons, run_cons, ih]
    rfl

/-- The other replies close up where the collector does not run. -/
theorem run_insert (h : request.collects = false) (front back : List (Ticket × Request))
    (s : Script) :
    (run settings (front ++ (ticket, request) :: back) s).1 =
      (run settings (front ++ back) s).1.take front.length ++
        refusal request :: (run settings (front ++ back) s).1.drop front.length := by
  have hlength := length_run settings front s
  rw [run_append, run_append]
  dsimp only
  rw [run_cons, h, replyTo_of_not_collects h, if_neg Bool.false_ne_true, List.take_left' hlength,
    List.drop_left' hlength]

theorem run_withoutQuery (settings : Settings) (requests : List (Ticket × Request)) (s : Script) :
    run settings (requests.map fun x => (x.1, x.2.withoutQuery)) s = run settings requests s := by
  induction requests generalizing s with
  | nil => rfl
  | cons x requests ih =>
    obtain ⟨ticket, request⟩ := x
    rw [List.map_cons, run_cons, run_cons, ih]
    rfl

/-- Whatever the script, the settings and the requests are: the collector has run once for each
request so far that is for a resource, each of these is answered from the outcome of its own run,
every other one is refused and leaves no trace, and no reply depends on a query, on requests that
are refused or on the outcomes of other runs. -/
theorem run_isolates_requests (settings : Settings) (s : Script)
    (requests : List (Ticket × Request)) :
    (∀ i, (run settings (requests.take i) s).2.taken = s.taken + collected requests i) ∧
    (∀ i ticket request, requests[i]? = some (ticket, request) →
      ∃ reply, (run settings requests s).1[i]? = some reply ∧
        if request.collects then
          reply = replyTo settings ticket request (s.outcome (collected requests i)) ∧
            ∃ r, Resource.ofPath? request.uri.path = some r ∧
              match s.outcome (collected requests i) with
              | .snapshot snapshot =>
                reply.response.status = 200 ∧
                  reply.response.body =
                    if request.method = "GET" then r.text settings snapshot else ""
              | _ => reply.response.status = 500
        else
          reply = refusal request ∧ reply.log = [] ∧
            reply.response.status = if request.namesResource then 405 else 404) ∧
    (∀ front back ticket request, requests = front ++ back → request.collects = false →
      (run settings (front ++ (ticket, request) :: back) s).1 =
        (run settings requests s).1.take front.length ++
          refusal request :: (run settings requests s).1.drop front.length) ∧
    (∀ others : List (Ticket × Request),
      (others.map fun x => (x.1, x.2.withoutQuery)) =
        (requests.map fun x => (x.1, x.2.withoutQuery)) →
      run settings others s = run settings requests s) ∧
    (∀ (t : Script) j, (∀ n, n ≠ j → t.outcome n = s.outcome n) →
      ∀ i x, requests[i]? = some x → (x.2.collects = true → collected requests i ≠ j) →
        (run settings requests t).1[i]? = (run settings requests s).1[i]?) := by
  refine ⟨fun i => (leads_run settings _ s).taken, fun i ticket request hi => ?_, ?_, ?_, ?_⟩
  · have hreply := run_getElem? settings requests s i
    rw [hi, Option.map_some] at hreply
    refine ⟨_, hreply, ?_⟩
    split
    · next h => exact ⟨rfl, replyTo_spec h settings ticket _⟩
    · next h =>
      have h' := Bool.eq_false_iff.2 h
      dsimp only
      rw [replyTo_of_not_collects h']
      exact ⟨rfl, refusal_spec request⟩
  · rintro front back ticket request rfl h
    exact run_insert h front back s
  · intro others h
    rw [← run_withoutQuery, h, run_withoutQuery]
  · intro t j houtcome i x hi hx
    rw [run_getElem?, run_getElem?, hi, Option.map_some, Option.map_some]
    cases h : x.2.collects with
    | true => rw [houtcome _ (hx h)]
    | false => rw [replyTo_of_not_collects h, replyTo_of_not_collects h]

/-- A run that begins with a panic, refuses the second request and goes on. -/
theorem run_isolates_requests_after_panic :
    ∃ (s t : Script) (index post head other : Ticket × Request),
      s.next = .panicked "boom" ∧ t.next = .failed .noMemory ∧
      (run {} [index, post, head] s).2.taken = 2 ∧
      (run {} [index, post, head] s).1[0]?.map (·.response.status) = some 500 ∧
      (run {} [index, post, head] s).1[1]?.map (·.response.status) = some 405 ∧
      (run {} [index, post, head] s).1[2]?.map (·.response.status) = some 200 ∧
      (run {} [index, post, other, head] s).1 =
        (run {} [index, post, head] s).1.take 2 ++
          refusal other.2 :: (run {} [index, post, head] s).1.drop 2 ∧
      run {} [index, post, (head.1, head.2.withoutQuery)] s = run {} [index, post, head] s ∧
      (run {} [index, post, head] t).1[2]? = (run {} [index, post, head] s).1[2]? := by
  let snapshot : Snapshot := ⟨"Linux", .ofNat 0, ⟨3, 2, .ofNat 50⟩, ⟨4, 1, .ofNat 25⟩⟩
  let s : Script := ⟨.panicked "boom", [.snapshot snapshot], 0⟩
  let t : Script := ⟨.failed .noMemory, [.snapshot snapshot], 0⟩
  let index : Ticket × Request := (⟨"a", "1"⟩, ⟨"GET", ⟨none, none, "/", none⟩⟩)
  let post : Ticket × Request := (⟨"b", "2"⟩, ⟨"POST", ⟨none, none, "/", none⟩⟩)
  let head : Ticket × Request := (⟨"c", "3"⟩, ⟨"HEAD", ⟨none, none, "/api/stats", some "x"⟩⟩)
  let other : Ticket × Request := (⟨"d", "4"⟩, ⟨"GET", ⟨none, none, "/nope", none⟩⟩)
  obtain ⟨htaken, hreply, hinsert, hquery, houtcome⟩ :=
    run_isolates_requests {} s [index, post, head]
  obtain ⟨reply₀, hreply₀, hindex⟩ := hreply 0 index.1 index.2 rfl
  obtain ⟨reply₁, hreply₁, hpost⟩ := hreply 1 post.1 post.2 rfl
  obtain ⟨reply₂, hreply₂, hhead⟩ := hreply 2 head.1 head.2 rfl
  rw [if_pos (by decide)] at hindex hhead
  rw [if_neg (by decide)] at hpost
  obtain ⟨_, _, _, hpanicked⟩ := hindex
  obtain ⟨_, _, _, hshown, _⟩ := hhead
  refine ⟨s, t, index, post, head, other, rfl, rfl, htaken 3, ?_, ?_, ?_,
    hinsert [index, post] [head] other.1 other.2 rfl (by decide),
    hquery [index, post, (head.1, head.2.withoutQuery)] rfl, ?_⟩
  · rw [hreply₀]
    exact congrArg some hpanicked
  · rw [hreply₁]
    exact congrArg some hpost.2.2
  · rw [hreply₂]
    exact congrArg some hshown
  · refine houtcome t 0 (fun n hn => ?_) 2 head rfl (fun _ => by decide)
    obtain ⟨n, rfl⟩ := Nat.exists_eq_succ_of_ne_zero hn
    rfl

end Script

end HostStatus
