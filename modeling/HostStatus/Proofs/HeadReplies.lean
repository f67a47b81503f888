import HostStatus.Proofs.RouterRuns
import HostStatus.Proofs.Utf8Text

/-!
# Replies without a body

The reply to `HEAD` is the one to `GET` with its body left out, and nothing else is done otherwise:
`answer_head` says so for whatever the collector does, so that it runs for one exactly if it runs
for the other. Hence the length that a header states is that of a body which `HEAD` does not get. It
counts bytes, and each reply from a resource states it once.
-/

namespace HostStatus

variable {settings : Settings} {ticket : Ticket} {request : Request} {outcome : Outcome}

namespace Response

/-- The values of all headers of that name. -/
def values (r : Response) (name : String) : List String :=
  (r.headers.filter (·.1 = name)).map (·.2)

theorem values_setHeader (r : Response) (name value : String) :
    (r.setHeader name value).values name = [value] := by
  have hnone : (r.headers.filter (·.1 ≠ name)).filter (·.1 = name) = [] := by
    rw [List.filter_filter, List.filter_eq_nil_iff]
    simp
  simp only [values, setHeader, List.filter_append, hnone]
  simp

/-- The length that is stated is the count of bytes that the body is sent as. -/
theorem values_measured (r : Response) :
    r.measured.values "content-length" = [toString (Text.toUtf8 r.body).length] := by
  rw [measured, values_setHeader, Text.length_toUtf8]

end Response

def Reply.withoutBody (reply : Reply) : Reply :=
  { reply with response := reply.response.withoutBody }

theorem Resource.exists_measured (r : Resource) (settings : Settings) (ticket : Ticket)
    (outcome : Outcome) :
    ∃ plain : Response, (r.reply settings ticket outcome).response = plain.measured := by
  rcases outcome.snapshot?_cases ticket with ⟨s, rfl⟩ | ⟨fault, hfault⟩
  · cases r <;> exact ⟨_, rfl⟩
  · rw [reply_fault hfault]
    exact ⟨_, rfl⟩

namespace Router

theorem collects_get_or_head (uri : Uri) {method : String} (h : method = "GET" ∨ method = "HEAD") :
    (⟨method, uri⟩ : Request).collects = (⟨"GET", uri⟩ : Request).namesResource := by
  rcases h with rfl | rfl <;> exact Bool.and_true _

theorem refusal_withoutBody (h : (⟨"GET", request.uri⟩ : Request).namesResource = false) :
    (refusal request).withoutBody = refusal request := by
  have hnames : request.namesResource = false := h
  rw [refusal, hnames, if_neg Bool.false_ne_true]
  split <;> rfl

/-- The collector is asked in the same way, and what comes of it loses its body. -/
theorem answer_head {m : Type → Type} [Monad m] [LawfulMonad m] (collect : m Outcome)
    (settings : Settings) (ticket : Ticket) (uri : Uri) :
    answer collect settings ticket ⟨"HEAD", uri⟩ =
      Reply.withoutBody <$> answer collect settings ticket ⟨"GET", uri⟩ := by
  have hhead := collects_get_or_head uri (.inr rfl)
  have hget := collects_get_or_head uri (.inl rfl)
  cases hnames : (⟨"GET", uri⟩ : Request).namesResource with
  | false =>
    rw [hnames] at hhead hget
    have hsame : refusal ⟨"HEAD", uri⟩ = refusal ⟨"GET", uri⟩ := rfl
    rw [answer_of_not_collects hhead, answer_of_not_collects hget, map_pure, hsame,
      refusal_withoutBody hnames]
  | true =>
    rw [hnames] at hhead hget
    rw [answer_of_collects hhead, answer_of_collects hget, ← comp_map]
    congr 1
    funext outcome
    obtain ⟨r, hr, hreply⟩ := replyTo_of_collects hhead settings ticket outcome
    obtain ⟨r', hr', hreply'⟩ := replyTo_of_collects hget settings ticket outcome
    obtain rfl : r = r' := Option.some.inj (hr.symm.trans hr')
    rw [Function.comp_apply, hreply, hreply', if_neg (show ¬"HEAD" = "GET" by decide), if_pos rfl]
    rfl

theorem replyTo_head (settings : Settings) (ticket : Ticket) (uri : Uri) (outcome : Outcome) :
    replyTo settings ticket ⟨"HEAD", uri⟩ outcome =
      (replyTo settings ticket ⟨"GET", uri⟩ outcome).withoutBody := by
  rw [replyTo, answer_head]
  rfl

/-- For the page, the statistics and the report of a fault alike. -/
theorem values_replyTo_get (uri : Uri) (h : (⟨"GET", uri⟩ : Request).namesResource = true)
    (settings : Settings) (ticket : Ticket) (outcome : Outcome) :
    (replyTo settings ticket ⟨"GET", uri⟩ outcome).response.values "content-length" =
      [toString
        (Text.toUtf8 (replyTo settings ticket ⟨"GET", uri⟩ outcome).response.body).length] := by
  have hget := collects_get_or_head uri (.inl rfl)
  rw [h] at hget
  obtain ⟨r, -, hreply⟩ := replyTo_of_collects hget settings ticket outcome
  obtain ⟨plain, hplain⟩ := r.exists_measured settings ticket outcome
  rw [hreply, if_pos rfl, hplain, plain.values_measured]
  rfl

/-- `HEAD` is answered as `GET` is, with the same status, headers and log, but with no body, and
takes as many outcomes. What reaches a resource is told the length of the body that `GET` gets, once
and in bytes. -/
theorem head_replies_as_get :
    (∀ (settings : Settings) (ticket : Ticket) (uri : Uri) (outcome : Outcome),
      let head := replyTo settings ticket ⟨"HEAD", uri⟩ outcome
      let get := replyTo settings ticket ⟨"GET", uri⟩ outcome
      head.response.status = get.response.status ∧ head.response.headers = get.response.headers ∧
        head.log = get.log ∧ head.response.body = "") ∧
    (∀ (settings : Settings) (ticket : Ticket) (uri : Uri) (s : Script),
      let head := (answer Script.take settings ticket ⟨"HEAD", uri⟩).run s
      let get := (answer Script.take settings ticket ⟨"GET", uri⟩).run s
      head = (get.1.withoutBody, get.2) ∧
        get.2.taken = s.taken + if (⟨"GET", uri⟩ : Request).namesResource then 1 else 0) ∧
    (∀ (settings : Settings) (ticket : Ticket) (uri : Uri) (outcome : Outcome),
      (⟨"GET", uri⟩ : Request).namesResource = true →
      ∀ method ∈ ["GET", "HEAD"],
        (replyTo settings ticket ⟨method, uri⟩ outcome).response.values "content-length" =
          [toString (Text.toUtf8
            (replyTo settings ticket ⟨"GET", uri⟩ outcome).response.body).length]) := by
  refine ⟨fun settings ticket uri outcome => ?_, fun settings ticket uri s => ?_,
    fun settings ticket uri outcome h method hmethod => ?_⟩
  · dsimp only
    rw [replyTo_head]
    exact ⟨rfl, rfl, rfl, rfl⟩
  · refine ⟨?_, ?_⟩
    · rw [answer_head]
      rfl
    · have htaken := (Script.leads_step ⟨"GET", uri⟩ s).taken
      rw [Script.answer_run, ← collects_get_or_head uri (.inl rfl)]
      exact htaken
  · rw [List.mem_cons, List.mem_singleton] at hmethod
    rcases hmethod with rfl | rfl
    · exact values_replyTo_get uri h settings ticket outcome
    · rw [replyTo_head]
      exact values_replyTo_get uri h settings ticket outcome

/-- A platform of one character with four bytes: what `HEAD` is told counts all of them. -/
theorem head_replies_as_get_of_astral_platform :
    ∃ (ticket : Ticket) (uri : Uri) (outcome : Outcome) (body : String),
      uri = ⟨none, none, "/api/stats", some "x"⟩ ∧
      outcome = .snapshot ⟨"𝒳", .ofNat 0, ⟨3, 2, .ofNat 50⟩, ⟨4, 1, .ofNat 25⟩⟩ ∧
      (replyTo {} ticket ⟨"GET", uri⟩ outcome).response.body = body ∧
      (⟨"GET", uri⟩ : Request).namesResource = true ∧
      (replyTo {} ticket ⟨"HEAD", uri⟩ outcome).response.values "content-length" =
        [toString (body.length + 3)] := by
  let ticket : Ticket := ⟨"7", "1"⟩
  let uri : Uri := ⟨none, none, "/api/stats", some "x"⟩
  let outcome : Outcome := .snapshot ⟨"𝒳", .ofNat 0, ⟨3, 2, .ofNat 50⟩, ⟨4, 1, .ofNat 25⟩⟩
  have hlength := head_replies_as_get.2.2 {} ticket uri outcome rfl "HEAD" (by decide)
  refine ⟨ticket, uri, outcome, _, rfl, rfl, rfl, rfl, ?_⟩
  rw [hlength, Text.length_toUtf8]
  decide +kernel

end Router

end HostStatus
