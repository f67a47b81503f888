import HostStatus.Proofs.HeadReplies
import HostStatus.Proofs.TargetText
import HostStatus.Service.Secured

/-!
# Replies as they leave the service

Whatever the router replies, the service adds three headers behind those of the reply, and lays a
span with its traces around what was logged, and changes nothing else. No header is replaced by
this, because the router knows but three names of headers, and these are others; and no entry of the
router is taken for a trace, because it logs under names of its own. `HasKnownHeaders` and
`Untraced` say so of all the places that a reply can come from.
-/

namespace HostStatus

namespace Response

variable {r s : Response} {name value : String} {header : String × String}

theorem mem_headers_setHeader (h : header ∈ (r.setHeader name value).headers) :
    header ∈ r.headers ∨ header = (name, value) := by
  rw [setHeader, List.mem_append, List.mem_singleton] at h
  exact h.imp_left fun hmem => (List.mem_filter.1 hmem).1

theorem headers_setHeader_of_new (h : ∀ header ∈ r.headers, header.1 ≠ name) :
    (r.setHeader name value).headers = r.headers ++ [(name, value)] := by
  have hall : r.headers.filter (·.1 ≠ name) = r.headers := by
    rw [List.filter_eq_self]
    exact fun header hmem => decide_eq_true (h header hmem)
  rw [setHeader, hall]

/-- Headers of new names are all kept, in order. -/
theorem headers_foldl_setHeader (new : List (String × String)) (hnew : (new.map (·.1)).Nodup)
    (h : ∀ header ∈ r.headers, header.1 ∉ new.map (·.1)) :
    (new.foldl (fun r header => r.setHeader header.1 header.2) r).headers = r.headers ++ new := by
  induction new generalizing r with
  | nil => exact (List.append_nil _).symm
  | cons first new ih =>
    rw [List.map_cons, List.nodup_cons] at hnew
    have hfirst : (r.setHeader first.1 first.2).headers = r.headers ++ [first] :=
      headers_setHeader_of_new fun header hmem heq => h header hmem (heq ▸ List.mem_cons_self)
    rw [List.foldl_cons, ih hnew.2, hfirst, List.append_assoc, List.singleton_append]
    intro header hmem
    rcases mem_headers_setHeader hmem with hold | rfl
    · exact fun hname => h header hold (List.mem_cons_of_mem _ hname)
    · exact hnew.1

theorem values_of_headers_eq_append {new : List (String × String)}
    (h : s.headers = r.headers ++ new) (name : String) :
    s.values name = r.values name ++ (new.filter (·.1 = name)).map (·.2) := by
  rw [values, values, h, List.filter_append, List.map_append]

theorem values_eq_nil (h : ∀ header ∈ r.headers, header.1 ≠ name) : r.values name = [] := by
  rw [values, List.map_eq_nil_iff, List.filter_eq_nil_iff]
  intro header hmem
  rw [decide_eq_true_eq]
  exact h header hmem

/-- The response has no header but those that the router knows. -/
def HasKnownHeaders (r : Response) : Prop :=
  ∀ header ∈ r.headers, header.1 ∈ ["allow", "content-type", "content-length"]

theorem HasKnownHeaders.measured (h : r.HasKnownHeaders) : r.measured.HasKnownHeaders := by
  intro header hmem
  rcases mem_headers_setHeader hmem with hold | rfl
  · exact h header hold
  · exact List.mem_cons_of_mem _ (List.mem_cons_of_mem _ List.mem_cons_self)

theorem hasKnownHeaders_typed (status : Nat) (contentType body : String) :
    HasKnownHeaders ⟨status, [("content-type", contentType)], body⟩ := by
  intro header hmem
  rw [List.mem_singleton.1 hmem]
  exact List.mem_cons_of_mem _ List.mem_cons_self

end Response

theorem Resource.hasKnownHeaders_reply (r : Resource) (settings : Settings) (ticket : Ticket)
    (outcome : Outcome) : (r.reply settings ticket outcome).response.HasKnownHeaders := by
  rcases outcome.snapshot?_cases ticket with ⟨s, rfl⟩ | ⟨fault, hfault⟩
  · cases r <;> exact (Response.hasKnownHeaders_typed _ _ _).measured
  · rw [reply_fault hfault]
    exact (Response.hasKnownHeaders_typed _ _ _).measured

namespace Router

theorem hasKnownHeaders_refusal (request : Request) :
    (refusal request).response.HasKnownHeaders := by
  unfold refusal Response.HasKnownHeaders
  split_ifs <;> decide

theorem hasKnownHeaders_replyTo (settings : Settings) (ticket : Ticket) (request : Request)
    (outcome : Outcome) : (replyTo settings ticket request outcome).response.HasKnownHeaders := by
  cases h : request.collects with
  | false =>
    rw [replyTo_of_not_collects h]
    exact hasKnownHeaders_refusal request
  | true =>
    obtain ⟨r, -, hreply⟩ := replyTo_of_collects h settings ticket outcome
    have hknown := r.hasKnownHeaders_reply settings ticket outcome
    rw [hreply]
    split
    · exact hknown
    · exact hknown

end Router

/-! ## Logs of the router -/

namespace Secured

/-- Nothing that is logged for the reply is a trace, and its status is one of four. -/
structure Untraced (r : Reply) : Prop where
  log : ∀ entry ∈ r.log, isTrace entry = false
  status : r.response.status ∈ [200, 404, 405, 500]

theorem untraced_presented (r : Resource) (settings : Settings) (s : Snapshot) :
    Untraced (r.present settings s) := by
  cases r with
  | page => exact ⟨fun entry hmem => absurd hmem List.not_mem_nil, List.mem_cons_self⟩
  | stats =>
    refine ⟨fun entry hmem => ?_, List.mem_cons_self⟩
    rw [List.mem_singleton.1 hmem]
    rfl

theorem untraced_resource (r : Resource) (settings : Settings) (ticket : Ticket)
    (outcome : Outcome) : Untraced (r.reply settings ticket outcome) := by
  rcases outcome.snapshot?_cases ticket with ⟨s, rfl⟩ | ⟨fault, hfault⟩
  · exact untraced_presented r settings s
  · rw [Resource.reply_fault hfault]
    refine ⟨fun entry hmem => ?_, ?_⟩
    · rw [List.mem_singleton.1 hmem]
      rfl
    · have hstatus : (fault.response ticket.request).measured.status = 500 := fault.status_eq
      rw [hstatus]
      decide

theorem untraced_refusal (request : Request) : Untraced (Router.refusal request) := by
  obtain ⟨hlog, hstatus⟩ := Router.refusal_spec request
  refine ⟨fun entry hmem => ?_, ?_⟩
  · rw [hlog] at hmem
    cases hmem
  · rw [hstatus]
    split <;> decide

theorem untraced_replyTo (settings : Settings) (ticket : Ticket) (request : Request)
    (outcome : Outcome) : Untraced (Router.replyTo settings ticket request outcome) := by
  cases h : request.collects with
  | false =>
    rw [Router.replyTo_of_not_collects h]
    exact untraced_refusal request
  | true =>
    obtain ⟨r, -, hreply⟩ := Router.replyTo_of_collects h settings ticket outcome
    have huntraced := untraced_resource r settings ticket outcome
    rw [hreply]
    split
    · exact huntraced
    · exact ⟨huntraced.log, huntraced.status⟩

/-- Only one error of the server occurs. -/
theorem ending_of_known {status : ℕ} (h : status ∈ [200, 404, 405, 500]) (milliseconds : ℕ) :
    ending milliseconds status = answered milliseconds status ::
      if status = 500 then [failed milliseconds 500 "Internal Server Error"] else [] := by
  simp only [List.mem_cons, List.not_mem_nil, or_false] at h
  rcases h with rfl | rfl | rfl | rfl <;> rfl

theorem filter_ending (milliseconds status : ℕ) :
    (ending milliseconds status).filter (!isTrace ·) = [] := by
  rw [List.filter_eq_nil_iff]
  intro entry hmem
  rcases List.mem_cons.1 hmem with rfl | hfailed
  · exact Bool.false_ne_true
  · obtain ⟨reason, -, rfl⟩ := Option.map_eq_some_iff.1 (Option.mem_toList.1 hfailed)
    exact Bool.false_ne_true

/-- Without its traces, the log of a reply is a span and what the router logged. -/
theorem filter_log_reply {r : Reply} (h : Untraced r) (milliseconds : ℕ) (request : Request) :
    (reply milliseconds request r).log.filter (!isTrace ·) = span request :: r.log := by
  have hkept : r.log.filter (!isTrace ·) = r.log := by
    rw [List.filter_eq_self]
    intro entry hmem
    rw [h.log entry hmem]
    rfl
  have hspan : (!isTrace (span request)) = true := rfl
  have htaken : ¬(!isTrace taken) = true := Bool.false_ne_true
  change (span request :: taken :: (r.log ++ ending milliseconds r.response.status)).filter _ = _
  rw [List.filter_cons_of_pos (p := fun entry => !isTrace entry) hspan,
    List.filter_cons_of_neg (p := fun entry => !isTrace entry) htaken, List.filter_append, hkept,
    filter_ending, List.append_nil]

/-! ## Replies of the service -/

/-- The reply to a request when the collector would come to that outcome. -/
def replyTo (settings : Settings) (ticket : Ticket) (milliseconds : ℕ) (request : Request)
    (outcome : Outcome) : Reply :=
  Id.run (serve (pure outcome) settings ticket milliseconds request)

theorem serve_eq_map {m : Type → Type} [Monad m] [LawfulMonad m] (collect : m Outcome)
    (settings : Settings) (ticket : Ticket) (milliseconds : ℕ) (request : Request) :
    serve collect settings ticket milliseconds request =
      reply milliseconds request <$> Router.answer collect settings ticket request := by
  rw [serve, map_eq_pure_bind]

/-- Of its own the service logs a span, whatever there is to trace. -/
theorem withoutTraces_reply {r : Reply} (h : Untraced r) (milliseconds : ℕ) (request : Request) :
    withoutTraces (reply milliseconds request r) =
      ⟨response r.response, span request :: r.log⟩ := by
  rw [withoutTraces, filter_log_reply h milliseconds request]
  rfl

theorem answer_eq_map {m : Type → Type} [Monad m] [LawfulMonad m] (collect : m Outcome)
    (settings : Settings) (ticket : Ticket) (request : Request) :
    answer collect settings ticket request =
      (fun r => ⟨response r.response, span request :: r.log⟩) <$>
        Router.answer collect settings ticket request := by
  rw [answer, ← map_eq_pure_bind, serve_eq_map, Functor.map_map]
  cases h : request.collects with
  | false =>
    rw [Router.answer_of_not_collects h, map_pure, map_pure,
      withoutTraces_reply (untraced_refusal request)]
  | true =>
    rw [Router.answer_of_collects h, Functor.map_map, Functor.map_map]
    congr 1
    funext outcome
    exact withoutTraces_reply (untraced_replyTo settings ticket request outcome) 0 request

theorem replyTo_eq (settings : Settings) (ticket : Ticket) (milliseconds : ℕ) (request : Request)
    (outcome : Outcome) :
    replyTo settings ticket milliseconds request outcome =
      reply milliseconds request (Router.replyTo settings ticket request outcome) :=
  rfl

theorem ne_name_of_known {r : Response} (h : r.HasKnownHeaders) {name : String}
    (hname : name ∈ headers.map (·.1)) : ∀ header ∈ r.headers, header.1 ≠ name := by
  rintro header hmem rfl
  have hdisjoint : ∀ known ∈ ["allow", "content-type", "content-length"],
      known ∉ headers.map (·.1) := by
    decide
  exact hdisjoint header.1 (h header hmem) hname

theorem headers_response {r : Response} (h : r.HasKnownHeaders) :
    (response r).headers = r.headers ++ headers :=
  Response.headers_foldl_setHeader headers (by decide) fun header hmem hname =>
    ne_name_of_known h hname header hmem rfl

/-- The service answers as the router does, for whatever the collector does, but that three headers
stand behind those of the router. In the log there is a span before what the router logged, and
within it three traces at most, which are told by their target: an error is traced just for status
500. The span names the method and the target, without the fragment and in the form that it is shown
in: an absolute target has its scheme in small letters if that is one of the web, and always a path.
-/
theorem serve_adds_headers_and_traces (settings : Settings) (ticket : Ticket) (milliseconds : ℕ)
    (request : Request) :
    (∀ (m : Type → Type) [Monad m] [LawfulMonad m] (collect : m Outcome),
      serve collect settings ticket milliseconds request =
          reply milliseconds request <$> Router.answer collect settings ticket request ∧
        answer collect settings ticket request =
          (fun r => ⟨response r.response, span request :: r.log⟩) <$>
            Router.answer collect settings ticket request) ∧
    (∀ outcome,
      let plain := Router.replyTo settings ticket request outcome
      let secured := replyTo settings ticket milliseconds request outcome
      let added := [("x-content-type-options", "nosniff"), ("x-frame-options", "DENY"),
        ("referrer-policy", "no-referrer")]
      let span := LogEntry.span .info "http_request"
        [("method", request.method), ("uri", request.uri.toText)]
      let latency := toString milliseconds ++ " ms"
      secured.response.status = plain.response.status ∧
        secured.response.body = plain.response.body ∧
        secured.response.headers = plain.response.headers ++ added ∧
        (∀ header ∈ added, secured.response.values header.1 = [header.2]) ∧
        (∀ name ∉ added.map (·.1), secured.response.values name = plain.response.values name) ∧
        secured.log = span ::
          .event .debug "tower_http::trace::on_request"
            [("message", "started processing request")] ::
          (plain.log ++
            .event .debug "tower_http::trace::on_response"
              [("latency", latency), ("status", toString plain.response.status),
                ("message", "finished processing request")] ::
            if plain.response.status = 500 then
              [.event .error "tower_http::trace::on_failure"
                [("classification", "Status code: 500 Internal Server Error"),
                  ("latency", latency), ("message", "response failed")]]
            else []) ∧
        (∀ entry ∈ plain.log, isTrace entry = false) ∧
        secured.log.filter (!isTrace ·) = span :: plain.log) ∧
    ∀ target, request.uri = .parse target →
      '#' ∉ request.uri.toText.toList ∧ Uri.parse request.uri.toText = request.uri ∧
        (request.uri.scheme = none → request.uri.toText = Uri.withoutFragment target) ∧
        ∀ name, request.uri.scheme = some name → ∃ scheme authority behind : List Char,
          (Uri.withoutFragment target).toList =
            scheme ++ ':' :: '/' :: '/' :: (authority ++ behind) ∧
          '/' ∉ authority ∧ '?' ∉ authority ∧ name = Uri.schemeName scheme ∧
          request.uri.toText.toList =
            name.toList ++ ':' :: '/' :: '/' :: (authority ++ Uri.withPath behind) := by
  refine ⟨fun m _ _ collect => ⟨serve_eq_map collect settings ticket milliseconds request,
    answer_eq_map collect settings ticket request⟩, fun outcome => ?_, fun target htarget => ?_⟩
  · have hknown := Router.hasKnownHeaders_replyTo settings ticket request outcome
    have huntraced := untraced_replyTo settings ticket request outcome
    have hvalues := Response.values_of_headers_eq_append (headers_response hknown)
    dsimp only
    rw [replyTo_eq]
    refine ⟨rfl, rfl, headers_response hknown, fun header hmem => ?_, fun name hname => ?_, ?_,
      huntraced.log, filter_log_reply huntraced milliseconds request⟩
    · have hnew : ∀ header ∈ headers, (headers.filter (·.1 = header.1)).map (·.2) = [header.2] := by
        decide
      have hnone := Response.values_eq_nil
        (ne_name_of_known hknown (List.mem_map_of_mem (f := (·.1)) hmem))
      exact (hvalues header.1).trans (by rw [hnone, hnew header hmem, List.nil_append])
    · have hnone : headers.filter (·.1 = name) = [] := by
        rw [List.filter_eq_nil_iff]
        intro header hmem heq
        exact hname (List.mem_map.2 ⟨header, hmem, of_decide_eq_true heq⟩)
      exact (hvalues name).trans (by rw [hnone, List.map_nil, List.append_nil])
    · rw [reply, ending_of_known huntraced.status]
      rfl
  · rw [htarget]
    obtain ⟨hmark, hsame, hshown⟩ := Uri.toText_parse target
    exact ⟨hmark, hsame, hshown, fun name => Uri.toText_parse_absolute⟩

/-- A panic that `HEAD` meets, on a target with a query and a fragment, and a target of the web that
has no path. -/
theorem serve_adds_headers_and_traces_of_fragment :
    ∃ (ticket : Ticket) (request absolute : Request) (outcome : Outcome),
      request = ⟨"HEAD", .parse "/api/stats?x#top"⟩ ∧ absolute = ⟨"GET", .parse "HTTP://h?x"⟩ ∧
      outcome = .panicked "boom" ∧
      request.uri.scheme = none ∧ request.uri.toText = Uri.withoutFragment "/api/stats?x#top" ∧
      absolute.uri.scheme = some "http" ∧ absolute.uri.toText = "http://h/?x" ∧
      Uri.parse absolute.uri.toText = absolute.uri ∧
      serve Script.take {} ticket 3 request =
        reply 3 request <$> Router.answer Script.take {} ticket request ∧
      (replyTo {} ticket 3 request outcome).response.values "x-frame-options" = ["DENY"] ∧
      (replyTo {} ticket 3 request outcome).response.values "content-type" =
        ["application/json"] ∧
      (replyTo {} ticket 3 request outcome).log.head? =
        some (.span .info "http_request" [("method", "HEAD"), ("uri", "/api/stats?x")]) ∧
      (replyTo {} ticket 3 request outcome).log.getLast? =
        some (.event .error "tower_http::trace::on_failure"
          [("classification", "Status code: 500 Internal Server Error"), ("latency", "3 ms"),
            ("message", "response failed")]) := by
  let ticket : Ticket := ⟨"7", "1"⟩
  let request : Request := ⟨"HEAD", .parse "/api/stats?x#top"⟩
  let absolute : Request := ⟨"GET", .parse "HTTP://h?x"⟩
  obtain ⟨hserve, hreply, htarget⟩ := serve_adds_headers_and_traces {} ticket 3 request
  obtain ⟨-, hsame, -, -⟩ :=
    (serve_adds_headers_and_traces {} ticket 3 absolute).2.2 "HTTP://h?x" rfl
  obtain ⟨-, -, -, hadded, hkept, hlog, -, -⟩ := hreply (.panicked "boom")
  have hscheme : request.uri.scheme = none := by decide +kernel
  have htext : request.uri.toText = "/api/stats?x" := by decide +kernel
  have hstatus : (Router.replyTo {} ticket request (.panicked "boom")).response.status = 500 := by
    decide +kernel
  refine ⟨ticket, request, absolute, .panicked "boom", rfl, rfl, rfl, hscheme,
    (htarget _ rfl).2.2.1 hscheme, by decide +kernel, by decide +kernel, hsame,
    (hserve _ Script.take).1,
    hadded ("x-frame-options", "DENY") (by decide), ?_, ?_, ?_⟩
  · rw [hkept "content-type" (by decide)]
    decide +kernel
  · rw [hlog, htext]
    rfl
  · rw [hlog, hstatus, if_pos rfl]
    rfl

/-- More than a span is added to what the router logs: of a failure there is an error besides. And
the span of a target of the web without a path shows one. -/
theorem serve_traces_failure_of_itself :
    let ticket : Ticket := ⟨"7", "1"⟩
    let request : Request := ⟨"GET", .parse "/"⟩
    let plain := Router.replyTo {} ticket request (.failed .noMemory)
    let secured := replyTo {} ticket 0 request (.failed .noMemory)
    secured.log ≠
        .span .info "http_request" [("method", "GET"), ("uri", "/")] :: plain.log ∧
      (∃ entry ∈ secured.log, entry ∉ plain.log ∧
        entry = .event .error "tower_http::trace::on_failure"
          [("classification", "Status code: 500 Internal Server Error"), ("latency", "0 ms"),
            ("message", "response failed")]) ∧
      (Uri.parse "http://h?q#top").toText = "http://h/?q" ∧
      Uri.withoutFragment "http://h?q#top" = "http://h?q" := by
  decide +kernel

end Secured

end HostStatus
