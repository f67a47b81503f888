import HostStatus.Service.Router
import Mathlib.Tactic.Common

/-!
# The reply to one request

A request makes the collector run exactly if its path is that of a resource and its method is `GET`
or `HEAD`. Then `Router.replyTo` is what the router makes of the outcome, in whatever monad the
collector runs, and otherwise `Router.refusal` is the reply, which no outcome has a part in.
-/

namespace HostStatus

variable {settings : Settings} {ticket : Ticket} {request : Request} {outcome : Outcome}
  {r : Resource} {fault : Fault}

namespace Request

def namesResource (request : Request) : Bool :=
  request.uri.path = "/" || request.uri.path = "/api/stats"

/-- Whether the collector runs for the request. -/
def collects (request : Request) : Bool :=
  request.namesResource && (request.method = "GET" || request.method = "HEAD")

def withoutQuery (request : Request) : Request :=
  { request with uri := { request.uri with query := none } }

end Request

theorem Fault.status_eq (fault : Fault) : fault.status = 500 := by
  cases fault <;> rfl

namespace Resource

/-- What is shown of a snapshot. -/
def text (settings : Settings) (s : Snapshot) : Resource → String
  | page => Page.render (.ofSnapshot s) settings
  | stats => (SystemStats.ofSnapshot s).toJson.toText

theorem isSome_ofPath? (request : Request) :
    (ofPath? request.uri.path).isSome = request.namesResource := by
  unfold ofPath? Request.namesResource
  split_ifs <;> simp_all

theorem reply_snapshot (r : Resource) (settings : Settings) (ticket : Ticket) (s : Snapshot) :
    (r.reply settings ticket (.snapshot s)).response.status = 200 ∧
      (r.reply settings ticket (.snapshot s)).response.body = r.text settings s := by
  cases r <;> exact ⟨rfl, rfl⟩

theorem reply_fault (h : outcome.snapshot? ticket = .error fault) :
    r.reply settings ticket outcome =
      ⟨(fault.response ticket.request).measured, [fault.event ticket.request]⟩ := by
  rw [reply, h]
  rfl

end Resource

theorem Outcome.snapshot?_cases (ticket : Ticket) (outcome : Outcome) :
    (∃ s, outcome = .snapshot s) ∨ ∃ fault, outcome.snapshot? ticket = .error fault := by
  cases outcome with
  | snapshot s => exact .inl ⟨s, rfl⟩
  | failed error => exact .inr ⟨_, rfl⟩
  | panicked text => exact .inr ⟨_, rfl⟩

namespace Router

/-- The reply to a request for which the collector does not run. -/
def refusal (request : Request) : Reply :=
  if request.namesResource then { response := .methodNotAllowed }
  else if request.uri.isRooted then { response := .notFound }
  else { response := Response.notFound.measured }

/-- The reply to a request when the collector would come to that outcome. -/
def replyTo (settings : Settings) (ticket : Ticket) (request : Request) (outcome : Outcome) :
    Reply :=
  Id.run (answer (pure outcome) settings ticket request)

theorem route_of_collects (h : request.collects = true) :
    ∃ r, Resource.ofPath? request.uri.path = some r ∧
      route request = .resource r (request.method = "GET") := by
  rw [Request.collects, Bool.and_eq_true, Bool.or_eq_true, decide_eq_true_eq, decide_eq_true_eq]
    at h
  obtain ⟨hpath, hmethod⟩ := h
  rw [← Resource.isSome_ofPath?, Option.isSome_iff_exists] at hpath
  obtain ⟨r, hr⟩ := hpath
  refine ⟨r, hr, ?_⟩
  rw [route, hr]
  rcases hmethod with hget | hhead
  · simp [hget]
  · simp [hhead]

theorem answer_of_collects {m : Type → Type} [Monad m] [LawfulMonad m]
    (h : request.collects = true) (collect : m Outcome) :
    answer collect settings ticket request = replyTo settings ticket request <$> collect := by
  obtain ⟨r, -, hroute⟩ := route_of_collects h
  simp only [replyTo, answer, hroute, map_eq_pure_bind]
  rfl

/-- Nothing runs for any other request. -/
theorem answer_of_not_collects {m : Type → Type} [Monad m] (h : request.collects = false)
    (collect : m Outcome) :
    answer collect settings ticket request = pure (refusal request) := by
  rw [answer, refusal, ← Resource.isSome_ofPath?, route]
  cases hpath : Resource.ofPath? request.uri.path with
  | none => cases request.uri.isRooted <;> rfl
  | some r =>
    have hnames : request.namesResource = true := by
      rw [← Resource.isSome_ofPath?, hpath]
      rfl
    simp only [Request.collects, hnames, Bool.true_and, Bool.or_eq_false_iff,
      decide_eq_false_iff_not] at h
    simp [h.1, h.2]

theorem replyTo_of_not_collects (h : request.collects = false) :
    replyTo settings ticket request outcome = refusal request := by
  rw [replyTo, answer_of_not_collects h]
  rfl

theorem replyTo_of_collects (h : request.collects = true) (settings : Settings) (ticket : Ticket)
    (outcome : Outcome) :
    ∃ r, Resource.ofPath? request.uri.path = some r ∧
      replyTo settings ticket request outcome =
        if request.method = "GET" then r.reply settings ticket outcome
        else { r.reply settings ticket outcome with
          response := (r.reply settings ticket outcome).response.withoutBody } := by
  obtain ⟨r, hpath, hroute⟩ := route_of_collects h
  refine ⟨r, hpath, ?_⟩
  simp only [replyTo, answer, hroute, decide_eq_true_eq]
  rfl

/-- A snapshot is shown, but not to `HEAD`, and any other outcome is answered with a fault. -/
theorem replyTo_spec (h : request.collects = true) (settings : Settings) (ticket : Ticket)
    (outcome : Outcome) :
    ∃ r, Resource.ofPath? request.uri.path = some r ∧
      match outcome with
      | .snapshot s =>
        (replyTo settings ticket request outcome).response.status = 200 ∧
          (replyTo settings ticket request outcome).response.body =
            if request.method = "GET" then r.text settings s else ""
      | _ => (replyTo settings ticket request outcome).response.status = 500 := by
  obtain ⟨r, hpath, hreply⟩ := replyTo_of_collects h settings ticket outcome
  refine ⟨r, hpath, ?_⟩
  rcases outcome.snapshot?_cases ticket with ⟨s, rfl⟩ | ⟨fault, hfault⟩
  · obtain ⟨hstatus, hbody⟩ := r.reply_snapshot settings ticket s
    dsimp only
    rw [hreply]
    split
    · exact ⟨hstatus, hbody⟩
    · exact ⟨hstatus, rfl⟩
  · have hstatus : (replyTo settings ticket request outcome).response.status = 500 := by
      rw [hreply, Resource.reply_fault hfault, ← fault.status_eq]
      split <;> rfl
    cases outcome with
    | snapshot s => cases hfault
    | failed error => exact hstatus
    | panicked text => exact hstatus

theorem refusal_spec (request : Request) :
    (refusal request).log = [] ∧
      (refusal request).response.status = if request.namesResource then 405 else 404 := by
  unfold refusal
  cases request.namesResource <;> cases request.uri.isRooted <;> exact ⟨rfl, rfl⟩

end Router

end HostStatus
