import HostStatus.Page
import HostStatus.Service.Fault

/-!
# Routing

Two resources are served, each by its exact path and to `GET` and `HEAD` only: the status page and
the statistics. A request for one of them takes one outcome of the collector and is answered from
that alone; no other request makes the collector run. The reply to `HEAD` is the one to `GET`
without its body. What is not found has no body either, and only where the target is no path from
the root does the reply say so.
-/

namespace HostStatus

/-- What a run of the collector comes to. -/
inductive Outcome where
  | snapshot (s : Snapshot)
  | failed (error : CollectError)
  | panicked (text : String)
  deriving DecidableEq

/-- Names under which a request and the task that collects for it are logged. -/
structure Ticket where
  request : String
  task : String
  deriving DecidableEq

def Outcome.snapshot? (ticket : Ticket) : Outcome → Except Fault Snapshot
  | snapshot s => .ok s
  | failed error => .error (.collection error)
  | panicked text =>
    .error (.internal ("collector task failed: task " ++ ticket.task ++ " panicked with message " ++
      Text.quoted text))

inductive Resource where
  | page
  | stats
  deriving DecidableEq

namespace Resource

def ofPath? (path : String) : Option Resource :=
  if path = "/" then some page
  else if path = "/api/stats" then some stats
  else none

def present (settings : Settings) (s : Snapshot) : Resource → Reply
  | page =>
    { response := .ok "text/html; charset=utf-8" (Page.render (.ofSnapshot s) settings) }
  | stats =>
    { response := .ok "application/json" (SystemStats.ofSnapshot s).toJson.toText
      log :=
        [.event .debug "webui_status::handlers::system"
          [("cpu", Decimal.Layout.plain.toText (s.cpuPercent.convert .binary64)),
            ("message", "stats collected")]] }

/-- The reply to `GET`. -/
def reply (settings : Settings) (ticket : Ticket) (outcome : Outcome) (r : Resource) : Reply :=
  match outcome.snapshot? ticket with
  | .ok s => r.present settings s
  | .error fault =>
    let reply := fault.reply ticket.request
    { reply with response := reply.response.measured }

end Resource

namespace Router

inductive Route where
  | resource (r : Resource) (withBody : Bool)
  | methodNotAllowed
  | notFound
  /-- The target is no path from the root. -/
  | noPath
  deriving DecidableEq

def route (request : Request) : Route :=
  match Resource.ofPath? request.uri.path with
  | none => if request.uri.isRooted then .notFound else .noPath
  | some r =>
    if request.method = "GET" then .resource r true
    else if request.method = "HEAD" then .resource r false
    else .methodNotAllowed

/-- Runs the collector only if the request is for a resource. -/
def answer {m : Type → Type} [Monad m] (collect : m Outcome) (settings : Settings) (ticket : Ticket)
    (request : Request) : m Reply :=
  match route request with
  | .notFound => pure { response := .notFound }
  | .noPath => pure { response := Response.notFound.measured }
  | .methodNotAllowed => pure { response := .methodNotAllowed }
  | .resource r withBody => do
    let outcome ← collect
    let reply := r.reply settings ticket outcome
    pure (if withBody then reply else { reply with response := reply.response.withoutBody })

end Router

/-- Outcomes of the runs to come, of which the last repeats, and how many were taken so far. -/
structure Script where
  next : Outcome
  later : List Outcome
  taken : Nat := 0

def Script.take : StateM Script Outcome := fun s =>
  match s.later with
  | [] => (s.next, { s with taken := s.taken + 1 })
  | o :: os => (s.next, ⟨o, os, s.taken + 1⟩)

/-- Answers requests one after the other. -/
def Script.serve (settings : Settings) (requests : List (Ticket × Request)) :
    StateM Script (List Reply) :=
  requests.mapM fun (ticket, request) => Router.answer Script.take settings ticket request

end HostStatus
