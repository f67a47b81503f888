import HostStatus.Service.Router

/-!
# The service as it faces the network

Every reply, whatever its status, gets three headers that tell browsers to be careful, and every
request is logged as a span around what its handling logs. Within the span the server traces the
request with events of its own, from targets that are not the service's: it is taken up, it is
answered after so many milliseconds, and it has failed if the status is an error of the server.
`answer` leaves these events out of the log and keeps what the service itself says.
-/

namespace HostStatus.Secured

def headers : List (String × String) :=
  [("x-content-type-options", "nosniff"), ("x-frame-options", "DENY"),
    ("referrer-policy", "no-referrer")]

def response (r : Response) : Response :=
  headers.foldl (fun r header => r.setHeader header.1 header.2) r

def span (request : Request) : LogEntry :=
  .span .info "http_request" [("method", request.method), ("uri", request.uri.toText)]

/-! ## Traces -/

/-- What the targets of all traces begin with. -/
def traces : String := "tower_http::trace::"

def isTrace : LogEntry → Bool
  | .event _ target _ => traces.toList.isPrefixOf target.toList
  | .span _ _ _ => false

def taken : LogEntry :=
  .event .debug (traces ++ "on_request") [("message", "started processing request")]

def latencyText (milliseconds : Nat) : String :=
  toString milliseconds ++ " ms"

def answered (milliseconds status : Nat) : LogEntry :=
  .event .debug (traces ++ "on_response")
    [("latency", latencyText milliseconds), ("status", toString status),
      ("message", "finished processing request")]

/-- What a status is called that is an error of the server. -/
def reason? (status : Nat) : Option String :=
  match status with
  | 500 => "Internal Server Error"
  | 501 => "Not Implemented"
  | 502 => "Bad Gateway"
  | 503 => "Service Unavailable"
  | 504 => "Gateway Timeout"
  | 505 => "HTTP Version Not Supported"
  | 506 => "Variant Also Negotiates"
  | 507 => "Insufficient Storage"
  | 508 => "Loop Detected"
  | 510 => "Not Extended"
  | 511 => "Network Authentication Required"
  | status => if 500 ≤ status ∧ status < 600 then some "<unknown status code>" else none

def failed (milliseconds status : Nat) (reason : String) : LogEntry :=
  .event .error (traces ++ "on_failure")
    [("classification", "Status code: " ++ toString status ++ " " ++ reason),
      ("latency", latencyText milliseconds), ("message", "response failed")]

/-- What is traced behind the router's own entries. -/
def ending (milliseconds status : Nat) : List LogEntry :=
  answered milliseconds status :: ((reason? status).map (failed milliseconds status)).toList

/-! ## Replies -/

def reply (milliseconds : Nat) (request : Request) (r : Reply) : Reply where
  response := response r.response
  log := span request :: taken :: (r.log ++ ending milliseconds r.response.status)

/-- The reply with what the service itself logs. -/
def withoutTraces (r : Reply) : Reply :=
  { r with log := r.log.filter (!isTrace ·) }

section Answer

variable {m : Type → Type} [Monad m] (collect : m Outcome) (settings : Settings) (ticket : Ticket)

/-- Answers a request, which takes so many milliseconds. -/
def serve (milliseconds : Nat) (request : Request) : m Reply := do
  pure (reply milliseconds request (← Router.answer collect settings ticket request))

/-- How long it takes is in none of the service's own entries. -/
def answer (request : Request) : m Reply := do
  pure (withoutTraces (← serve collect settings ticket 0 request))

end Answer

end HostStatus.Secured
