import HostStatus.Collect.Error
import HostStatus.Http.Message
import HostStatus.Json.Basic

/-!
# Faults of the service

A fault is logged in full and answered with no more than its class: neither paths nor what the
operating system said leave the host. The request's id stands in both, so that an answer can be
found in the log.
-/

namespace HostStatus

inductive Fault where
  | collection (error : CollectError)
  | internal (text : String)
  deriving DecidableEq

namespace Fault

def message : Fault → String
  | collection error => "Metrics collection failed: " ++ error.message
  | internal text => "Internal error: " ++ text

/-- The texts of the causes, each the cause of the one before. -/
def causes : Fault → List String
  | collection error => error.message :: (error.cause?.map IoError.message).toList
  | internal _ => []

def code : Fault → String
  | collection _ => "COLLECTION_FAILED"
  | internal _ => "INTERNAL_ERROR"

def publicMessage : Fault → String
  | collection _ => "Failed to read system statistics"
  | internal _ => "Internal server error"

def status : Fault → Nat
  | collection _ | internal _ => 500

def body (fault : Fault) (id : String) : Json :=
  .object
    [("error", .object
      [("code", .string fault.code), ("message", .string fault.publicMessage),
        ("request_id", .string id)])]

def response (fault : Fault) (id : String) : Response where
  status := fault.status
  headers := [("content-type", "application/json")]
  body := (fault.body id).toText

def event (fault : Fault) (id : String) : LogEntry :=
  .event .error "webui_status::handlers"
    [("request_id", id), ("code", fault.code),
      ("message", "API error (" ++ toString fault.status ++ "): " ++ fault.message)]

def reply (fault : Fault) (id : String) : Reply where
  response := fault.response id
  log := [fault.event id]

end Fault

end HostStatus
