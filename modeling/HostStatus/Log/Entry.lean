/-!
# Log entries

What happens is logged as an event, which comes from a target and says something in its fields; a
span marks all that is done for one request.
-/

namespace HostStatus

inductive LogLevel where
  | error
  | warn
  | info
  | debug
  | trace
  deriving DecidableEq

def LogLevel.toText : LogLevel → String
  | error => "ERROR"
  | warn => "WARN"
  | info => "INFO"
  | debug => "DEBUG"
  | trace => "TRACE"

inductive LogEntry where
  | event (level : LogLevel) (target : String) (fields : List (String × String))
  | span (level : LogLevel) (name : String) (fields : List (String × String))
  deriving DecidableEq

end HostStatus
