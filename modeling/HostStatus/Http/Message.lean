import HostStatus.Http.Uri
import HostStatus.Log.Entry

/-!
# Requests and replies

A reply is a response together with what was logged for it.
-/

namespace HostStatus

structure Request where
  /-- The method is case-sensitive. -/
  method : String
  uri : Uri
  deriving DecidableEq

structure Response where
  status : Nat
  headers : List (String × String)
  body : String
  deriving DecidableEq

namespace Response

/-- Replaces every header of that name. -/
def setHeader (name value : String) (r : Response) : Response :=
  { r with headers := r.headers.filter (·.1 ≠ name) ++ [(name, value)] }

/-- States the number of bytes of the body. -/
def measured (r : Response) : Response :=
  r.setHeader "content-length" (toString r.body.utf8ByteSize)

def withoutBody (r : Response) : Response :=
  { r with body := "" }

def notFound : Response where
  status := 404
  headers := []
  body := ""

def methodNotAllowed : Response :=
  measured { status := 405, headers := [("allow", "GET,HEAD")], body := "" }

def ok (contentType body : String) : Response :=
  measured { status := 200, headers := [("content-type", contentType)], body := body }

end Response

structure Reply where
  response : Response
  log : List LogEntry := []
  deriving DecidableEq

end HostStatus
