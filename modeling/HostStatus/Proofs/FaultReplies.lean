import HostStatus.Proofs.RecordText
import HostStatus.Proofs.RouterReply

/-!
# What is said of a failure, and to whom

A failed run of the collector is answered with a class and an id and with nothing else, so that two
failures of one class cannot be told apart by their replies. The body is read back as the class and
the id that stand in the log, where the whole text of the fault is kept, down to its last cause.
-/

namespace HostStatus

open Json RecordReader Router

variable {settings : Settings} {ticket : Ticket} {request : Request} {outcome : Outcome}
  {fault : Fault}

/-! ## The body of a fault, read back -/

/-- What the body of a fault says. -/
structure Report where
  code : String
  message : String
  requestId : String
  deriving DecidableEq

structure Report.Draft where
  code : Option String := none
  message : Option String := none
  requestId : Option String := none

def Report.reader : RecordReader Report.Draft Report where
  name := "Report"
  empty := {}
  fields :=
    [.ofOption "code" (·.code) (fun d value => { d with code := value }) readString,
      .ofOption "message" (·.message) (fun d value => { d with message := value }) readString,
      .ofOption "request_id" (·.requestId) (fun d value => { d with requestId := value })
        readString]
  complete? d := do pure ⟨← d.code, ← d.message, ← d.requestId⟩

/-- The body has the report as its only member. -/
def Report.bodyReader : RecordReader (Option Report) Report where
  name := "Body"
  empty := none
  fields := [.ofOption "error" id (fun _ value => some value) Report.reader.read]
  complete? := id

def Report.parse (body : String) : Except ReadError Report :=
  Report.bodyReader.readText body

namespace Fault

def report (fault : Fault) (id : String) : Report :=
  ⟨fault.code, fault.publicMessage, id⟩

theorem parse_body (fault : Fault) (id : String) :
    Report.parse (fault.body id).toText = .ok (fault.report id) := by
  have hreport : Report.reader.Fills {}
      [("code", .string fault.code), ("message", .string fault.publicMessage),
        ("request_id", .string id)]
      (.ok ⟨some fault.code, some fault.publicMessage, some id⟩) := by
    refine .cons _ rfl rfl (FieldReader.ofOption_readsBack (readString_readsBack fault.code) _) ?_
    refine .cons _ rfl rfl
      (FieldReader.ofOption_readsBack (readString_readsBack fault.publicMessage) _) ?_
    exact .cons _ rfl rfl (FieldReader.ofOption_readsBack (readString_readsBack id) _) (.nil _)
  have hinner : ReadsBack Report.reader.read
      (.object [("code", .string fault.code), ("message", .string fault.publicMessage),
        ("request_id", .string id)]) (fault.report id) := hreport.readsBack rfl
  have hbody : Report.bodyReader.Fills none [("error", .object [("code", .string fault.code),
      ("message", .string fault.publicMessage), ("request_id", .string id)])]
      (.ok (some (fault.report id))) :=
    .cons _ rfl rfl (FieldReader.ofOption_readsBack hinner _) (.nil _)
  exact readText_toText (hbody.readsBack rfl)

/-! ## The text of a fault -/

theorem suffix_append (s t : String) : t.toList <:+ (s ++ t).toList := by
  rw [String.toList_append]
  exact List.suffix_append _ _

theorem cause_suffix {error : CollectError} {cause : IoError} (h : error.cause? = some cause) :
    cause.message.toList <:+ error.message.toList := by
  cases error with
  | unresolvedPath path io | unreadableVolume path io =>
    obtain rfl := Option.some.inj h
    exact suffix_append _ _
  | noVolume path | emptyVolume path | noMemory | noProcessors => cases h

/-- The text of a fault ends in the text of each of its causes. -/
theorem causes_suffix (fault : Fault) :
    ∀ text ∈ fault.causes, text.toList <:+ fault.message.toList := by
  intro text htext
  cases fault with
  | internal message => cases htext
  | collection error =>
    have herror : error.message.toList <:+ (collection error).message.toList := suffix_append _ _
    rw [causes, List.mem_cons, Option.mem_toList, Option.map_eq_some_iff] at htext
    rcases htext with rfl | ⟨cause, hcause, rfl⟩
    · exact herror
    · exact (cause_suffix hcause).trans herror

end Fault

/-! ## Classes of failures -/

inductive FailureClass where
  | collection
  | internal

/-- No class if the collector did not fail. -/
def Outcome.failureClass? : Outcome → Option FailureClass
  | .snapshot _ => none
  | .failed _ => some .collection
  | .panicked _ => some .internal

namespace FailureClass

/-- A fault of the class that has nothing to tell. -/
def plainFault : FailureClass → Fault
  | collection => .collection .noMemory
  | internal => .internal ""

/-- What is answered to a failure of the class. -/
def response (c : FailureClass) (id : String) : Response :=
  (c.plainFault.response id).measured

end FailureClass

theorem Outcome.snapshot?_of_failureClass? (ticket : Ticket) {c : FailureClass}
    (h : outcome.failureClass? = some c) :
    ∃ fault, outcome.snapshot? ticket = .error fault ∧
      ∀ id, (fault.response id).measured = c.response id := by
  cases outcome with
  | snapshot s => cases h
  | failed error =>
    obtain rfl := Option.some.inj h
    exact ⟨_, rfl, fun _ => rfl⟩
  | panicked text =>
    obtain rfl := Option.some.inj h
    exact ⟨_, rfl, fun _ => rfl⟩

/-- The reply to a failure is made of its class and the request's id, while the log gets all
of it. -/
theorem failure_reply (hpath : request.namesResource = true) (hmethod : request.method = "GET")
    {c : FailureClass} (h : outcome.failureClass? = some c) :
    ∃ fault, outcome.snapshot? ticket = .error fault ∧
      replyTo settings ticket request outcome =
        ⟨c.response ticket.request, [fault.event ticket.request]⟩ := by
  have hcollects : request.collects = true := by
    rw [Request.collects, hpath, hmethod]
    rfl
  obtain ⟨r, -, hreply⟩ := replyTo_of_collects hcollects settings ticket outcome
  obtain ⟨fault, hfault, hresponse⟩ := Outcome.snapshot?_of_failureClass? ticket h
  refine ⟨fault, hfault, ?_⟩
  rw [hreply, if_pos hmethod, Resource.reply_fault hfault, hresponse]

theorem Fault.event_eq (fault : Fault) (id : String) :
    fault.event id = .event .error "webui_status::handlers"
      [("request_id", id), ("code", fault.code),
        ("message", "API error (500): " ++ fault.message)] := by
  have hstatus : "API error (" ++ toString fault.status ++ "): " = "API error (500): " := by
    rw [fault.status_eq]
    decide
  rw [event, hstatus]

/-- A failure is answered with its class and the request's id, the same in each reply to a failure
of that class. One event of the same class and id tells the rest, down to the last cause. -/
theorem failure_replies :
    (∀ settings ticket request outcome c, request.namesResource = true → request.method = "GET" →
      Outcome.failureClass? outcome = some c →
      ∃ fault, outcome.snapshot? ticket = .error fault ∧
        let reply := replyTo settings ticket request outcome
        reply.response.status = 500 ∧
          reply.response.headers =
            [("content-type", "application/json"),
              ("content-length", toString reply.response.body.utf8ByteSize)] ∧
          Report.parse reply.response.body =
            .ok ⟨fault.code, fault.publicMessage, ticket.request⟩ ∧
          reply.log = [.event .error "webui_status::handlers"
            [("request_id", ticket.request), ("code", fault.code),
              ("message", "API error (500): " ++ fault.message)]] ∧
          ∀ text ∈ fault.causes, text.toList <:+ fault.message.toList) ∧
    ∀ settings settings' ticket ticket' request request' outcome outcome' c,
      request.namesResource = true → request.method = "GET" →
      request'.namesResource = true → request'.method = "GET" →
      Outcome.failureClass? outcome = some c → Outcome.failureClass? outcome' = some c →
      ticket.request = ticket'.request →
      (replyTo settings ticket request outcome).response =
        (replyTo settings' ticket' request' outcome').response := by
  constructor
  · intro settings ticket request outcome c hpath hmethod h
    obtain ⟨fault, hfault, hreply⟩ := failure_reply hpath hmethod h
    obtain ⟨fault', hfault', hresponse⟩ := Outcome.snapshot?_of_failureClass? ticket h
    obtain rfl : fault = fault' := Except.error.inj (hfault.symm.trans hfault')
    refine ⟨fault, hfault, ?_⟩
    rw [hreply, ← hresponse, fault.event_eq]
    exact ⟨fault.status_eq, rfl, fault.parse_body ticket.request, rfl, fault.causes_suffix⟩
  · intro settings settings' ticket ticket' request request' outcome outcome' c hpath hmethod
      hpath' hmethod' h h' hid
    obtain ⟨_, _, hreply⟩ := failure_reply hpath hmethod h
    obtain ⟨_, _, hreply'⟩ := failure_reply hpath' hmethod' h'
    rw [hreply, hreply', hid]

/-- A path that may not be read and memory that cannot be told are one and the same to the
client. -/
theorem failure_replies_of_path_and_memory :
    ∃ (ticket : Ticket) (index stats : Request) (denied memory : Outcome),
      denied = .failed (.unresolvedPath [0x2f, 0x78] (.os 13)) ∧ memory = .failed .noMemory ∧
      (replyTo {} ticket index denied).response.status = 500 ∧
      (replyTo {} ticket index denied).response = (replyTo {} ticket stats memory).response ∧
      (replyTo {} ticket index denied).log = [.event .error "webui_status::handlers"
        [("request_id", "7"), ("code", "COLLECTION_FAILED"),
          ("message", "API error (500): Metrics collection failed: cannot resolve disk path /x: " ++
            "Permission denied (os error 13)")]] := by
  let ticket : Ticket := ⟨"7", "1"⟩
  let index : Request := ⟨"GET", ⟨none, none, "/", none⟩⟩
  let stats : Request := ⟨"GET", ⟨none, none, "/api/stats", none⟩⟩
  let denied : Outcome := .failed (.unresolvedPath [0x2f, 0x78] (.os 13))
  let memory : Outcome := .failed .noMemory
  obtain ⟨fault, hfault, hstatus, -, -, hlog, -⟩ :=
    failure_replies.1 {} ticket index denied .collection rfl rfl rfl
  have hresponse := failure_replies.2 {} {} ticket ticket index stats denied memory .collection
    rfl rfl rfl rfl rfl rfl rfl
  refine ⟨ticket, index, stats, denied, memory, rfl, rfl, hstatus, hresponse, ?_⟩
  obtain rfl := Except.error.inj hfault
  rw [hlog]
  decide +kernel

end HostStatus
