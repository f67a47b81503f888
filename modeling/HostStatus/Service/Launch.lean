import HostStatus.EnvFile.Load
import HostStatus.Json.Basic
import HostStatus.Log.Filter
import HostStatus.Settings

/-!
# Launching the service

The service reads its settings from the environment, after the environment file has added to it.
If the settings are refused, it says so on its error output and exits with failure, whatever it
was told to log. Otherwise it comes up, runs until it is told to end, and exits with success,
having logged that it listens and that it shuts down, and in detail how its server ends, as far as
the log filter lets these events through.

Not all of this is up to the service. Before it begins, the loader says which objects it cannot
load in front of it. A number of worker threads that is none makes the service break down, and so
does a value in the file that the environment cannot hold. With a refusal the calls that led to it
are shown on demand. What is said then depends on what the service runs on: that is a `Runtime`.
-/

namespace HostStatus

/-- An event of the service as a whole, with the numbers it carries. -/
structure Notice where
  level : LogLevel
  target : String
  message : String
  numbers : List (String × Nat) := []
  deriving DecidableEq

namespace Notice

def fieldNames (n : Notice) : List String :=
  "message" :: n.numbers.map (·.1)

def listening (s : Settings) : Notice where
  level := .info
  target := "webui_status"
  message := "status page listening on http://" ++ s.address
  numbers := [("rdp_port", s.desktopPort.number)]

def shutdown : Notice where
  level := .info
  target := "webui_status"
  message := "Shutdown signal received, starting graceful shutdown"

/-- What the server does as it ends, with no request under way. -/
def serverEnd : List Notice :=
  ["received graceful shutdown signal. Telling tasks to shutdown",
    "signal received, not accepting new connections",
    "waiting for 0 task(s) to finish"].map fun message =>
      { level := .trace, target := "axum::serve", message := message }

/-- A text in a style of terminals. -/
def paint (style text : String) : String :=
  "\x1b[" ++ style ++ "m" ++ text ++ "\x1b[0m"

/-- The level in its colour and in as much space as the longest has. -/
def paintedLevel : LogLevel → String
  | .error => paint "31" "ERROR"
  | .warn => paint "33" " WARN"
  | .info => paint "32" " INFO"
  | .debug => paint "34" "DEBUG"
  | .trace => paint "35" "TRACE"

def toPaintedText (n : Notice) : String :=
  let dimmed := paint "2"
  paintedLevel n.level ++ " " ++ dimmed n.target ++ dimmed ":" ++ " " ++ n.message ++
    String.join (n.numbers.map fun (name, value) =>
      " " ++ paint "3" name ++ dimmed "=" ++ toString value)

def toText (n : Notice) : String :=
  n.level.toText ++ " " ++ n.target ++ ": " ++ n.message ++
    String.join (n.numbers.map fun (name, value) => " " ++ name ++ "=" ++ toString value)

def toJson (n : Notice) : Json :=
  .object
    [("level", .string n.level.toText),
      ("fields", .object (("message", .string n.message) ::
        n.numbers.map fun (name, value) => (name, .number (toString value)))),
      ("target", .string n.target)]

end Notice

/-- A line of output, in one of the two formats. -/
inductive LogLine where
  | text (line : String)
  | json (line : Json)

def LogLine.toText : LogLine → String
  | text line => line
  | json line => line.toText

structure Launch where
  exitCode : Nat
  /-- Lines when the service comes up. -/
  opening : List LogLine
  /-- Lines when it ends. -/
  closing : List LogLine
  error : String

namespace Launch

def output (l : Launch) : List LogLine :=
  l.opening ++ l.closing

/-- Why the service breaks down before it reads its settings. -/
inductive Breakdown where
  | workers (value : Text.Bytes)
  | assignment (name value : String)
  deriving DecidableEq

/-- What the service runs on, as far as it is heard on the error output. -/
structure Runtime where
  /-- Why an object cannot be loaded, if it cannot. -/
  unloadable? : String → Option String := fun _ => some "cannot open shared object file"
  /-- The calls that lead to where settings are refused. -/
  calls : String := ""
  report : Breakdown → String := fun _ => ""

def filterVariable : String := "RUST_LOG"

def formatVariable : String := "RUST_LOG_FORMAT"

def plainVariable : String := "NO_COLOR"

def objectsVariable : String := "LD_PRELOAD"

def workersVariable : String := "TOKIO_WORKER_THREADS"

/-- Whether calls are shown is told by the first of these variables that is set. -/
def callsVariables : List String := ["RUST_LIB_BACKTRACE", "RUST_BACKTRACE"]

def filter (env : Environment) : LogFilter :=
  ((env.get? filterVariable).bind LogFilter.parse?).getD .standard

/-- Lines of text are painted unless that is forbidden. -/
def layout (env : Environment) (n : Notice) : LogLine :=
  if env.get? formatVariable = some "json" then .json n.toJson
  else if ((env.get? plainVariable).getD "").isEmpty then .text n.toPaintedText
  else .text n.toText

/-- The environment with what the file, if there is one, adds to it. -/
def environment (env : Environment) (file : Option String) : Environment :=
  match file with
  | some text => EnvFile.load text env
  | none => env

/-- What notices leave in the log. -/
def logged (env : Environment) (notices : List Notice) : List LogLine :=
  (notices.filter fun n => (filter env).enables n.level n.target n.fieldNames).map (layout env)

/-! ## What the service runs on -/

/-- The names in a list, which are set off by blanks and colons; too long ones do not count. -/
def objects (names : String) : List String :=
  ((names.toList.splitOnP fun c => c = ' ' || c = ':').map String.ofList).filter fun name =>
    !name.isEmpty && name.utf8ByteSize < 4096

def complaint (object why : String) : String :=
  "ERROR: ld.so: object '" ++ object ++ "' from LD_PRELOAD cannot be preloaded (" ++ why ++
    "): ignored.\n"

/-- What the loader says before the service begins. -/
def Runtime.complaints (runtime : Runtime) (env : Environment) : String :=
  let names := (env.bytes? objectsVariable).elim "" Text.ofUtf8Lossy
  String.join ((objects names).filterMap fun object =>
    (runtime.unloadable? object).map (complaint object))

def showsCalls (lookup : String → Option String) : Bool :=
  match callsVariables.findSome? lookup with
  | some value => value ≠ "0"
  | none => false

/-- What is said behind the reason of a refusal. -/
def Runtime.trace (runtime : Runtime) (lookup : String → Option String) : String :=
  if showsCalls lookup then
    "\n\nStack backtrace:\n" ++ String.ofList (Text.trimEnd runtime.calls.toList)
  else ""

/-- What follows a plus sign, or everything if there is none. -/
def withoutSign : List Char → List Char
  | '+' :: cs => cs
  | cs => cs

/-- A whole number of at most 64 bits, which is not zero, perhaps behind a plus sign. -/
def workers? (value : Text.Bytes) : Option Nat := do
  let digits := withoutSign (← Text.ofUtf8? value).toList
  let n := Nat.ofDigitChars 10 digits 0
  if digits ≠ [] ∧ digits.all Char.isDigit = true ∧ 0 < n ∧ n < UInt64.size then some n else none

/-- The threads are counted before the file is read. -/
def breakdown? (env : Environment) (file : Option String) : Option Breakdown :=
  match (env.bytes? workersVariable).filter fun value => (workers? value).isNone with
  | some value => some (.workers value)
  | none =>
    (file.bind fun text => EnvFile.unfit? env (EnvFile.lines text)).map fun (name, value) =>
      .assignment name value

/-- The whole run of the service, up to its end by a signal. -/
def run (env : Environment) (file : Option String) (runtime : Runtime := {}) : Launch :=
  let said := runtime.complaints env
  match breakdown? env file with
  | some breakdown => ⟨101, [], [], said ++ runtime.report breakdown⟩
  | none =>
    let env := environment env file
    match Settings.read env.get? with
    | .error e => ⟨1, [], [], said ++ "Error: " ++ e.message ++ runtime.trace env.get? ++ "\n"⟩
    | .ok s =>
      ⟨0, logged env [.listening s], logged env (.shutdown :: Notice.serverEnd), said⟩

end Launch

end HostStatus
