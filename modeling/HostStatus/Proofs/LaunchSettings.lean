import HostStatus.Service.Launch
import HostStatus.Proofs.Variables

/-!
# What a run of the service follows

A setting counts with its value in the environment, or else with what the file first assigns to it.
Unless the run breaks down before that, the two ports alone decide whether the service comes up, how
it exits and which reason it gives on its error output. Around that reason stands what the loader
says, and on demand the calls that led there. The filter, the format and the choice of colours
decide which of its notices are logged, and how, and nothing more; of the target `webui_status`
there are two notices, of which the standard filter lets both through.
-/

namespace HostStatus

open Text

namespace Settings

/-- Only the two ports are looked up. -/
theorem read_congr {lookup lookup' : String → Option String}
    (hweb : lookup webPortVariable = lookup' webPortVariable)
    (hdesktop : lookup desktopPortVariable = lookup' desktopPortVariable) :
    read lookup = read lookup' := by
  simp only [read, readFrom, readPort, hweb, hdesktop]

end Settings

namespace Launch

variable {name : String} {env env' : Environment} {file file' : Option String}

/-! ## Effective values -/

/-- The value of a variable in the environment, or else what is first assigned to it in the file, if
there is one, up to its first line that is not well formed. -/
def effective? (env : Environment) (file : Option String) (name : String) : Option String :=
  (env.get? name).or
    ((file.elim [] fun text => EnvFile.assignments env (EnvFile.lines text)).lookup name)

theorem get?_environment (hname : IsVariable name) (env : Environment) (file : Option String) :
    (environment env file).get? name = effective? env file name := by
  cases file with
  | none => rw [environment, effective?, Option.elim_none, List.lookup_nil, Option.or_none]
  | some text => exact EnvFile.get?_loadLines hname (EnvFile.lines text) env

theorem read_environment (env : Environment) (file : Option String) :
    Settings.read (environment env file).get? = Settings.read (effective? env file) :=
  Settings.read_congr (get?_environment (by decide) env file)
    (get?_environment (by decide) env file)

/-! ## Breakdowns -/

/-- The value is a number of worker threads, perhaps behind a plus sign. -/
def AsksForWorkers (value : Bytes) (n : ℕ) : Prop :=
  ∃ sign digits : List Char, ofUtf8? value = some (String.ofList (sign ++ digits)) ∧
    (sign = [] ∨ sign = ['+']) ∧ digits ≠ [] ∧ (∀ c ∈ digits, c.isDigit = true) ∧
    Nat.ofDigitChars 10 digits 0 = n ∧ 0 < n ∧ n < UInt64.size

/-- Why the service breaks down: it is asked for no number of threads, or a variable that is not set
is to have a value that no entry of the environment can hold. -/
inductive Breaks (env : Environment) (file : Option String) : Prop where
  | workers {value : Bytes} (hvalue : env.bytes? workersVariable = some value)
      (hnone : ∀ n, ¬AsksForWorkers value n)
  | assignment {name value : String} (hunset : env.get? name = none)
      (hvalue : effective? env file name = some value) (hzero : '\x00' ∈ value.toList)

theorem withoutSign_append {sign digits : List Char} (hsign : sign = [] ∨ sign = ['+'])
    (hdigits : ∀ c ∈ digits, c.isDigit = true) : withoutSign (sign ++ digits) = digits := by
  rcases hsign with rfl | rfl
  · rw [List.nil_append]
    unfold withoutSign
    split
    · exact absurd (hdigits '+' List.mem_cons_self) (by decide)
    · rfl
  · rfl

theorem exists_sign (cs : List Char) :
    ∃ sign, (sign = [] ∨ sign = ['+']) ∧ cs = sign ++ withoutSign cs := by
  unfold withoutSign
  split
  · exact ⟨['+'], .inr rfl, rfl⟩
  · exact ⟨[], .inl rfl, rfl⟩

theorem workers?_eq_some {value : Bytes} {n : ℕ} :
    workers? value = some n ↔ AsksForWorkers value n := by
  constructor
  · intro h
    obtain ⟨text, htext, h⟩ := Option.bind_eq_some_iff.1 h
    dsimp only at h
    split_ifs at h with hcounts
    obtain ⟨hne, hall, hrange⟩ := hcounts
    obtain ⟨sign, hsign, hsplit⟩ := exists_sign text.toList
    refine ⟨sign, withoutSign text.toList, ?_, hsign, hne, List.all_eq_true.1 hall,
      Option.some.inj h, Option.some.inj h ▸ hrange⟩
    rw [htext, ← hsplit, String.ofList_toList]
  · rintro ⟨sign, digits, htext, hsign, hne, hall, rfl, hrange⟩
    rw [workers?, htext]
    dsimp only [Option.bind_eq_bind, Option.bind_some]
    rw [String.toList_ofList, withoutSign_append hsign hall,
      if_pos ⟨hne, List.all_eq_true.2 hall, hrange⟩]

theorem exists_assignment_iff (env : Environment) (file : Option String) :
    (file.bind fun text => EnvFile.unfit? env (EnvFile.lines text)).isSome ↔
      ∃ name value, env.get? name = none ∧ effective? env file name = some value ∧
        '\x00' ∈ value.toList := by
  have heffective (name value : String) (hunset : env.get? name = none) :
      effective? env file name = some value ↔
        (file.elim [] fun text => EnvFile.assignments env (EnvFile.lines text)).lookup name =
          some value := by
    rw [effective?, hunset, Option.none_or]
  have hassigns : EnvFile.AssignsUnfit env
        (file.elim [] fun text => EnvFile.assignments env (EnvFile.lines text)) ↔
      ∃ name value, env.get? name = none ∧ effective? env file name = some value ∧
        '\x00' ∈ value.toList :=
    exists₂_congr fun name value => and_congr_right fun hunset =>
      and_congr_left fun _ => (heffective name value hunset).symm
  rw [← hassigns]
  cases file with
  | none =>
    refine iff_of_false Bool.false_ne_true ?_
    rintro ⟨_, _, -, hlookup, -⟩
    cases hlookup
  | some text => exact EnvFile.isSome_unfit? (EnvFile.lines text) env

theorem isSome_breakdown? (env : Environment) (file : Option String) :
    (breakdown? env file).isSome ↔ Breaks env file := by
  unfold breakdown?
  split
  · next value hworkers =>
    obtain ⟨hvalue, hnone⟩ := Option.filter_eq_some_iff.1 hworkers
    refine iff_of_true rfl (.workers hvalue fun n hn => ?_)
    rw [workers?_eq_some.2 hn] at hnone
    cases hnone
  · next hworkers =>
    rw [Option.isSome_map, exists_assignment_iff]
    constructor
    · rintro ⟨name, value, hunset, hvalue, hzero⟩
      exact .assignment hunset hvalue hzero
    · rintro (⟨hvalue, hnone⟩ | ⟨hunset, hvalue, hzero⟩)
      · refine absurd (Option.isNone_iff_eq_none.2 ?_)
          (Option.filter_eq_none_iff.1 hworkers _ hvalue)
        rw [Option.eq_none_iff_forall_ne_some]
        exact fun n hn => hnone n (workers?_eq_some.1 hn)
      · exact ⟨_, _, hunset, hvalue, hzero⟩

instance (env : Environment) (file : Option String) : Decidable (Breaks env file) :=
  decidable_of_iff _ (isSome_breakdown? env file)

/-! ## Filter, format and colours -/

/-- The filter that a setting stands for, which is the standard one unless it is well formed. -/
def filterOf (setting : Option String) : LogFilter :=
  (setting.bind LogFilter.parse?).getD .standard

/-- Colours are forbidden. -/
def IsPlain (setting : Option String) : Prop :=
  ∃ value, setting = some value ∧ value ≠ ""

def lineOf (format plain : Option String) (n : Notice) : LogLine :=
  if format = some "json" then .json n.toJson
  else if (plain.getD "").isEmpty then .text n.toPaintedText
  else .text n.toText

/-- What the service would log without any filter, from its start to its end. -/
def notices (s : Settings) : List Notice :=
  .listening s :: .shutdown :: Notice.serverEnd

/-- The notices that a filter lets through. -/
def passed (f : LogFilter) (notices : List Notice) : List Notice :=
  notices.filter fun n => f.enables n.level n.target n.fieldNames

theorem filter_environment (env : Environment) (file : Option String) :
    filter (environment env file) = filterOf (effective? env file filterVariable) := by
  rw [filter, get?_environment (by decide), filterOf]

theorem layout_environment (env : Environment) (file : Option String) :
    layout (environment env file) =
      lineOf (effective? env file formatVariable) (effective? env file plainVariable) := by
  funext n
  rw [layout, get?_environment (by decide), get?_environment (by decide), lineOf]

theorem isPlain_iff {plain : Option String} : IsPlain plain ↔ (plain.getD "").isEmpty = false := by
  cases plain with
  | none => exact iff_of_false nofun nofun
  | some value => simp [IsPlain]

theorem lineOf_congr {format format' plain plain' : Option String}
    (hformat : format = some "json" ↔ format' = some "json")
    (hplain : IsPlain plain ↔ IsPlain plain') : lineOf format plain = lineOf format' plain' := by
  have hcolours : ((plain.getD "").isEmpty = true) = ((plain'.getD "").isEmpty = true) := by
    rw [isPlain_iff, isPlain_iff, Bool.eq_false_iff, Bool.eq_false_iff, not_iff_not] at hplain
    exact propext hplain
  funext n
  rw [lineOf, lineOf, if_congr hformat rfl (if_congr (Iff.of_eq hcolours) rfl rfl)]

/-- The server's own notices come from another target. -/
theorem filter_notices (s : Settings) :
    (notices s).filter (·.target = "webui_status") = [.listening s, .shutdown] :=
  rfl

theorem passed_standard (s : Settings) :
    passed .standard (notices s) = [.listening s, .shutdown] :=
  rfl

/-- What is said when the service comes up: where it listens, and the port of the remote desktop. -/
def listeningLine (s : Settings) (format plain : Option String) : LogLine :=
  let told := "status page listening on http://0.0.0.0:" ++ toString s.webPort.number
  let port := toString s.desktopPort.number
  if format = some "json" then
    .json (.object
      [("level", .string "INFO"),
        ("fields", .object [("message", .string told), ("rdp_port", .number port)]),
        ("target", .string "webui_status")])
  else if (plain.getD "").isEmpty then
    .text ("\x1b[32m INFO\x1b[0m \x1b[2mwebui_status\x1b[0m\x1b[2m:\x1b[0m " ++ told ++
      " \x1b[3mrdp_port\x1b[0m\x1b[2m=\x1b[0m" ++ port)
  else .text ("INFO webui_status: " ++ told ++ " rdp_port=" ++ port)

/-- What is said when it ends. -/
def shutdownLine (format plain : Option String) : LogLine :=
  let told := "Shutdown signal received, starting graceful shutdown"
  if format = some "json" then
    .json (.object
      [("level", .string "INFO"), ("fields", .object [("message", .string told)]),
        ("target", .string "webui_status")])
  else if (plain.getD "").isEmpty then
    .text ("\x1b[32m INFO\x1b[0m \x1b[2mwebui_status\x1b[0m\x1b[2m:\x1b[0m " ++ told)
  else .text ("INFO webui_status: " ++ told)

theorem lineOf_shutdown (format plain : Option String) :
    lineOf format plain .shutdown = shutdownLine format plain := by
  have htext : Notice.shutdown.toText =
      "INFO webui_status: " ++ "Shutdown signal received, starting graceful shutdown" :=
    String.append_empty
  have hpainted : Notice.shutdown.toPaintedText =
      "\x1b[32m INFO\x1b[0m \x1b[2mwebui_status\x1b[0m\x1b[2m:\x1b[0m " ++
        "Shutdown signal received, starting graceful shutdown" := by
    change _ ++ Notice.shutdown.message ++ String.join [] = _
    exact String.append_empty
  rw [lineOf, hpainted, htext]
  rfl

theorem lineOf_listening (s : Settings) (format plain : Option String) :
    lineOf format plain (.listening s) = listeningLine s format plain := by
  let told := "status page listening on http://0.0.0.0:" ++ toString s.webPort.number
  let port := toString s.desktopPort.number
  have hmessage : (Notice.listening s).message = told := by
    change "status page listening on http://" ++ ("0.0.0.0:" ++ toString s.webPort.number) = told
    rw [← String.append_assoc]
    rfl
  have hjoin (line : String) : String.join [line] = line := String.empty_append
  have htext : (Notice.listening s).toText =
      "INFO webui_status: " ++ told ++ " rdp_port=" ++ port := by
    change "INFO webui_status: " ++ (Notice.listening s).message ++
      String.join [" rdp_port=" ++ port] = _
    rw [hmessage, hjoin, ← String.append_assoc]
  have hpainted : (Notice.listening s).toPaintedText =
      "\x1b[32m INFO\x1b[0m \x1b[2mwebui_status\x1b[0m\x1b[2m:\x1b[0m " ++ told ++
        " \x1b[3mrdp_port\x1b[0m\x1b[2m=\x1b[0m" ++ port := by
    change "\x1b[32m INFO\x1b[0m \x1b[2mwebui_status\x1b[0m\x1b[2m:\x1b[0m " ++
      (Notice.listening s).message ++
        String.join [" \x1b[3mrdp_port\x1b[0m\x1b[2m=\x1b[0m" ++ port] = _
    rw [hmessage, hjoin, ← String.append_assoc]
  rw [lineOf, hpainted, htext, Notice.toJson, hmessage]
  rfl

/-! ## Runs -/

variable {runtime : Runtime}

theorem complaints_of_unset (runtime : Runtime) (h : env.bytes? objectsVariable = none) :
    runtime.complaints env = "" := by
  rw [Runtime.complaints, h]
  rfl

theorem showsCalls_environment (env : Environment) (file : Option String) :
    showsCalls (environment env file).get? = showsCalls (effective? env file) := by
  have hlookup : callsVariables.findSome? (environment env file).get? =
      callsVariables.findSome? (effective? env file) := by
    simp only [callsVariables, List.findSome?_cons, List.findSome?_nil,
      get?_environment (show IsVariable "RUST_LIB_BACKTRACE" by decide),
      get?_environment (show IsVariable "RUST_BACKTRACE" by decide)]
  rw [showsCalls, showsCalls, hlookup]

theorem trace_congr (runtime : Runtime) {lookup lookup' : String → Option String}
    (h : showsCalls lookup = showsCalls lookup') :
    runtime.trace lookup = runtime.trace lookup' := by
  rw [Runtime.trace, Runtime.trace, h]

theorem run_of_breaks (runtime : Runtime) (h : Breaks env file) :
    (run env file runtime).exitCode = 101 ∧ (run env file runtime).output = [] := by
  obtain ⟨breakdown, hbreakdown⟩ := Option.isSome_iff_exists.1 ((isSome_breakdown? env file).2 h)
  rw [run, hbreakdown]
  exact ⟨rfl, rfl⟩

theorem breakdown?_eq_none (h : ¬Breaks env file) : breakdown? env file = none := by
  rwa [← isSome_breakdown?, Option.not_isSome_iff_eq_none] at h

theorem run_of_error (runtime : Runtime) (hsound : ¬Breaks env file) {e : SettingsError}
    (h : Settings.read (effective? env file) = .error e) :
    (run env file runtime).exitCode = 1 ∧ (run env file runtime).output = [] ∧
      (run env file runtime).error = runtime.complaints env ++ "Error: " ++ e.message ++
        runtime.trace (effective? env file) ++ "\n" := by
  rw [← read_environment] at h
  rw [run, breakdown?_eq_none hsound]
  dsimp only
  rw [h, trace_congr runtime (showsCalls_environment env file)]
  exact ⟨rfl, rfl, rfl⟩

theorem run_of_ok (runtime : Runtime) (hsound : ¬Breaks env file) {s : Settings}
    (h : Settings.read (effective? env file) = .ok s) :
    (run env file runtime).exitCode = 0 ∧
      (run env file runtime).error = runtime.complaints env ∧
      (run env file runtime).output =
        (passed (filterOf (effective? env file filterVariable)) (notices s)).map
          (lineOf (effective? env file formatVariable) (effective? env file plainVariable)) := by
  rw [← read_environment] at h
  rw [← filter_environment, ← layout_environment, run, breakdown?_eq_none hsound]
  dsimp only
  rw [h]
  refine ⟨rfl, rfl, ?_⟩
  change logged _ _ ++ logged _ _ = _
  rw [logged, logged, ← List.map_append, ← List.filter_append]
  rfl

end Launch

end HostStatus
