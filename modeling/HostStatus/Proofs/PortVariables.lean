import HostStatus.Proofs.PortText

/-!
# Ports from variables

Each variable is settled on its own: it is unset, or its text is a port, or it is refused with its
text as it was given. `run_readFrom` says in which order this is done, for look-ups of any kind, and
what is read and what was looked up follow from it.
-/

namespace HostStatus

namespace Settings

variable {lookup : String → Option String} {name text : String} {unset port : Port}
  {value : Option String}

/-! ## One variable -/

/-- The variable is unset or spells a port. -/
def Acceptable (value : Option String) : Prop :=
  ∀ text ∈ value, IsPortText text

/-- The number that a variable stands for, which is a standard one if it is unset. -/
def StandsFor (value : Option String) (unset n : ℕ) : Prop :=
  match value with
  | none => n = unset
  | some text => SpellsNumber text n

/-- What becomes of a variable with that value. -/
def settle (name : String) (unset : Port) : Option String → Except SettingsError Port
  | none => .ok unset
  | some text => (Port.parse? text).elim (.error (.invalidPort name text)) .ok

theorem settle_eq_ok :
    settle name unset value = .ok port ↔ StandsFor value unset.number port.number := by
  cases value with
  | none =>
    constructor
    · rintro ⟨⟩
      rfl
    · intro h
      rw [settle, Port.number_injective h]
  | some text =>
    rw [StandsFor, ← Port.parse?_eq_some, settle]
    cases Port.parse? text with
    | none => exact iff_of_false nofun nofun
    | some p => rw [Option.elim_some, Except.ok.injEq, Option.some.injEq]

theorem exists_settle_iff : (∃ port, settle name unset value = .ok port) ↔ Acceptable value := by
  simp only [settle_eq_ok]
  cases value with
  | none => exact iff_of_true ⟨unset, rfl⟩ nofun
  | some text =>
    constructor
    · rintro ⟨port, hport⟩ _ ⟨⟩
      exact ⟨port.number, hport, Nat.le_of_lt_succ port.number_lt⟩
    · intro h
      obtain ⟨n, hspells, hn⟩ := h text rfl
      exact ⟨⟨n, Nat.lt_succ_of_le hn⟩, hspells⟩

theorem settle_of_refused (h : ¬IsPortText text) :
    settle name unset (some text) = .error (.invalidPort name text) := by
  rw [Port.isPortText_iff, Option.not_isSome_iff_eq_none] at h
  rw [settle, h, Option.elim_none]

/-! ## Both variables -/

/-- What becomes of the variable for the web port, if the ports of `standard` are the
standard ones. -/
def settleWeb (standard : Settings) : Option String → Except SettingsError Port :=
  settle webPortVariable standard.webPort

/-- What becomes of the variable for the remote desktop port. -/
def settleDesktop (standard : Settings) : Option String → Except SettingsError Port :=
  settle desktopPortVariable standard.desktopPort

theorem run_readPort {m : Type → Type} [Monad m] [LawfulMonad m]
    (lookup : String → m (Option String)) (name : String) (unset : Port) :
    (readPort lookup name unset).run = settle name unset <$> lookup name := by
  rw [readPort, ExceptT.run_bind, ← bind_pure_comp]
  change (ExceptT.run (ExceptT.lift (lookup name))) >>= _ = _
  rw [ExceptT.run_lift, bind_map_left]
  congr 1
  funext value
  cases value with
  | none => rfl
  | some text =>
    rw [settle]
    dsimp only
    cases Port.parse? text <;> rfl

/-- The second variable is looked up only if the first is no error. -/
theorem run_readFrom {m : Type → Type} [Monad m] [LawfulMonad m]
    (lookup : String → m (Option String)) :
    (readFrom lookup).run =
      lookup webPortVariable >>= fun value =>
        match settleWeb {} value with
        | .error e => pure (.error e)
        | .ok web =>
          (fun value => (settleDesktop {} value).map (⟨web, ·⟩)) <$>
            lookup desktopPortVariable := by
  have hweb : (readPort lookup webPortVariable ({} : Settings).webPort).run =
      settleWeb {} <$> lookup webPortVariable := run_readPort ..
  have hdesktop : (readPort lookup desktopPortVariable ({} : Settings).desktopPort).run =
      settleDesktop {} <$> lookup desktopPortVariable := run_readPort ..
  rw [readFrom, ExceptT.run_bind, hweb, bind_map_left]
  congr 1
  funext value
  cases settleWeb {} value with
  | error e => rfl
  | ok web =>
    dsimp only
    rw [ExceptT.run_bind, hdesktop, bind_map_left, ← bind_pure_comp]
    congr 1
    funext value
    cases settleDesktop {} value <;> rfl

theorem read_eq (lookup : String → Option String) :
    read lookup =
      match settleWeb {} (lookup webPortVariable) with
      | .error e => .error e
      | .ok web => (settleDesktop {} (lookup desktopPortVariable)).map (⟨web, ·⟩) := by
  rw [read, run_readFrom]
  rfl

theorem readTraced_eq (lookup : String → Option String) :
    readTraced lookup =
      match settleWeb {} (lookup webPortVariable) with
      | .error e => (.error e, [webPortVariable])
      | .ok web =>
        ((settleDesktop {} (lookup desktopPortVariable)).map (⟨web, ·⟩),
          [webPortVariable, desktopPortVariable]) := by
  rw [readTraced, run_readFrom, StateT.run_bind]
  change (match settleWeb {} (lookup webPortVariable) with
    | .error e => pure (.error e)
    | .ok web => _ : StateM (List String) (Except SettingsError Settings)).run [webPortVariable] = _
  cases settleWeb {} (lookup webPortVariable) with
  | error e => rfl
  | ok web => rfl

theorem readTraced_fst (lookup : String → Option String) : (readTraced lookup).1 = read lookup := by
  rw [readTraced_eq, read_eq]
  cases settleWeb {} (lookup webPortVariable) <;> rfl

theorem read_eq_ok {s : Settings} :
    read lookup = .ok s ↔
      settleWeb {} (lookup webPortVariable) = .ok s.webPort ∧
        settleDesktop {} (lookup desktopPortVariable) = .ok s.desktopPort := by
  obtain ⟨web, desktop⟩ := s
  rw [read_eq]
  cases settleWeb {} (lookup webPortVariable) with
  | error e => exact iff_of_false nofun nofun
  | ok web' =>
    cases settleDesktop {} (lookup desktopPortVariable) with
    | error e => exact iff_of_false nofun nofun
    | ok desktop' => simp [Except.map]

theorem exists_read_iff :
    (∃ s, read lookup = .ok s) ↔
      Acceptable (lookup webPortVariable) ∧ Acceptable (lookup desktopPortVariable) := by
  have hwebs : (∃ web, settleWeb {} (lookup webPortVariable) = .ok web) ↔
      Acceptable (lookup webPortVariable) := exists_settle_iff
  have hdesktops : (∃ desktop, settleDesktop {} (lookup desktopPortVariable) = .ok desktop) ↔
      Acceptable (lookup desktopPortVariable) := exists_settle_iff
  rw [← hwebs, ← hdesktops]
  simp only [read_eq_ok]
  constructor
  · rintro ⟨s, hweb, hdesktop⟩
    exact ⟨⟨s.webPort, hweb⟩, s.desktopPort, hdesktop⟩
  · rintro ⟨⟨web, hweb⟩, desktop, hdesktop⟩
    exact ⟨⟨web, desktop⟩, hweb, hdesktop⟩

theorem readTraced_of_acceptable (h : Acceptable (lookup webPortVariable)) :
    readTraced lookup = (read lookup, [webPortVariable, desktopPortVariable]) := by
  obtain ⟨web, hweb⟩ : ∃ web, settleWeb {} (lookup webPortVariable) = .ok web :=
    exists_settle_iff.2 h
  rw [readTraced_eq, read_eq, hweb]

theorem readTraced_of_web_refused (h : lookup webPortVariable = some text)
    (hbad : ¬IsPortText text) :
    readTraced lookup = (.error (.invalidPort webPortVariable text), [webPortVariable]) := by
  have hrefused : settleWeb {} (some text) = .error (.invalidPort webPortVariable text) :=
    settle_of_refused hbad
  rw [readTraced_eq, h, hrefused]

theorem read_of_desktop_refused (hweb : Acceptable (lookup webPortVariable))
    (h : lookup desktopPortVariable = some text) (hbad : ¬IsPortText text) :
    read lookup = .error (.invalidPort desktopPortVariable text) := by
  obtain ⟨web, hsettled⟩ : ∃ web, settleWeb {} (lookup webPortVariable) = .ok web :=
    exists_settle_iff.2 hweb
  have hrefused : settleDesktop {} (some text) = .error (.invalidPort desktopPortVariable text) :=
    settle_of_refused hbad
  rw [read_eq, hsettled, h, hrefused]
  rfl

/-- No third variable is looked at. -/
theorem readTraced_congr {lookup' : String → Option String}
    (hweb : lookup' webPortVariable = lookup webPortVariable)
    (hdesktop : lookup' desktopPortVariable = lookup desktopPortVariable) :
    readTraced lookup' = readTraced lookup := by
  rw [readTraced_eq, readTraced_eq lookup, hweb, hdesktop]

/-- The settings are read exactly if both variables are unset or spell a port, and then they are
what these stand for. The first variable that does neither is refused with its text, and no other is
looked up after it; no third variable matters. -/
theorem read_accepts_exactly_ports (lookup : String → Option String) :
    ((∃ s, read lookup = .ok s) ↔
      Acceptable (lookup "WEBUI_PORT") ∧ Acceptable (lookup "RDP_PORT")) ∧
    (∀ s, read lookup = .ok s ↔
      StandsFor (lookup "WEBUI_PORT") 5000 s.webPort.number ∧
        StandsFor (lookup "RDP_PORT") 3389 s.desktopPort.number) ∧
    (∀ text, lookup "WEBUI_PORT" = some text → ¬IsPortText text →
      readTraced lookup = (.error (.invalidPort "WEBUI_PORT" text), ["WEBUI_PORT"])) ∧
    (∀ text, Acceptable (lookup "WEBUI_PORT") → lookup "RDP_PORT" = some text → ¬IsPortText text →
      readTraced lookup = (.error (.invalidPort "RDP_PORT" text), ["WEBUI_PORT", "RDP_PORT"])) ∧
    (Acceptable (lookup "WEBUI_PORT") → (readTraced lookup).2 = ["WEBUI_PORT", "RDP_PORT"]) ∧
    (readTraced lookup).1 = read lookup ∧
    ∀ lookup' : String → Option String, lookup' "WEBUI_PORT" = lookup "WEBUI_PORT" →
      lookup' "RDP_PORT" = lookup "RDP_PORT" → readTraced lookup' = readTraced lookup := by
  refine ⟨exists_read_iff, fun s => ?_, fun text => readTraced_of_web_refused,
    fun text hweb htext hbad => ?_, fun hweb => ?_, readTraced_fst lookup,
    fun lookup' => readTraced_congr⟩
  · rw [read_eq_ok]
    exact and_congr settle_eq_ok settle_eq_ok
  · have htraced := readTraced_of_acceptable hweb
    rwa [read_of_desktop_refused hweb htext hbad] at htraced
  · have htraced := readTraced_of_acceptable hweb
    exact congrArg Prod.snd htraced

/-- Many zeros are no overflow, and one above the last port is refused with its blank. -/
theorem read_accepts_exactly_ports_of_zeros :
    let lookup (name : String) : Option String :=
      if name = "WEBUI_PORT" then some "\u3000+000000000000000000000008080\n"
      else if name = "RDP_PORT" then some " 65536"
      else none
    Acceptable (lookup "WEBUI_PORT") ∧ lookup "RDP_PORT" = some " 65536" ∧ ¬IsPortText " 65536" ∧
      readTraced lookup =
        (.error (.invalidPort "RDP_PORT" " 65536"), ["WEBUI_PORT", "RDP_PORT"]) := by
  intro lookup
  have hweb : Acceptable (lookup "WEBUI_PORT") := by
    rintro _ ⟨⟩
    decide +kernel
  have hdesktop : ¬IsPortText " 65536" := by decide +kernel
  obtain ⟨-, -, -, hrefused, -⟩ := read_accepts_exactly_ports lookup
  exact ⟨hweb, rfl, hdesktop, hrefused " 65536" hweb rfl hdesktop⟩

end Settings

end HostStatus
