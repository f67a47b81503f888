import HostStatus.Text.Blank
import HostStatus.Text.Quoted

/-!
# Settings

The two ports of the service come from variables, which may be unset. A port is written in
decimal, perhaps behind a plus sign, with white space around it; anything else is refused with the
text as it was given. Variables are looked up in the order of the settings, and none after a
refused one.
-/

namespace HostStatus

structure Port where
  number : Nat
  number_lt : number < 65536
  deriving DecidableEq

namespace Port

def ofNat? (n : Nat) : Option Port :=
  if h : n < 65536 then some ⟨n, h⟩ else none

/-- At least one digit and nothing else. -/
def ofDigits? (cs : List Char) : Option Port :=
  if cs ≠ [] ∧ cs.all Char.isDigit = true then ofNat? (Nat.ofDigitChars 10 cs 0) else none

def parse? (s : String) : Option Port :=
  match Text.trim s.toList with
  | '+' :: cs => ofDigits? cs
  | cs => ofDigits? cs

def toText (p : Port) : String :=
  toString p.number

end Port

structure Settings where
  /-- The port that the service listens on. -/
  webPort : Port := ⟨5000, by decide⟩
  /-- The remote desktop's port, which is only shown. -/
  desktopPort : Port := ⟨3389, by decide⟩
  deriving DecidableEq

inductive SettingsError where
  | invalidPort (name value : String)
  deriving DecidableEq

def SettingsError.message : SettingsError → String
  | invalidPort name value =>
    name ++ " must be a port number (0-65535), got " ++ Text.quoted value

namespace Settings

def webPortVariable : String := "WEBUI_PORT"

def desktopPortVariable : String := "RDP_PORT"

section Lookup

variable {m : Type → Type} [Monad m]

def readPort (lookup : String → m (Option String)) (name : String) (unset : Port) :
    ExceptT SettingsError m Port := do
  match ← lookup name with
  | none => pure unset
  | some value =>
    match Port.parse? value with
    | some port => pure port
    | none => throw (.invalidPort name value)

def readFrom (lookup : String → m (Option String)) : ExceptT SettingsError m Settings := do
  let standard : Settings := {}
  let webPort ← readPort lookup webPortVariable standard.webPort
  let desktopPort ← readPort lookup desktopPortVariable standard.desktopPort
  pure ⟨webPort, desktopPort⟩

end Lookup

def read (lookup : String → Option String) : Except SettingsError Settings :=
  (readFrom (m := Id) lookup).run

/-- The outcome, and the names that were looked up, in order. -/
def readTraced (lookup : String → Option String) : Except SettingsError Settings × List String :=
  let traced (name : String) : StateM (List String) (Option String) := do
    modify (· ++ [name])
    pure (lookup name)
  (readFrom traced).run.run []

/-- The service listens on all addresses of the host. -/
def address (s : Settings) : String :=
  "0.0.0.0:" ++ s.webPort.toText

end Settings

end HostStatus
