import HostStatus.Proofs.PortVariables
import HostStatus.Proofs.QuotedText

/-!
# Messages about refused ports

A variable that is no port is refused with its name and its text, and the message quotes the text.
So the message is a line by itself if the name is one, and both can be read from it: the words
between them do not end in a backslash, which is all that quoted text asks of what comes before it.
-/

namespace HostStatus

open Text (IsSingleLine isSingleLine_append)

variable {lookup lookup' : String → Option String} {name name' value value' : String}
  {unset unset' : Port} {e e' : SettingsError}

/-! ## Messages -/

namespace SettingsError

/-- What stands between the name and the text. -/
def complaint : String := " must be a port number (0-65535), got "

theorem toList_message (name value : String) :
    (invalidPort name value).message.toList =
      name.toList ++ complaint.toList ++ Text.Quoted.encode value.toList := by
  have hquoted : (Text.quoted value).toList = Text.Quoted.encode value.toList :=
    String.toList_ofList
  change (name ++ complaint ++ Text.quoted value).toList = _
  rw [String.toList_append, String.toList_append, hquoted]

theorem getLast?_append_complaint (cs : List Char) :
    (cs ++ complaint.toList).getLast? = some ' ' := by
  have hne : complaint.toList ≠ [] := by decide
  have hlast : complaint.toList.getLast? = some ' ' := by decide
  rw [List.getLast?_append_of_ne_nil cs hne, hlast]

theorem message_injective : Function.Injective message := by
  rintro ⟨name, value⟩ ⟨name', value'⟩ h
  have hslash (cs : List Char) : (cs ++ complaint.toList).getLast? ≠ some '\\' := by
    rw [getLast?_append_complaint]
    decide
  have h := congrArg String.toList h
  rw [toList_message, toList_message] at h
  obtain ⟨hname, hvalue⟩ := Text.Quoted.append_encode_injective (hslash _) (hslash _) h
  rw [String.toList_injective (List.append_cancel_right hname), String.toList_injective hvalue]

theorem isSingleLine_message :
    IsSingleLine (invalidPort name value).message.toList ↔ IsSingleLine name.toList := by
  have hcomplaint : IsSingleLine complaint.toList := Text.isSingleLine_of_ascii (by decide)
  have hquoted : IsSingleLine (Text.Quoted.encode value.toList) :=
    Text.isSingleLine_of_isPrintable fun _ => Text.Quoted.isPrintable_of_mem_encode
  rw [toList_message, isSingleLine_append, isSingleLine_append, and_assoc]
  exact and_iff_left ⟨hcomplaint, hquoted⟩

end SettingsError

/-! ## Refusals -/

namespace Settings

theorem settle_eq_error {value : Option String} :
    settle name unset value = .error e ↔
      ∃ text, value = some text ∧ ¬IsPortText text ∧ e = .invalidPort name text := by
  cases value with
  | none => exact iff_of_false nofun nofun
  | some text =>
    by_cases hport : IsPortText text
    · obtain ⟨port, hok⟩ : ∃ port, settle name unset (some text) = .ok port :=
        exists_settle_iff.2 (by rintro _ ⟨⟩; exact hport)
      refine iff_of_false (by rw [hok]; exact nofun) ?_
      rintro ⟨_, ⟨⟩, hbad, -⟩
      exact hbad hport
    · rw [settle_of_refused hport, Except.error.injEq]
      constructor
      · rintro rfl
        exact ⟨text, rfl, hport, rfl⟩
      · rintro ⟨_, ⟨⟩, -, rfl⟩
        rfl

theorem readPort_eq_error :
    (readPort (m := Id) lookup name unset).run = Except.error e ↔
      ∃ text, lookup name = some text ∧ ¬IsPortText text ∧ e = .invalidPort name text := by
  rw [run_readPort]
  exact settle_eq_error

theorem exists_of_read_eq_error (h : read lookup = .error e) :
    ∃ name ∈ [webPortVariable, desktopPortVariable], ∃ text, lookup name = some text ∧
      ¬IsPortText text ∧ e = .invalidPort name text := by
  rw [read_eq] at h
  cases hweb : settleWeb {} (lookup webPortVariable) with
  | error e' =>
    rw [hweb] at h
    cases h
    exact ⟨webPortVariable, List.mem_cons_self, settle_eq_error.1 hweb⟩
  | ok web =>
    rw [hweb] at h
    cases hdesktop : settleDesktop {} (lookup desktopPortVariable) with
    | error e' =>
      rw [hdesktop] at h
      cases h
      exact ⟨desktopPortVariable, by decide, settle_eq_error.1 hdesktop⟩
    | ok desktop =>
      rw [hdesktop] at h
      cases h

theorem isSingleLine_of_read_eq_error (h : read lookup = .error e) :
    IsSingleLine e.message.toList := by
  obtain ⟨name, hname, value, -, -, rfl⟩ := exists_of_read_eq_error h
  refine SettingsError.isSingleLine_message.2 ?_
  rcases List.mem_pair.1 hname with rfl | rfl
  · exact Text.isSingleLine_of_ascii (by decide)
  · exact Text.isSingleLine_of_ascii (by decide)

/-- A variable that is refused as a port is reported in one line without controls exactly if its
name is such a line, as the names of the settings are. A report tells which variable had which
value: equal reports of any two refusals, by whichever look-ups, are about one name and one value.
-/
theorem refusals_tell_name_and_value_in_one_line :
    (∀ (lookup : String → Option String) (name : String) (unset : Port) (e : SettingsError),
      (readPort (m := Id) lookup name unset).run = Except.error e →
        (IsSingleLine e.message.toList ↔ IsSingleLine name.toList)) ∧
    (∀ (lookup : String → Option String) (e : SettingsError), read lookup = .error e →
      IsSingleLine e.message.toList) ∧
    ∀ (lookup lookup' : String → Option String) (name name' : String) (unset unset' : Port)
      (e e' : SettingsError),
      (readPort (m := Id) lookup name unset).run = Except.error e →
      (readPort (m := Id) lookup' name' unset').run = Except.error e' →
      e.message = e'.message →
        name = name' ∧ ∃ value, lookup name = some value ∧ lookup' name' = some value := by
  refine ⟨fun lookup name unset e h => ?_, fun lookup e => isSingleLine_of_read_eq_error,
    fun lookup lookup' name name' unset unset' e e' h h' hmessage => ?_⟩
  · obtain ⟨value, -, -, rfl⟩ := readPort_eq_error.1 h
    exact SettingsError.isSingleLine_message
  · obtain ⟨value, hvalue, -, rfl⟩ := readPort_eq_error.1 h
    obtain ⟨value', hvalue', -, rfl⟩ := readPort_eq_error.1 h'
    obtain ⟨rfl, rfl⟩ := SettingsError.invalidPort.inj (SettingsError.message_injective hmessage)
    exact ⟨rfl, value, hvalue, hvalue'⟩

/-- A line feed and the escape that it is shown as are reported differently, since the escape's own
backslash is escaped. -/
theorem refusals_tell_name_and_value_in_one_line_of_escape :
    let values (text _ : String) : Option String := some text
    let standard : Port := ({} : Settings).desktopPort
    let feed : SettingsError := .invalidPort "RDP_PORT" "\n"
    let escape : SettingsError := .invalidPort "RDP_PORT" "\\n"
    (readPort (m := Id) (values "\n") "RDP_PORT" standard).run = Except.error feed ∧
      (readPort (m := Id) (values "\\n") "RDP_PORT" standard).run = Except.error escape ∧
      IsSingleLine feed.message.toList ∧ feed.message ≠ escape.message := by
  intro values standard feed escape
  have hfeed : (readPort (m := Id) (values "\n") "RDP_PORT" standard).run = Except.error feed :=
    readPort_eq_error.2 ⟨"\n", rfl, by decide +kernel, rfl⟩
  have hescape : (readPort (m := Id) (values "\\n") "RDP_PORT" standard).run =
      Except.error escape :=
    readPort_eq_error.2 ⟨"\\n", rfl, by decide +kernel, rfl⟩
  have hname : IsSingleLine "RDP_PORT".toList := Text.isSingleLine_of_ascii (by decide)
  obtain ⟨hline, -, hvalues⟩ := refusals_tell_name_and_value_in_one_line
  refine ⟨hfeed, hescape, (hline _ _ _ _ hfeed).2 hname, fun h => ?_⟩
  obtain ⟨-, value, hfirst, hsecond⟩ := hvalues _ _ _ _ _ _ _ _ hfeed hescape h
  have hsame : "\n" = "\\n" := Option.some.inj (hfirst.trans hsecond.symm)
  exact absurd hsame (by decide)

end Settings

end HostStatus
