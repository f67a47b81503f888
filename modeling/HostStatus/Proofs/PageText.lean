import HostStatus.Page
import HostStatus.Proofs.LabelledText
import HostStatus.Proofs.MarkupText
import Mathlib.Data.Nat.Notation

/-!
# The status page read back

The page is a fixed sequence of marks with texts between them. Only the platform is free, and its
escaped text has no bracket. All other values are figures, in which nothing of the template's
punctuation occurs. So the data adds no mark, and `Page.read?` finds every value between the labels
of the template.
-/

namespace HostStatus

open Text.Markup

/-! ## Kinds of texts -/

/-- Every character of the text is of this kind. -/
def Consists (p : Char → Bool) (s : String) : Prop :=
  ∀ c ∈ s.toList, p c = true

namespace Consists

variable {p q : Char → Bool} {s t : String}

instance (p : Char → Bool) (s : String) : Decidable (Consists p s) :=
  List.decidableBAll _ s.toList

theorem append (hs : Consists p s) (ht : Consists p t) : Consists p (s ++ t) := by
  intro c hc
  rw [String.toList_append, List.mem_append] at hc
  exact hc.elim (hs c) (ht c)

theorem mono (h : Consists p s) (hpq : ∀ c, p c = true → q c = true) : Consists q s :=
  fun c hc => hpq c (h c hc)

theorem not_mem (h : Consists p s) {c : Char} (hc : p c = false) : c ∉ s.toList := by
  intro hmem
  rw [h c hmem] at hc
  cases hc

end Consists

/-- Characters of sizes, percentages and ports. -/
def isFigure (c : Char) : Bool :=
  c.isDigit || c ∈ [' ', '.', '-', 'B', 'K', 'M', 'G', 'T', 'P', 'N', 'a', 'i', 'n', 'f']

theorem isPlain_of_isFigure (c : Char) (h : isFigure c = true) : isPlain c = true := by
  by_contra hplain
  rw [Bool.not_eq_true] at hplain
  simp only [isPlain, Bool.and_eq_false_iff, decide_eq_false_iff_not, not_not, or_assoc] at hplain
  rcases hplain with rfl | rfl | rfl <;> cases h

theorem isFigure_of_isDigit {c : Char} (h : c.isDigit = true) : isFigure c = true := by
  rw [isFigure, h, Bool.true_or]

theorem isFigure_of_mem_toDigits {n : ℕ} {c : Char} (h : c ∈ Nat.toDigits 10 n) :
    isFigure c = true :=
  isFigure_of_isDigit (Nat.isDigit_of_mem_toDigits (by decide) (Nat.le_refl 10) h)

theorem isFigure_natText (n : ℕ) : Consists isFigure (toString n) := by
  intro c hc
  rw [Nat.toString_eq_repr, Nat.toList_repr] at hc
  exact isFigure_of_mem_toDigits hc

theorem isFigure_fixed {places : ℕ} (x : Decimal.Fixed places) : Consists isFigure x.toText := by
  intro c hc
  rw [Decimal.Fixed.toText, String.toList_ofList, Decimal.Fixed.toChars, List.mem_append,
    List.mem_append, List.mem_cons, List.leftpad, List.mem_append] at hc
  rcases hc with (hc | hc) | rfl | hc | hc
  · split at hc
    · rw [List.mem_singleton.1 hc]
      decide
    · cases hc
  · exact isFigure_of_mem_toDigits hc
  · decide
  · rw [List.eq_of_mem_replicate hc]
    decide
  · exact isFigure_of_mem_toDigits hc

theorem isFigure_fixedText {F : Format} (places : ℕ) (x : Binary F) :
    Consists isFigure (Decimal.fixedText places x) := by
  cases x with
  | nan s p hp => exact (show Consists isFigure "NaN" by decide)
  | infinite s =>
    cases s with
    | false => exact (show Consists isFigure "inf" by decide)
    | true => exact (show Consists isFigure "-inf" by decide)
  | finite s q h => exact isFigure_fixed _

theorem isFigure_bytesText (n : ℕ) : Consists isFigure (bytesText n) := by
  have hunit (u : ByteUnit) : Consists isFigure (" " ++ u.symbol) := by
    cases u <;> decide
  unfold bytesText
  cases (Size.ofBytes n).toOption with
  | none => exact (isFigure_natText n).append (hunit .b)
  | some size =>
    rw [Option.elim, Size.toText, String.append_assoc]
    exact (isFigure_fixed _).append (hunit _)

namespace Page

def front : String :=
  "<!DOCTYPE html>\n<html>\n<head><meta charset=\"utf-8\"><title>" ++ title ++
    "</title></head>\n<body>\n<h1>" ++ title ++ "</h1>\n"

def back : String := "</body>\n</html>\n"

/-! ### Marks -/

def frontSections : List (String × String) :=
  [("!DOCTYPE html", "\n"), ("html", "\n"), ("head", ""), ("meta charset=\"utf-8\"", ""),
    ("title", title), ("/title", ""), ("/head", "\n"), ("body", "\n"), ("h1", title), ("/h1", "\n")]

def backSections : List (String × String) :=
  [("/body", "\n"), ("/html", "\n")]

def paragraphs (stats : SystemStats) (settings : Settings) : List String :=
  ["Platform: " ++ escape stats.platform,
    "CPU Usage: " ++ (Decimal.fixedText 1 stats.cpuPercent ++ "%"),
    "Memory Used: " ++ usageText stats.memory, "Disk Used: " ++ usageText stats.disk,
    "RDP port: " ++ settings.desktopPort.toText, "Web UI port: " ++ settings.webPort.toText]

def paragraph (text : String) : String :=
  "<p>" ++ (text ++ "</p>\n")

theorem render_eq_paragraphs (stats : SystemStats) (settings : Settings) :
    render stats settings =
      front ++
        (paragraphs stats settings).foldr (fun text page => paragraph text ++ page) back := by
  have hplatform : "<p>Platform: " = "<p>" ++ "Platform: " := by decide
  have hcpu : "<p>CPU Usage: " = "<p>" ++ "CPU Usage: " := by decide
  have hpercent : "%</p>\n" = "%" ++ "</p>\n" := by decide
  have hmemory : "<p>Memory Used: " = "<p>" ++ "Memory Used: " := by decide
  have hdisk : "<p>Disk Used: " = "<p>" ++ "Disk Used: " := by decide
  have hdesktop : "<p>RDP port: " = "<p>" ++ "RDP port: " := by decide
  have hweb : "<p>Web UI port: " = "<p>" ++ "Web UI port: " := by decide
  delta render front back paragraphs paragraph
  simp only [List.foldr_cons, List.foldr_nil, hplatform, hcpu, hpercent, hmemory, hdisk, hdesktop,
    hweb, String.append_assoc, -String.reduceAppend]

def paragraphSections (text : String) : List (String × String) :=
  [("p", text), ("/p", "\n")]

def sections (stats : SystemStats) (settings : Settings) : List (String × String) :=
  frontSections ++ ((paragraphs stats settings).flatMap paragraphSections ++ backSections)

def charsOf (sections : List (String × String)) : List Char :=
  (sections.map fun s => (s.1.toList, s.2.toList)).flatMap sectionChars

theorem charsOf_append (front back : List (String × String)) :
    charsOf (front ++ back) = charsOf front ++ charsOf back := by
  rw [charsOf, List.map_append, List.flatMap_append]
  rfl

theorem toList_paragraph (text : String) :
    (paragraph text).toList = charsOf (paragraphSections text) := by
  rw [paragraph, String.toList_append, String.toList_append]
  simp [charsOf, paragraphSections, sectionChars]

theorem toList_render (stats : SystemStats) (settings : Settings) :
    (render stats settings).toList = charsOf (sections stats settings) := by
  have hfront : front.toList = charsOf frontSections := by decide +kernel
  have hback : back.toList = charsOf backSections := by decide +kernel
  have hparagraphs (texts : List String) :
      (texts.foldr (fun text page => paragraph text ++ page) back).toList =
        charsOf (texts.flatMap paragraphSections ++ backSections) := by
    induction texts with
    | nil => exact hback
    | cons text texts ih =>
      rw [List.foldr_cons, String.toList_append, ih, toList_paragraph, List.flatMap_cons,
        List.append_assoc, charsOf_append (paragraphSections text)]
  rw [render_eq_paragraphs, String.toList_append, hfront, hparagraphs, ← charsOf_append, sections]

/-- The marks of every page. -/
def marks : List String :=
  ["!DOCTYPE html", "html", "head", "meta charset=\"utf-8\"", "title", "/title", "/head",
    "body", "h1", "/h1", "p", "/p", "p", "/p", "p", "/p", "p", "/p", "p", "/p", "p", "/p", "/body",
    "/html"]

theorem marks_sections (stats : SystemStats) (settings : Settings) :
    (sections stats settings).map Prod.fst = marks := rfl

theorem isPlain_escape (s : String) : Consists isPlain (escape s) := by
  intro c hc
  rw [escape, String.toList_ofList] at hc
  exact isPlain_of_mem_escapeChars c hc

attribute [local irreducible] bytesText Decimal.fixedText

/-- Sizes as they are published of a snapshot, so that only the platform is arbitrary. -/
theorem isFigure_usage (u : Usage) :
    Consists isFigure (UsageStats.ofUsage u).used ∧
      Consists isFigure (UsageStats.ofUsage u).total :=
  ⟨isFigure_bytesText u.usedBytes, isFigure_bytesText u.totalBytes⟩

theorem isFigure_port (p : Port) : Consists isFigure p.toText :=
  isFigure_natText p.number

theorem isPlain_usageText (u : Usage) : Consists isPlain (usageText (.ofUsage u)) := by
  obtain ⟨hused, htotal⟩ := isFigure_usage u
  have hpercent := isFigure_fixedText 1 (UsageStats.ofUsage u).percent
  have hfront : Consists isPlain ((UsageStats.ofUsage u).used ++ " / " ++
      (UsageStats.ofUsage u).total ++ " (") :=
    (((hused.mono isPlain_of_isFigure).append (by decide)).append
      (htotal.mono isPlain_of_isFigure)).append (by decide)
  exact (hfront.append (hpercent.mono isPlain_of_isFigure)).append (by decide)

theorem isPlain_paragraphs (s : Snapshot) (settings : Settings) :
    ∀ text ∈ paragraphs (.ofSnapshot s) settings, Consists isPlain text := by
  have hcpu := (isFigure_fixedText 1 (SystemStats.ofSnapshot s).cpuPercent).mono isPlain_of_isFigure
  have hport (p : Port) := (isFigure_port p).mono isPlain_of_isFigure
  delta paragraphs
  simp only [List.forall_mem_cons]
  refine ⟨.append (by decide) (isPlain_escape _), .append (by decide) (hcpu.append (by decide)),
    .append (by decide) (isPlain_usageText _), .append (by decide) (isPlain_usageText _),
    .append (by decide) (hport _), .append (by decide) (hport _), ?_⟩
  intro text htext
  cases htext

theorem isPlain_sections (s : Snapshot) (settings : Settings) :
    ∀ x ∈ sections (.ofSnapshot s) settings, '>' ∉ x.1.toList ∧ Consists isPlain x.2 := by
  intro x hx
  rw [sections, List.mem_append, List.mem_append, List.mem_flatMap] at hx
  rcases hx with hx | ⟨text, htext, hx⟩ | hx
  · revert x
    decide
  · rw [paragraphSections, List.mem_cons, List.mem_singleton] at hx
    rcases hx with rfl | rfl
    · exact ⟨show '>' ∉ "p".toList by decide, isPlain_paragraphs s settings text htext⟩
    · exact ⟨by decide, by decide⟩
  · revert x
    decide

/-! ### Values -/

structure ShownUsage where
  used : String
  total : String
  percent : String
  deriving DecidableEq

/-- What a reader of the page is told. -/
structure Shown where
  platform : String
  cpuPercent : String
  memory : ShownUsage
  disk : ShownUsage
  desktopPort : Port
  webPort : Port
  deriving DecidableEq

def shownUsage (u : UsageStats) : ShownUsage :=
  ⟨u.used, u.total, Decimal.fixedText 1 u.percent⟩

def shown (stats : SystemStats) (settings : Settings) : Shown where
  platform := stats.platform
  cpuPercent := Decimal.fixedText 1 stats.cpuPercent
  memory := shownUsage stats.memory
  disk := shownUsage stats.disk
  desktopPort := settings.desktopPort
  webPort := settings.webPort

def labels : List String :=
  ["<p>Platform: ", "</p>", "<p>CPU Usage: ", "%</p>", "<p>Memory Used: ", " / ", " (", "%)</p>",
    "<p>Disk Used: ", " / ", " (", "%)</p>", "<p>RDP port: ", "</p>", "<p>Web UI port: ", "</p>"]

def ofValues? : List (List Char) → Option Shown
  | [_, platform, _, cpu, _, used, total, percent, _, used', total', percent', _, desktop, _,
      web] => do
    pure
      { platform := String.ofList (unescape platform)
        cpuPercent := String.ofList cpu
        memory := ⟨String.ofList used, String.ofList total, String.ofList percent⟩
        disk := ⟨String.ofList used', String.ofList total', String.ofList percent'⟩
        desktopPort := ← Port.ofDigits? desktop
        webPort := ← Port.ofDigits? web }
  | _ => none

/-- Reads what stands between the labels of the template. -/
def read? (page : String) : Option Shown := do
  ofValues? (← between (labels.map String.toList) page.toList)

/-- The labels with the text in front of each. -/
def parts (stats : SystemStats) (settings : Settings) : List (String × String) :=
  [(front, "<p>Platform: "), (escape stats.platform, "</p>"),
    ("\n", "<p>CPU Usage: "), (Decimal.fixedText 1 stats.cpuPercent, "%</p>"),
    ("\n", "<p>Memory Used: "), (stats.memory.used, " / "), (stats.memory.total, " ("),
    (Decimal.fixedText 1 stats.memory.percent, "%)</p>"),
    ("\n", "<p>Disk Used: "), (stats.disk.used, " / "), (stats.disk.total, " ("),
    (Decimal.fixedText 1 stats.disk.percent, "%)</p>"),
    ("\n", "<p>RDP port: "), (settings.desktopPort.toText, "</p>"),
    ("\n", "<p>Web UI port: "), (settings.webPort.toText, "</p>")]

theorem render_eq_labelled (stats : SystemStats) (settings : Settings) :
    render stats settings = labelled (parts stats settings) ++ ("\n" ++ back) := by
  have hclose : "</p>\n" = "</p>" ++ "\n" := by decide
  have hpercent : "%</p>\n" = "%</p>" ++ "\n" := by decide
  have husage : "%)</p>" = "%)" ++ "</p>" := by decide
  delta render labelled parts usageText front back
  simp only [List.foldr_cons, List.foldr_nil, hclose, hpercent, husage, String.append_assoc,
    String.empty_append, -String.reduceAppend]

theorem ends_of_head {c : Char} {text : List Char} (h : c ∉ text) (back : List Char) :
    Ends (c :: back) text :=
  ⟨[], c, back, rfl, List.not_mem_nil, h⟩

theorem ends_of_second {a c : Char} {text : List Char} (h : c ∉ text) (hne : c ≠ a)
    (back : List Char) : Ends (a :: c :: back) text :=
  ⟨[a], c, back, rfl, by rwa [List.mem_singleton], h⟩

theorem ends_newline (back : List Char) : Ends ('<' :: back) "\n".toList :=
  ends_of_head (by decide) back

theorem ends_parts (s : Snapshot) (settings : Settings) :
    ∀ p ∈ parts (.ofSnapshot s) settings, Ends p.2.toList p.1.toList := by
  have hcpu := isFigure_fixedText 1 (SystemStats.ofSnapshot s).cpuPercent
  have hplatform : '<' ∉ (escape (SystemStats.ofSnapshot s).platform).toList := by
    exact (isPlain_escape _).not_mem rfl
  have hfront : ':' ∉ front.toList := by decide +kernel
  have husage (u : Usage) := isFigure_usage u
  have hpercent (u : Usage) := isFigure_fixedText 1 (UsageStats.ofUsage u).percent
  delta parts
  simp only [List.forall_mem_cons]
  refine ⟨⟨"<p>Platform".toList, ':', [' '], rfl, by decide, hfront⟩, ends_of_head hplatform _,
    ends_newline _, ends_of_head (hcpu.not_mem rfl) _, ends_newline _,
    ends_of_second ((husage s.memory).1.not_mem rfl) (by decide) _,
    ends_of_second ((husage s.memory).2.not_mem rfl) (by decide) _,
    ends_of_head ((hpercent s.memory).not_mem rfl) _, ends_newline _,
    ends_of_second ((husage s.disk).1.not_mem rfl) (by decide) _,
    ends_of_second ((husage s.disk).2.not_mem rfl) (by decide) _,
    ends_of_head ((hpercent s.disk).not_mem rfl) _, ends_newline _,
    ends_of_head ((isFigure_port _).not_mem rfl) _, ends_newline _,
    ends_of_head ((isFigure_port _).not_mem rfl) _, ?_⟩
  intro p hp
  cases hp

theorem ofDigits?_toText (p : Port) : Port.ofDigits? p.toText.toList = some p := by
  have htext : p.toText.toList = Nat.toDigits 10 p.number := by
    rw [Port.toText, Nat.toString_eq_repr, Nat.toList_repr]
  have hdigits : (Nat.toDigits 10 p.number).all Char.isDigit = true :=
    List.all_eq_true.2 fun c hc => Nat.isDigit_of_mem_toDigits (by decide) (Nat.le_refl 10) hc
  rw [htext, Port.ofDigits?, if_pos ⟨Nat.toDigits_ne_nil, hdigits⟩, Nat.ofDigitChars_ten_toDigits,
    Port.ofNat?, dif_pos p.number_lt]

theorem ofValues?_parts (stats : SystemStats) (settings : Settings) :
    ofValues? ((parts stats settings).map fun p => p.1.toList) = some (shown stats settings) := by
  have hplatform : String.ofList (unescape (escape stats.platform).toList) = stats.platform := by
    rw [escape, String.toList_ofList, unescape_escapeChars, String.ofList_toList]
  delta parts
  simp only [List.map_cons, List.map_nil, ofValues?, ofDigits?_toText, hplatform,
    String.ofList_toList]
  rfl

/-- Every value is found again where the template puts it. -/
theorem read?_render (s : Snapshot) (settings : Settings) :
    read? (render (.ofSnapshot s) settings) = some (shown (.ofSnapshot s) settings) := by
  have hlabels : labels.map String.toList =
      (parts (.ofSnapshot s) settings).map fun p => p.2.toList := rfl
  rw [read?, render_eq_labelled, String.toList_append, hlabels,
    between_labelled (ends_parts s settings)]
  exact ofValues?_parts _ _

/-- A page is made of what it shows. -/
theorem render_congr {stats stats' : SystemStats} {settings settings' : Settings}
    (h : shown stats settings = shown stats' settings') :
    render stats settings = render stats' settings' := by
  simp only [shown, shownUsage, Shown.mk.injEq, ShownUsage.mk.injEq] at h
  obtain ⟨hplatform, hcpu, ⟨hused, htotal, hpercent⟩, ⟨hused', htotal', hpercent'⟩, hdesktop,
    hweb⟩ := h
  rw [render_eq_labelled, render_eq_labelled, parts, parts, hplatform, hcpu, hused, htotal,
    hpercent, hused', htotal', hpercent', hdesktop, hweb]

/-- Whatever the data is, the page has the marks of the template and no others, no bracket or quote
stands outside of them, and what it shows is read back. So two pages are equal exactly if they show
the same. -/
theorem render_reads_back (s : Snapshot) (settings : Settings) :
    Text.Markup.marks (render (.ofSnapshot s) settings).toList = marks.map String.toList ∧
    (∀ c ∈ outside (render (.ofSnapshot s) settings).toList, c ≠ '<' ∧ c ≠ '>' ∧ c ≠ '"') ∧
    read? (render (.ofSnapshot s) settings) =
      some
        { platform := s.platform
          cpuPercent := Decimal.fixedText 1 s.cpuPercent
          memory :=
            { used := (SystemStats.ofSnapshot s).memory.used
              total := (SystemStats.ofSnapshot s).memory.total
              percent := Decimal.fixedText 1 s.memory.percent }
          disk :=
            { used := (SystemStats.ofSnapshot s).disk.used
              total := (SystemStats.ofSnapshot s).disk.total
              percent := Decimal.fixedText 1 s.disk.percent }
          desktopPort := settings.desktopPort
          webPort := settings.webPort } ∧
    ∀ (t : Snapshot) (others : Settings),
      render (.ofSnapshot t) others = render (.ofSnapshot s) settings ↔
        shown (.ofSnapshot t) others = shown (.ofSnapshot s) settings := by
  have hplain := isPlain_sections s settings
  have hsections : ∀ x ∈ (sections (.ofSnapshot s) settings).map fun x => (x.1.toList, x.2.toList),
      '>' ∉ x.1 ∧ '<' ∉ x.2 := by
    intro x hx
    obtain ⟨y, hy, rfl⟩ := List.mem_map.1 hx
    exact ⟨(hplain y hy).1, (hplain y hy).2.not_mem rfl⟩
  refine ⟨?_, fun c hc => ?_, read?_render s settings, fun t others => ⟨fun h => ?_, render_congr⟩⟩
  · rw [toList_render, charsOf, Text.Markup.marks_sections hsections, List.map_map,
      ← marks_sections (.ofSnapshot s) settings, List.map_map]
    rfl
  · rw [toList_render, charsOf, outside_sections hsections, List.mem_flatMap] at hc
    obtain ⟨x, hx, hc⟩ := hc
    obtain ⟨y, hy, rfl⟩ := List.mem_map.1 hx
    have hchar := (hplain y hy).2 c hc
    simpa [isPlain, and_assoc] using hchar
  · have hread := read?_render t others
    rw [h, read?_render] at hread
    exact (Option.some.inj hread).symm

end Page

end HostStatus
