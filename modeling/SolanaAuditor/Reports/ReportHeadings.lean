/- SolanaAuditor/Reports/ReportHeadings
   digest: The sections of the report that audit-report.py writes, by their heading lines. -/

import SolanaAuditor.Lib.Lines
import SolanaAuditor.Reports.AuditRun
import SolanaAuditor.Reports.ReadBack

set_option autoImplicit false
set_option relaxedAutoImplicit false

namespace SolanaAuditor.Reports.AuditReport

open SolanaAuditor.Lib SolanaAuditor.Lib.Lines
open SolanaAuditor.Reports.ReportCheck (flat flat_append flat_lit flat_split toList_written
  summaryFields scopeTexts summarySentence toList_summarySentence exists_toString)

section Defs

/-- `### ` -/
def sectionMark : List Char := ['#', '#', '#', ' ']

/-- The lines of a report that begin a `### ` section. -/
def sectionHeads (report : String) : List (List Char) := headed '\n' sectionMark report.toList

variable (text : PyText)

/-- The parts that `render_report` puts on the heading of the `i`-th finding. -/
def headingParts (i : Nat) (f : PyDict) : Line := [
  .lit "### ", shown text (field f "id" (.str (defaultId i))), .lit ": ",
  shown text (field f "title" (.str "Untitled")), .lit " ",
  severityBadge text (severityText "INFO" f), .lit "\n"]

/-- The headings of the findings, the first of which is the `i`-th. -/
def headings : Nat → List PyDict → List (List Char)
  | _, [] => []
  | i, f :: findings => firstLine '\n' (flat (headingParts text i f)) :: headings (i + 1) findings

/-- A report is written whose sections are those of the findings, by severity. -/
def Sectioned (generated : String) (raw : PyDict) (findings : List PyDict) : Prop :=
  ∃ report, main text generated (.obj raw) = .ok (some report) ∧
    sectionHeads report = headings text 1 (bySeverity text findings)

/-- The text has a line of its own that begins a section. -/
def startsSection (s : String) : Bool := isSubstring "\n### " s

/-! The texts that a report shows, each with the blank that follows it on its line. -/

def shownWhen (v : Json) : List String := if truthy v then [text.format v] else []

/-- A value, and another one that is shown after a blank where it is true. -/
def shownBefore (v next : Json) : List String :=
  if truthy next then [text.format v ++ " ", text.format next] else [text.format v]

def locationField (f : PyDict) (key : String) (default : Json) : Json :=
  ((field f "location" (.obj [])).get? key).getD default

def cvssShown (f : PyDict) : List String :=
  match f.get "cvss" with
  | .null => []
  | cvss => shownBefore text cvss (field f "cvss_vector" (.str ""))

def locationShown (f : PyDict) : List String :=
  [text.format (locationField f "file" (.str "N/A"))] ++
  if truthy (locationField f "line" .null) then
    shownBefore text (locationField f "line" .null) (locationField f "function" (.str ""))
  else shownWhen text (locationField f "function" (.str ""))

def findingShown (f : PyDict) : List String :=
  [text.format (field f "id" (.str "")), text.format (field f "title" (.str "Untitled")) ++ " ",
    severityText "INFO" f] ++
  cvssShown text f ++ shownWhen text (field f "cwe" (.str "")) ++ locationShown text f ++
  shownWhen text (f.get "poc_path") ++
  [text.format (field f "description" (.str "No description provided.")),
    text.format (field f "impact" (.str "Impact not assessed.")),
    text.format (field f "recommendation" (.str "No recommendation provided."))]

def documentShown (raw : PyDict) : List String :=
  [text.format (field (summaryFields raw) "program_name" (.str "Unknown Program")),
    text.format (field (summaryFields raw) "repo" (.str "N/A")),
    text.format (field (summaryFields raw) "audit_date" (.str "N/A")),
    text.format (field (summaryFields raw) "skill_version" (.str "N/A"))] ++
  scopeTexts text (field raw "out_of_scope" (.arr []))

end Defs

section Breaks

/-- A line of the script that makes a section after its own start. -/
def Breaks (line : Line) : Prop := '\n' :: sectionMark <:+: flat line

variable {s v : String} {line parts : Line}

theorem startsSection_iff : startsSection s = true ↔ '\n' :: sectionMark <:+: s.toList := by
  have hmark : "\n### ".toList = '\n' :: sectionMark := by decide
  rw [startsSection, isSubstring, decide_eq_true_eq, hmark]

/-- A check of a literal text is made on its letters. -/
theorem spelled (check : List Char → Bool) {l : List Char} (h : check l = true) :
    check (String.ofList l).toList = true := by
  rwa [String.toList_ofList]

/-- No section starts after a line end within this text. -/
def calm : List Char → Bool
  | [] | [_] => true
  | c :: d :: rest => (c != '\n' || d != '#') && calm (d :: rest)

/-- No section starts in this text, whatever follows it. -/
def inert (w : List Char) : Bool := calm w && w.getLast? != some '\n'

/-- The text begins with a letter that the mark does not have. -/
def stops (w : List Char) : Bool := w.head?.any fun c => !sectionMark.contains c

def blankFirst (w : List Char) : Bool := w.head? == some ' '

theorem calm_iff {w t : List Char} (h : calm w = true) :
    '\n' :: sectionMark <:+: w ++ t ↔
      '\n' :: sectionMark <:+: t ∨ w.getLast? = some '\n' ∧ sectionMark <+: t := by
  induction w with
  | nil => simp
  | cons c w ih =>
    rw [List.cons_append, List.infix_cons_iff, List.cons_prefix_cons]
    cases w with
    | nil =>
      rw [List.nil_append, List.getLast?_singleton, Option.some.injEq, or_comm, eq_comm]
    | cons d w =>
      simp only [calm, Bool.and_eq_true, Bool.or_eq_true, bne_iff_ne] at h
      rw [List.getLast?_cons_cons]
      refine (or_congr_right (ih h.2)).trans (or_iff_right ?_)
      rintro ⟨rfl, hprefix⟩
      exact h.1.elim (· rfl) (· (List.cons_prefix_cons.mp hprefix).1.symm)

theorem inert_iff {w t : List Char} (h : inert w = true) :
    '\n' :: sectionMark <:+: w ++ t ↔ '\n' :: sectionMark <:+: t := by
  simp only [inert, Bool.and_eq_true, bne_iff_ne] at h
  exact (calm_iff h.1).trans (or_iff_left fun hlast => h.2 hlast.1)

theorem breaks_nil : Breaks [] ↔ False := by
  simp [Breaks, flat]

theorem breaks_lit (h : inert s.toList = true) : Breaks (.lit s :: parts) ↔ Breaks parts :=
  inert_iff h

theorem breaks_only (h : calm s.toList = true) : Breaks [.lit s] ↔ False := by
  have hcalm := calm_iff (t := []) h
  simpa [Breaks, flat_lit, sectionMark] using hcalm

theorem breaks_split {a b : String} :
    Breaks (.lit (a ++ b) :: parts) ↔ Breaks (.lit a :: .lit b :: parts) := by
  rw [Breaks, Breaks, flat_split]

theorem breaks_last : Breaks [.val v] ↔ startsSection v = true := by
  rw [startsSection_iff, Breaks, flat, List.flatMap_cons, List.flatMap_nil, List.append_nil]
  rfl

/-- A value before a text that cannot be part of a mark. -/
theorem breaks_val (h : stops s.toList = true) :
    Breaks (.val v :: .lit s :: parts) ↔ startsSection v = true ∨ Breaks (.lit s :: parts) := by
  have hflat : flat (.lit s :: parts) = s.toList ++ flat parts := rfl
  rw [startsSection_iff, Breaks, Breaks, hflat]
  show _ <:+: v.toList ++ (s.toList ++ flat parts) ↔ _
  cases hs : s.toList with
  | nil => simp [stops, hs] at h
  | cons c rest =>
    rw [hs] at h
    have hc : c ∉ sectionMark := by simpa [stops] using h
    exact infix_append_cons_iff hc

/-- A value before a blank, which may end a mark. -/
theorem breaks_blank (h : blankFirst s.toList = true) :
    Breaks (.val v :: .lit s :: parts) ↔
      startsSection (v ++ " ") = true ∨ Breaks (.lit s :: parts) := by
  have hmark : sectionMark = ['#', '#', '#'] ++ [' '] := rfl
  have hflat : flat (.lit s :: parts) = s.toList ++ flat parts := rfl
  obtain ⟨rest, hs⟩ := List.head?_eq_some_iff.mp (beq_iff_eq.mp h)
  rw [startsSection_iff, String.toList_append, Breaks, Breaks, hflat]
  show _ <:+: v.toList ++ (s.toList ++ flat parts) ↔ _
  rw [hs, List.cons_append, hmark, infix_append_last_iff (by decide) (by decide)]
  refine or_congr_right ?_
  exact (infix_append_iff_of_not_mem (s := [' ']) (by decide)).symm

theorem inert_icons : ∀ p ∈ icons, inert p.2.toList = true := by
  simp only [icons, List.forall_mem_cons, List.not_mem_nil, false_implies, implies_true, and_true]
  exact ⟨spelled inert (by decide), spelled inert (by decide), spelled inert (by decide),
    spelled inert (by decide), spelled inert (by decide)⟩

theorem breaks_badge {text : PyText} :
    Breaks [severityBadge text s, .lit "\n"] → startsSection s = true := by
  unfold severityBadge
  split
  · rename_i icon hicon
    rw [breaks_lit (inert_icons _ (Dict.mem_of_get? hicon)), breaks_only (by decide)]
    exact False.elim
  · rw [breaks_val (by decide), breaks_only (by decide), or_false]
    exact id

end Breaks

section Lines

variable {text : PyText} {lines lines' : List Line} {texts texts' : List String}

def BreaksIn (lines : List Line) : Prop := ∃ line ∈ lines, Breaks line

def StartIn (texts : List String) : Prop := ∃ s ∈ texts, startsSection s = true

theorem breaksIn_nil : BreaksIn [] ↔ False := by
  simp [BreaksIn]

theorem breaksIn_cons {line : Line} : BreaksIn (line :: lines) ↔ Breaks line ∨ BreaksIn lines := by
  simp [BreaksIn]

theorem breaksIn_append : BreaksIn (lines ++ lines') ↔ BreaksIn lines ∨ BreaksIn lines' := by
  simp [BreaksIn, or_and_right, exists_or]

theorem startIn_nil : StartIn [] ↔ False := by
  simp [StartIn]

theorem startIn_cons {s : String} :
    StartIn (s :: texts) ↔ startsSection s = true ∨ StartIn texts := by
  simp [StartIn]

theorem startIn_append : StartIn (texts ++ texts') ↔ StartIn texts ∨ StartIn texts' := by
  simp [StartIn, or_and_right, exists_or]

/-- A text that is no beginning of a heading, and that no heading is a beginning of. -/
def offHeading (w : List Char) : Bool := !sectionMark.isPrefixOf w && !w.isPrefixOf sectionMark

/-- A line that is no heading. -/
def Body (line : Line) : Prop := sectionMark.isPrefixOf (flat line) = false

theorem offHeading_append {w : List Char} (h : offHeading w = true) (t : List Char) :
    sectionMark.isPrefixOf (w ++ t) = false := by
  simp only [offHeading, Bool.and_eq_true, Bool.not_eq_true'] at h
  by_contra hprefix
  rw [Bool.not_eq_false, List.isPrefixOf_iff_prefix] at hprefix
  rcases Nat.le_total sectionMark.length w.length with hle | hle
  · have hshort := List.prefix_of_prefix_length_le hprefix (List.prefix_append _ t) hle
    rw [List.isPrefixOf_iff_prefix.mpr hshort] at h
    exact Bool.noConfusion h.1
  · have hlong := List.prefix_of_prefix_length_le (List.prefix_append _ t) hprefix hle
    rw [List.isPrefixOf_iff_prefix.mpr hlong] at h
    exact Bool.noConfusion h.2

theorem filter_body (h : ∀ line ∈ lines, Body line) :
    (lines.map flat).filter sectionMark.isPrefixOf = [] := by
  rw [List.filter_eq_nil_iff]
  intro w hw
  obtain ⟨line, hline, rfl⟩ := List.mem_map.mp hw
  rw [Bool.not_eq_true]
  exact h line hline

theorem body_lit {l : List Char} {parts : Line} (h : offHeading l = true) :
    Body (.lit (String.ofList l) :: parts) :=
  offHeading_append (spelled offHeading h) (flat parts)

theorem body_split {a b : String} {parts : Line} (h : Body (.lit a :: .lit b :: parts)) :
    Body (.lit (a ++ b) :: parts) := by
  rwa [Body, flat_split]

end Lines

section Finding

variable {text : PyText} {lines : List Line}

def cvssLines (text : PyText) (f : PyDict) : List Line :=
  match f.get "cvss" with
  | .null => []
  | cvss => [[.lit "  | **CVSS:** ", shown text cvss] ++
      (if truthy (field f "cvss_vector" (.str "")) then
        [.lit " (", shown text (field f "cvss_vector" (.str "")), .lit ")"] else [])]

def locationLine (text : PyText) (f : PyDict) : Line :=
  [.lit "- **Location:** `", shown text (locationField f "file" (.str "N/A")), .lit "`"] ++
  (if truthy (locationField f "line" .null) then
    [.lit ":", shown text (locationField f "line" .null)] else []) ++
  (if truthy (locationField f "function" (.str "")) then
    [.lit " in `", shown text (locationField f "function" (.str "")), .lit "`"] else [])

/-- The lines under the heading of a finding. -/
def bodyLines (text : PyText) (f : PyDict) : List Line :=
  [[.lit "- **Severity:** ", .val (severityText "INFO" f)]] ++ cvssLines text f ++
  (if truthy (field f "cwe" (.str "")) then
    [[.lit "  | **CWE:** ", shown text (field f "cwe" (.str ""))]] else []) ++
  [locationLine text f] ++
  (if truthy (f.get "poc_path") then
    [[.lit "- **PoC:** `examples/", shown text (f.get "poc_path"), .lit "`"]] else []) ++
  [[.lit "\n"],
    [.lit "**Description:** ",
      shown text (field f "description" (.str "No description provided.")), .lit "\n"],
    [.lit "\n**Impact:** ", shown text (field f "impact" (.str "Impact not assessed.")),
      .lit "\n"],
    [.lit "\n**Recommendation:** ",
      shown text (field f "recommendation" (.str "No recommendation provided.")), .lit "\n"],
    [.lit "\n---\n\n"]]

theorem findingLines_eq {i : Nat} {f : PyDict} (h : findingLines text i f = .ok lines) :
    lines = headingParts text i f :: bodyLines text f := by
  obtain ⟨htext, hlocation⟩ := findingLines_returns.mp ⟨lines, h⟩
  have hloc : ∃ entries, field f "location" (.obj []) = .obj entries := by
    cases hget : Dict.get? f "location" with
    | none => exact ⟨[], by simp [field, hget]⟩
    | some v =>
      obtain ⟨entries, rfl⟩ := hlocation v hget
      exact ⟨entries, by simp [field, hget]⟩
  obtain ⟨entries, hentries⟩ := hloc
  have hlocated : ∀ key default,
      locationField f key default = (Dict.get? entries key).getD default := by
    intro key default
    rw [locationField, hentries, Json.get?_obj]
  unfold findingLines at h
  rw [htext.field_eq "INFO", hentries] at h
  obtain rfl := Except.ok.inj h
  unfold bodyLines headingParts cvssLines locationLine
  rw [hlocated, hlocated, hlocated]
  cases f.get "cvss" <;> rfl

theorem body_bodyLines (text : PyText) (f : PyDict) : ∀ line ∈ bodyLines text f, Body line := by
  have hif : ∀ {b : Bool} {line : Line}, Body line →
      ∀ line' ∈ (if b = true then [line] else []), Body line' := by
    intro b line hline
    cases b <;> simp [hline]
  have hcvss : ∀ line ∈ cvssLines text f, Body line := by
    unfold cvssLines
    split
    · simp
    · exact List.forall_mem_singleton.mpr (body_lit (by decide))
  unfold bodyLines
  simp only [List.forall_mem_append, List.forall_mem_cons, List.not_mem_nil, false_implies,
    implies_true, and_true]
  exact ⟨⟨⟨⟨⟨body_lit (by decide), hcvss⟩, hif (body_lit (by decide))⟩,
    body_lit (by decide)⟩, hif (body_lit (by decide))⟩,
    body_lit (by decide), body_lit (by decide), body_lit (by decide), body_lit (by decide),
    body_lit (by decide)⟩

theorem newline_notMem_toString (n : Nat) : '\n' ∉ (toString n).toList := by
  intro h
  obtain ⟨d, ds, hdigits, hd, hds⟩ := exists_toString n
  have hmem : '\n' ∈ ReportCheck.digits := by
    rw [hdigits] at h
    exact List.forall_mem_cons.mpr ⟨hd, hds⟩ _ h
  exact absurd hmem (by decide)

theorem not_startsSection {s : String} (h : '\n' ∉ s.toList) : startsSection s = false := by
  rw [← Bool.not_eq_true, startsSection_iff]
  exact fun hpart => h (hpart.subset List.mem_cons_self)

theorem not_startsSection_defaultId (i : Nat) : startsSection (defaultId i) = false := by
  refine not_startsSection ?_
  have hdigits := newline_notMem_toString i
  have hpad : '\n' ∉ List.replicate (3 - (toString i).length) '0' := by
    simp [List.mem_replicate]
  have hlead : '\n' ∉ "FIND-".toList := by decide
  simp only [defaultId, String.toList_append, String.toList_ofList, List.mem_append, not_or]
  exact ⟨⟨hlead, hpad⟩, hdigits⟩

theorem breaks_heading (text : PyText) (i : Nat) (f : PyDict) :
    Breaks (headingParts text i f) ∨ startsSection (severityText "INFO" f) = true ↔
      StartIn [text.format (field f "id" (.str "")),
        text.format (field f "title" (.str "Untitled")) ++ " ", severityText "INFO" f] := by
  have hid : startsSection (text.format (field f "id" (.str (defaultId i)))) =
      startsSection (text.format (field f "id" (.str ""))) := by
    cases hget : Dict.get? f "id" with
    | none =>
      have hempty : startsSection "" = false := by decide
      simp only [field, hget, Option.getD_none, PyText.format, not_startsSection_defaultId, hempty]
    | some v => simp only [field, hget, Option.getD_some]
  have hbadge : Breaks (.lit " " :: [severityBadge text (severityText "INFO" f), .lit "\n"]) →
      startsSection (severityText "INFO" f) = true := fun h =>
    breaks_badge ((breaks_lit (by decide)).mp h)
  unfold headingParts shown
  rw [breaks_lit (by decide), breaks_val (by decide), breaks_lit (by decide),
    breaks_blank (by decide), hid]
  simp only [startIn_cons, startIn_nil, or_assoc, or_iff_right_of_imp hbadge, or_false]

theorem breaksIn_cvssLines (text : PyText) (f : PyDict) :
    BreaksIn (cvssLines text f) ↔ StartIn (cvssShown text f) := by
  unfold cvssLines cvssShown
  split
  · simp only [breaksIn_nil, startIn_nil]
  · unfold shownBefore shown
    cases truthy (field f "cvss_vector" (.str "")) <;>
      simp (disch := first | exact spelled _ (by decide) | fail) only
        [breaksIn_cons, breaksIn_nil, breaks_lit, breaks_blank, breaks_val, breaks_last,
          breaks_nil, startIn_cons, startIn_nil, List.cons_append, List.nil_append, or_false,
          if_true, Bool.false_eq_true, if_false]

theorem breaks_locationLine (text : PyText) (f : PyDict) :
    Breaks (locationLine text f) ↔ StartIn (locationShown text f) := by
  unfold locationLine locationShown shownBefore shownWhen shown
  cases truthy (locationField f "line" .null) <;>
    cases truthy (locationField f "function" (.str "")) <;>
      simp (disch := first | exact spelled _ (by decide) | fail) only
        [breaks_lit, breaks_blank, breaks_val, breaks_last, breaks_nil, startIn_cons, startIn_nil,
          List.cons_append, List.nil_append, List.append_nil, or_false, if_true,
          Bool.false_eq_true, if_false]

theorem breaksIn_finding (text : PyText) (i : Nat) (f : PyDict) :
    BreaksIn (headingParts text i f :: bodyLines text f) ↔ StartIn (findingShown text f) := by
  have hwhen : ∀ {b : Bool} {line : Line}, BreaksIn (if b = true then [line] else []) ↔
      b = true ∧ Breaks line := by
    intro b line
    cases b <;> simp [BreaksIn]
  have hshown : ∀ v, StartIn (shownWhen text v) ↔
      truthy v = true ∧ startsSection (text.format v) = true := by
    intro v
    unfold shownWhen
    cases truthy v <;> simp [StartIn]
  have hheading := breaks_heading text i f
  simp only [startIn_cons, startIn_nil, or_false] at hheading
  unfold bodyLines findingShown
  simp (disch := first | exact spelled _ (by decide) | fail) only
    [breaksIn_append, breaksIn_cons, breaksIn_nil, hwhen, shown, breaks_lit, breaks_val,
      breaks_only, breaks_last, breaks_nil, breaksIn_cvssLines, breaks_locationLine,
      startIn_append, startIn_cons, startIn_nil, hshown, or_false, false_or, or_assoc]
  rw [← or_assoc, hheading]
  simp only [or_assoc]

theorem filter_finding (text : PyText) (i : Nat) (f : PyDict) :
    ((headingParts text i f :: bodyLines text f).map flat).filter sectionMark.isPrefixOf =
      [flat (headingParts text i f)] := by
  have hheading : sectionMark.isPrefixOf (flat (headingParts text i f)) = true :=
    List.isPrefixOf_iff_prefix.mpr (List.prefix_append sectionMark _)
  rw [List.map_cons, List.filter_cons_of_pos hheading, filter_body (body_bodyLines text f)]

/-- The lines of all findings have their headings, and others exactly where a text starts one. -/
theorem allFindingLines_spec {i : Nat} {findings : List PyDict}
    (h : allFindingLines text i findings = .ok lines) :
    ((lines.map flat).filter sectionMark.isPrefixOf).map (firstLine '\n') =
        headings text i findings ∧
      (BreaksIn lines ↔ ∃ f ∈ findings, StartIn (findingShown text f)) := by
  induction findings generalizing i lines with
  | nil =>
    obtain rfl := Except.ok.inj h
    simp [headings, breaksIn_nil]
  | cons f findings ih =>
    simp only [allFindingLines, Py.bind_eq_ok] at h
    obtain ⟨first, hfirst, rest, hrest, h⟩ := h
    obtain rfl := Except.ok.inj h
    obtain rfl := findingLines_eq hfirst
    obtain ⟨hheads, hbreaks⟩ := ih hrest
    constructor
    · rw [List.map_append, List.filter_append, List.map_append, filter_finding, hheads]
      rfl
    · rw [breaksIn_append, breaksIn_finding, hbreaks, List.exists_mem_cons_iff]

end Finding

section Fixed

variable {text : PyText} {generated : String}

theorem not_breaks {line : Line} (h : '\n' ∉ flat line) : ¬ Breaks line :=
  fun hbreaks => h (hbreaks.subset List.mem_cons_self)

theorem breaksIn_header (summary : PyDict) (h : '\n' ∉ generated.toList) :
    BreaksIn (headerLines text summary generated) ↔ StartIn [
      text.format (field summary "program_name" (.str "Unknown Program")),
      text.format (field summary "repo" (.str "N/A")),
      text.format (field summary "audit_date" (.str "N/A")),
      text.format (field summary "skill_version" (.str "N/A"))] := by
  have hgenerated : startsSection generated = true ↔ False := by
    simp [not_startsSection h]
  unfold headerLines
  simp (disch := first | exact spelled _ (by decide) | fail) only
    [breaksIn_cons, breaksIn_nil, shown, breaks_lit, breaks_val, breaks_only, hgenerated,
      startIn_cons, startIn_nil, or_false, false_or]

theorem breaksIn_patterns : BreaksIn patternLines ↔ False := by
  unfold patternLines
  simp (disch := first | exact spelled _ (by decide) | fail) only
    [breaksIn_cons, breaksIn_nil, breaks_split, breaks_lit, breaks_only, or_false]

theorem breaksIn_closing (v : Json) :
    BreaksIn (closingLines text v) ↔ startsSection (text.format v) = true := by
  unfold closingLines
  simp (disch := first | exact spelled _ (by decide) | fail) only
    [breaksIn_cons, breaksIn_nil, shown, breaks_split, breaks_lit, breaks_val, breaks_only,
      breaks_nil, or_false, false_or]

theorem breaksIn_scope {scope : Json} {lines : List Line}
    (h : scopeLines text scope = .ok lines) :
    BreaksIn lines ↔ StartIn (scopeTexts text scope) := by
  obtain ⟨listed, hlisted, hlines⟩ := Py.bind_eq_ok.mp h
  obtain rfl := Except.ok.inj hlines
  have hitems : BreaksIn (listed.map fun item => [.lit "- ", shown text item, .lit "\n"]) ↔
      StartIn (listed.map text.format) := by
    clear h hlines hlisted
    induction listed with
    | nil => simp only [List.map_nil, breaksIn_nil, startIn_nil]
    | cons item listed ih =>
      rw [List.map_cons, List.map_cons, breaksIn_cons, startIn_cons, ih, shown,
        breaks_lit (by decide), breaks_val (by decide), breaks_only (by decide), or_false]
  have hempty : BreaksIn (if truthy scope then []
      else [[.lit "- (None — full program scope)\n"]]) ↔ False := by
    cases truthy scope <;>
      simp (disch := first | exact spelled _ (by decide) | fail) only
        [breaksIn_cons, breaksIn_nil, breaks_only, or_false, if_true, Bool.false_eq_true,
          if_false]
  unfold scopeTexts
  rw [hlisted]
  simp (disch := first | exact spelled _ (by decide) | fail) only
    [breaksIn_append, breaksIn_cons, breaksIn_nil, hitems, hempty, breaks_only, or_false,
      false_or]

theorem not_breaks_sentence (total : Nat) (counted : String → Nat) :
    ¬ Breaks [.lit (summarySentence total counted)] := by
  have hplural : '\n' ∉ (if total ≠ 1 then "s" else "").toList := by
    split_ifs <;> decide
  have hmedium : '\n' ∉ (if counted "MEDIUM" ≠ 0 then " " ++ toString (counted "MEDIUM") ++
      " medium severity issues should be addressed in a timely manner." else "").toList := by
    split_ifs
    · rw [String.toList_append, String.toList_append, List.mem_append, List.mem_append, not_or,
        not_or]
      exact ⟨⟨by decide, newline_notMem_toString _⟩, by decide⟩
    · decide
  rw [Breaks, flat_lit, toList_summarySentence, List.append_assoc,
    infix_append_iff_of_not_mem (by decide),
    infix_append_iff_of_not_mem (newline_notMem_toString _),
    infix_append_iff_of_not_mem (by decide), infix_append_iff_of_not_mem hplural,
    infix_append_iff_of_not_mem (by decide),
    infix_append_iff_of_not_mem (newline_notMem_toString _),
    infix_append_iff_of_not_mem (by decide),
    infix_append_iff_of_not_mem (newline_notMem_toString _),
    infix_append_iff_of_not_mem (by decide),
    infix_append_iff_of_not_mem (newline_notMem_toString _),
    infix_append_iff_of_not_mem (by decide), infix_append_iff_of_not_mem hmedium]
  decide

theorem not_breaks_row (counts : Counts) {level : String} (h : level ∈ severityLevels) :
    ¬ Breaks [.lit "| ", severityBadge text level,
      .lit (" | " ++ toString ((Dict.get? counts level).getD 0) ++ " |")] := by
  have hbadge : '\n' ∉ (severityBadge text level).text.toList := by
    unfold severityBadge
    split
    · rename_i icon hicon
      have hicons : ∀ p ∈ icons, '\n' ∉ p.2.toList := by decide
      exact hicons _ (Dict.mem_of_get? hicon)
    · have hlevels : ∀ s ∈ severityLevels, '\n' ∉ s.toList := by decide
      exact hlevels level h
  have hlead : '\n' ∉ "| ".toList := by decide
  have hbar : '\n' ∉ " | ".toList := by decide
  have hend : '\n' ∉ " |".toList := by decide
  have hcount := newline_notMem_toString ((Dict.get? counts level).getD 0)
  refine not_breaks ?_
  simp only [flat, Part.text, List.flatMap_cons, List.flatMap_nil, String.toList_append,
    List.mem_append, List.append_nil, not_or]
  exact ⟨hlead, hbadge, ⟨hbar, hcount⟩, hend⟩

theorem breaksIn_summary (counts : Counts) (total : Nat) :
    BreaksIn (summaryLines text counts total) ↔ False := by
  have htotal : Breaks [.lit ("| **Total** | **" ++ toString total ++ "** |")] ↔ False := by
    rw [iff_false]
    refine not_breaks ?_
    have hlead : '\n' ∉ "| **Total** | **".toList := by decide
    have hend : '\n' ∉ "** |".toList := by decide
    have hcount := newline_notMem_toString total
    rw [flat_lit, String.toList_append, String.toList_append, List.mem_append, List.mem_append,
      not_or, not_or]
    exact ⟨⟨hlead, hcount⟩, hend⟩
  have hsentence : Breaks [.lit (summarySentence total fun s => (Dict.get? counts s).getD 0)] ↔
      False := iff_false_intro (not_breaks_sentence total _)
  have hrows : BreaksIn ((severityLevels.filter fun s =>
      decide (0 < (Dict.get? counts s).getD 0)).map fun s => [.lit "| ", severityBadge text s,
        .lit (" | " ++ toString ((Dict.get? counts s).getD 0) ++ " |")]) ↔ False := by
    rw [iff_false]
    rintro ⟨line, hline, hbreaks⟩
    obtain ⟨level, hlevel, rfl⟩ := List.mem_map.mp hline
    exact not_breaks_row counts (List.mem_of_mem_filter hlevel) hbreaks
  unfold summarySentence at hsentence
  unfold summaryLines
  simp (disch := first | exact spelled _ (by decide) | fail) only
    [breaksIn_append, breaksIn_cons, breaksIn_nil, hsentence, hrows, htotal, breaks_only,
      or_false]

theorem body_header (summary : PyDict) :
    ∀ line ∈ headerLines text summary generated, Body line := by
  unfold headerLines
  simp only [List.forall_mem_cons, List.not_mem_nil, false_implies, implies_true, and_true]
  exact ⟨body_lit (by decide), body_lit (by decide), body_lit (by decide), body_lit (by decide),
    body_lit (by decide), body_lit (by decide), body_lit (by decide)⟩

theorem body_patterns : ∀ line ∈ patternLines, Body line := by
  unfold patternLines
  simp only [List.forall_mem_cons, List.not_mem_nil, false_implies, implies_true, and_true]
  exact ⟨body_lit (by decide), body_split (body_lit (by decide)), body_lit (by decide),
    body_lit (by decide)⟩

theorem body_closing (v : Json) : ∀ line ∈ closingLines text v, Body line := by
  unfold closingLines
  simp only [List.forall_mem_cons, List.not_mem_nil, false_implies, implies_true, and_true]
  exact ⟨body_lit (by decide), body_split (body_split (body_lit (by decide))), body_lit (by decide),
    body_lit (by decide), body_lit (by decide), body_lit (by decide), body_lit (by decide),
    body_lit (by decide), body_lit (by decide)⟩

theorem body_scope {scope : Json} {lines : List Line} (h : scopeLines text scope = .ok lines) :
    ∀ line ∈ lines, Body line := by
  obtain ⟨listed, -, h⟩ := Py.bind_eq_ok.mp h
  obtain rfl := Except.ok.inj h
  have hitems : ∀ line ∈ listed.map fun item => [Part.lit "- ", shown text item, .lit "\n"],
      Body line := by
    intro line hline
    obtain ⟨item, -, rfl⟩ := List.mem_map.mp hline
    exact body_lit (by decide)
  have hempty : ∀ line ∈ (if truthy scope then []
      else [[Part.lit "- (None — full program scope)\n"]]), Body line := by
    cases truthy scope
    · exact List.forall_mem_singleton.mpr (body_lit (by decide))
    · simp
  simp only [List.forall_mem_append, List.forall_mem_cons, List.not_mem_nil, false_implies,
    implies_true, and_true]
  exact ⟨⟨⟨⟨body_lit (by decide), body_lit (by decide)⟩, hitems⟩, hempty⟩, body_lit (by decide)⟩

theorem body_summary (counts : Counts) (total : Nat) :
    ∀ line ∈ summaryLines text counts total, Body line := by
  have hrows : ∀ line ∈ (severityLevels.filter fun s =>
      decide (0 < (Dict.get? counts s).getD 0)).map fun s => [.lit "| ", severityBadge text s,
        .lit (" | " ++ toString ((Dict.get? counts s).getD 0) ++ " |")], Body line := by
    intro line hline
    obtain ⟨level, -, rfl⟩ := List.mem_map.mp hline
    exact body_lit (by decide)
  have hsentence : Body [.lit (summarySentence total fun s => (Dict.get? counts s).getD 0)] := by
    rw [Body, flat_lit, toList_summarySentence, List.append_assoc]
    exact offHeading_append (spelled offHeading (by decide)) _
  unfold summarySentence at hsentence
  unfold summaryLines
  simp only [List.forall_mem_append, List.forall_mem_cons, List.not_mem_nil, false_implies,
    implies_true, and_true]
  exact ⟨⟨⟨body_lit (by decide), hsentence, body_lit (by decide), body_lit (by decide),
    body_lit (by decide), body_lit (by decide)⟩, hrows⟩,
    body_split (body_split (body_lit (by decide))), body_lit (by decide)⟩

end Fixed

section Report

variable {text : PyText} {generated report : String} {raw : PyDict} {findings : List PyDict}

/-- A report has the headings of its findings, and others exactly where a text starts one. -/
theorem reportLines_spec (hgenerated : '\n' ∉ generated.toList) {lines : List Line}
    (h : reportLines text generated raw findings = .ok lines) :
    ((lines.map flat).filter sectionMark.isPrefixOf).map (firstLine '\n') =
        headings text 1 findings ∧
      (BreaksIn lines ↔
        StartIn (documentShown text raw) ∨ ∃ f ∈ findings, StartIn (findingShown text f)) := by
  simp only [reportLines, Py.bind_eq_ok] at h
  obtain ⟨summary, hsummary, counts, -, middle, hmiddle, scope, hscope, h⟩ := h
  obtain rfl := Except.ok.inj h
  obtain ⟨hheads, hbreaks⟩ := allFindingLines_spec hmiddle
  have hfields : summaryFields raw = summary := by simp [summaryFields, hsummary]
  constructor
  · have htitle : ∀ line ∈ [[Part.lit "## Findings\n"]], Body line :=
      List.forall_mem_singleton.mpr (body_lit (by decide))
    simp only [List.map_append, List.filter_append, filter_body (body_header _),
      filter_body (body_summary _ _), filter_body htitle, filter_body body_patterns,
      filter_body (body_scope hscope), filter_body (body_closing _), List.nil_append,
      List.append_nil, hheads]
  · have htitle : Breaks [.lit "## Findings\n"] ↔ False := breaks_only (by decide)
    simp only [breaksIn_append, breaksIn_header summary hgenerated, breaksIn_summary,
      breaksIn_cons, breaksIn_nil, htitle, hbreaks, breaksIn_patterns, breaksIn_scope hscope,
      breaksIn_closing, documentShown, hfields, startIn_append, or_false]
    constructor
    · rintro (((h | h) | h) | h)
      · exact .inl (.inl h)
      · exact .inr h
      · exact .inl (.inr h)
      · -- the version of the skill is shown in the header too
        exact .inl (.inl ⟨_, by simp, h⟩)
    · rintro ((h | h) | h)
      · exact .inl (.inl (.inl h))
      · exact .inl (.inr h)
      · exact .inl (.inl (.inr h))

theorem flat_fileParts (lines : List Line) :
    flat (fileParts lines) = ['\n'].intercalate (lines.map flat) := by
  induction lines with
  | nil => rfl
  | cons line lines ih =>
    cases lines with
    | nil => simp [fileParts]
    | cons line' lines =>
      have hend : flat [.lit "\n"] = ['\n'] := flat_lit "\n"
      have hjoin : fileParts (line :: line' :: lines) =
          line ++ [.lit "\n"] ++ fileParts (line' :: lines) :=
        List.intercalate_cons_of_ne_nil (List.cons_ne_nil _ _)
      rw [hjoin, flat_append, flat_append, hend, ih, List.map_cons]
      exact (List.intercalate_cons_of_ne_nil (by simp)).symm

/-- A rendered report has the sections of its findings exactly where no text starts one. -/
theorem sectionHeads_eq_iff (hgenerated : '\n' ∉ generated.toList)
    (hreport : renderReport text generated raw findings = .ok report) :
    sectionHeads report = headings text 1 findings ↔
      ¬ (StartIn (documentShown text raw) ∨ ∃ f ∈ findings, StartIn (findingShown text f)) := by
  obtain ⟨lines, hlines, hreport⟩ := Py.bind_eq_ok.mp hreport
  obtain rfl := Except.ok.inj hreport
  obtain ⟨hheads, hbreaks⟩ := reportLines_spec hgenerated hlines
  rw [← hbreaks, ← hheads, sectionHeads, toList_written, flat_fileParts,
    headed_intercalate_iff (by decide) (by decide)]
  simp [BreaksIn, Breaks]

end Report

def plainFinding (id severity : String) : PyDict :=
  [("id", .str id), ("severity", .str severity), ("title", .null)]

end SolanaAuditor.Reports.AuditReport
