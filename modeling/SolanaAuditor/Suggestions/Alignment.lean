/- SolanaAuditor/Suggestions/Alignment
   digest: When findings and suggestions stay side by side. -/

import SolanaAuditor.Suggestions.FixSuggestions

set_option autoImplicit false
set_option relaxedAutoImplicit false

namespace SolanaAuditor.Suggestions

open SolanaAuditor.Lib

/-- The suggestion is the one of the finding: its id, severity, file and line. -/
structure Matches (text : PyText) (finding : PyDict) (suggestion : FixSuggestion) : Prop where
  id : ∃ v, Dict.get? finding "id" = some v ∧ suggestion.findingId = "SUGGEST-" ++ text.format v
  severity : Dict.get? finding "severity" = some suggestion.severity
  location : ∃ location, Dict.get? finding "location" = some (.obj location) ∧
    Dict.get? location "file" = some suggestion.file ∧
    Dict.get? location "line" = some suggestion.line

def Belongs (text : PyText) (finding : Json) (suggestion : FixSuggestion) : Prop :=
  ∃ d, finding = .obj d ∧ Matches text d suggestion

/-- One suggestion per finding in order, so that every pair of a mode belongs to one finding and
the document counts the suggestions that it lists. -/
structure Aligned (text : PyText) (findings : List Json) (suggestions : List FixSuggestion) :
    Prop where
  onePerFinding : List.Forall₂ (Belongs text) findings suggestions
  pairs : ∀ mode, ∀ p ∈ zipped mode findings suggestions, Belongs text p.1 p.2
  total : ∃ output, outputObj findings suggestions = .ok output ∧
    output.totalFindings = output.suggestions.length

/-- What the suggestion of a finding needs beyond the validation. -/
structure Suggestible (finding : PyDict) : Prop where
  id : ∃ s, Dict.get? finding "id" = some (.str s)
  ruleCaught : ∀ v, Dict.get? finding "rule_caught" = some v → TextOrFalsy v
  location : ∃ location, Dict.get? finding "location" = some (.obj location)
  cwe : TextOrFalsy (finding.get "cwe")
  cvss : ∀ v, Dict.get? finding "cvss" = some v →
    isNumber v = true ∧ ∀ n, v = .int n → n.natAbs < floatLimit

section Steps

variable (text : PyText) (getFixTemplate : String → Json → FixTemplate)

theorem Admitted.returns_iff {finding : PyDict} (h : Admitted finding) (index : Nat) :
    (∃ s, suggestionOf text getFixTemplate finding index = .ok s) ↔ Suggestible finding := by
  rw [suggestionOf_returns]
  obtain ⟨id, hid⟩ := h.id
  obtain ⟨rule, hrule⟩ := h.ruleCaught
  obtain ⟨location, hlocation, -⟩ := h.location
  have hcvss : (∃ x, toFloat ((Dict.get? finding "cvss").getD (.float (.finite 7))) = .ok x) ↔
      ∀ v, Dict.get? finding "cvss" = some v →
        isNumber v = true ∧ ∀ n, v = .int n → n.natAbs < floatLimit := by
    cases hc : Dict.get? finding "cvss" with
    | none => simp [toFloat]
    | some v => simpa using toFloat_returns
  rw [hcvss, hid, hrule, hlocation]
  simp only [Option.getD_some]
  constructor
  · rintro ⟨htext, ⟨entries, rfl⟩, hcwe, hnumber, s, rfl⟩
    exact ⟨⟨s, hid⟩, fun v hv => Option.some.inj (hrule.symm.trans hv) ▸ htext,
      ⟨entries, hlocation⟩, hcwe, hnumber⟩
  · rintro ⟨⟨s, hs⟩, htext, ⟨entries, hentries⟩, hcwe, hnumber⟩
    exact ⟨htext rule hrule, ⟨entries, Option.some.inj (hlocation.symm.trans hentries)⟩, hcwe,
      hnumber, s, Option.some.inj (hid.symm.trans hs)⟩

theorem Admitted.matches {finding : PyDict} (h : Admitted finding) {index : Nat}
    {s : FixSuggestion} (hs : suggestionOf text getFixTemplate finding index = .ok s) :
    Matches text finding s := by
  obtain ⟨id, hid⟩ := h.id
  obtain ⟨severity, hseverity⟩ := h.severity
  obtain ⟨location, hlocation, hnames⟩ := h.location
  simp only [suggestionOf, Py.bind_eq_ok] at hs
  obtain ⟨ruleId, hrule, file, hfile, line, hline, refs, hrefs, after, hafter, x, hx, test, htest,
    hs⟩ := hs
  obtain rfl := Except.ok.inj hs
  rw [hlocation, Option.getD_some] at hfile hline
  obtain ⟨entries, rfl⟩ := (pyGet_returns "file" (.str "unknown")).mp ⟨file, hfile⟩
  have hvalue : ∀ key default v, key ∈ locationFields → pyGet (.obj entries) key default = .ok v →
      Dict.get? entries key = some v := by
    intro key default v hkey hget
    obtain ⟨w, hw⟩ := pyIn_obj.mp (hnames key hkey)
    simpa [pyGet, hw, pure, Except.pure] using hget
  refine ⟨⟨id, hid, ?_⟩, ?_, entries, hlocation, ?_, ?_⟩
  · simp [generateFindingId, hid]
  · simp [hseverity]
  · exact hvalue _ _ _ (by simp [locationFields]) hfile
  · exact hvalue _ _ _ (by simp [locationFields]) hline

/-! The loop over the findings. -/

/-- A suggestion for every finding leaves no finding without one. -/
theorem suggestionsFrom_length_le (findings : List Json) (idx : Nat) :
    (suggestionsFrom text getFixTemplate idx findings).length ≤ findings.length := by
  induction findings generalizing idx with
  | nil => simp [suggestionsFrom]
  | cons f findings ih =>
    have hrest := ih (idx + 1)
    unfold suggestionsFrom
    split
    · simpa using hrest
    · simp only [List.length_cons]
      omega

/-- The loop keeps admitted findings and suggestions side by side exactly when it skips none. -/
theorem suggestionsFrom_forall₂ {findings : List PyDict} (h : ∀ f ∈ findings, Admitted f)
    (idx : Nat) :
    List.Forall₂ (Belongs text) (findings.map Json.obj)
        (suggestionsFrom text getFixTemplate idx (findings.map Json.obj)) ↔
      ∀ f ∈ findings, Suggestible f := by
  induction findings generalizing idx with
  | nil => simp [suggestionsFrom]
  | cons f findings ih =>
    rw [List.forall_mem_cons] at h
    rw [List.forall_mem_cons, ← ih h.2 (idx + 1), ← h.1.returns_iff text getFixTemplate idx]
    cases hs : suggestionOf text getFixTemplate f idx with
    | ok s =>
      have hown : Belongs text (.obj f) s := ⟨f, rfl, h.1.matches text getFixTemplate hs⟩
      simp [suggestionsFrom, generateFixSuggestion, hs, hown]
    | error e =>
      simp only [List.map_cons, suggestionsFrom, generateFixSuggestion, hs, reduceCtorEq,
        exists_false, false_and, iff_false]
      intro hall
      -- one suggestion is missing, so the lengths differ
      have hlength := hall.length_eq
      have hle := suggestionsFrom_length_le text getFixTemplate (findings.map Json.obj) (idx + 1)
      simp only [List.length_cons] at hlength
      omega

end Steps

section Pairs

variable {text : PyText}

theorem belongs_of_zipped {findings : List Json} {suggestions : List FixSuggestion}
    (h : List.Forall₂ (Belongs text) findings suggestions) (mode : PairMode) :
    ∀ p ∈ zipped mode findings suggestions, Belongs text p.1 p.2 := by
  have hzip : ∀ p ∈ findings.zip suggestions, Belongs text p.1 p.2 :=
    fun p hp => (List.forall₂_iff_zip.mp h).2 hp
  intro p hp
  cases mode with
  | report | metadata => exact hzip p hp
  | explain =>
    rw [zipped, List.zip_swap] at hp
    exact hzip p hp

theorem getProgramIdFromFindings_returns (findings : List PyDict) :
    ∃ programId, getProgramIdFromFindings (findings.map Json.obj) = .ok programId := by
  induction findings with
  | nil => exact ⟨_, rfl⟩
  | cons f findings ih =>
    cases hid : Dict.get? f "program_id" with
    | none =>
      simpa [getProgramIdFromFindings, pyIn, hid, bind, Except.bind, pure, Except.pure] using ih
    | some v =>
      exact ⟨v, by simp [getProgramIdFromFindings, pyIn, pyIndex, hid, bind, Except.bind, pure,
        Except.pure]⟩

end Pairs

/-- Findings and suggestions of an accepted file are aligned exactly when every finding is
suggestible. -/
theorem suggestions_aligned_iff (text : PyText) (getFixTemplate : String → Json → FixTemplate)
    {file : InputFile} {data : Json} (h : readFindings file = .ok data) :
    Aligned text (findingsOf data)
        (generateAllSuggestions text getFixTemplate (findingsOf data)) ↔
      ∀ f, .obj f ∈ findingsOf data → Suggestible f := by
  obtain ⟨entries, findings, rfl, hfindings, hadmitted⟩ :=
    validateFindingsJson_ok.mp (readFindings_ok.mp h).2
  have hlist : findingsOf (.obj entries) = findings.map Json.obj := by
    simp [findingsOf, hfindings]
  have hmem : (∀ f, .obj f ∈ findings.map Json.obj → Suggestible f) ↔
      ∀ f ∈ findings, Suggestible f := by simp
  rw [hlist, hmem, ← suggestionsFrom_forall₂ text getFixTemplate hadmitted 0]
  refine ⟨Aligned.onePerFinding, fun hall => ⟨hall, belongs_of_zipped hall, ?_⟩⟩
  obtain ⟨programId, hprogram⟩ := getProgramIdFromFindings_returns findings
  refine ⟨_, by rw [outputObj, hprogram]; rfl, hall.length_eq⟩

/-- The template for a rule without one of its own. -/
def fallbackTemplate (ruleId : String) (_ : Json) : FixTemplate where
  before := "// Review this code for security issues"
  after := "// Apply security fixes based on rule requirements"
  explanation := "Fix for " ++ ruleId ++ ". Refer to rules/audit.rules for detailed guidance."

def manualFinding (id : String) (others : PyDict) : PyDict :=
  [("id", .str id), ("severity", .str "HIGH"),
    ("location", .obj [("file", .str "src/lib.rs"), ("line", .int 10)]),
    ("rule_caught", .str "Rule 50")] ++ others

def findingsDocument (findings : List PyDict) : Json :=
  .obj [("findings", .arr (findings.map Json.obj))]

theorem suggestible_manualFinding (id : String) {others : PyDict}
    (hcwe : Dict.get? others "cwe" = none)
    (hcvss : ∀ v, Dict.get? others "cvss" = some v →
      isNumber v = true ∧ ∀ n, v = .int n → n.natAbs < floatLimit) :
    Suggestible (manualFinding id others) where
  id := ⟨id, rfl⟩
  ruleCaught := fun v hv _ => ⟨"Rule 50", by simpa [manualFinding] using hv.symm⟩
  location := ⟨_, rfl⟩
  cwe := by simp [TextOrFalsy, PyDict.get, manualFinding, hcwe, truthy]
  cvss := fun v hv => hcvss v (by simpa [manualFinding] using hv)

theorem suggestions_aligned_iff_sample :
    let findings := [manualFinding "VULN-01" [("cvss", .float (.finite (98 / 10)))],
      manualFinding "VULN-02" []].map Json.obj
    Aligned PyText.ascii findings
      (generateAllSuggestions PyText.ascii fallbackTemplate findings) := by
  have hread : readFindings (.value (findingsDocument
      [manualFinding "VULN-01" [("cvss", .float (.finite (98 / 10)))],
        manualFinding "VULN-02" []])) = .ok _ := rfl
  refine (suggestions_aligned_iff PyText.ascii fallbackTemplate hread).mpr ?_
  intro f hf
  have hcase : f = manualFinding "VULN-01" [("cvss", .float (.finite (98 / 10)))] ∨
      f = manualFinding "VULN-02" [] := by
    simpa [findingsOf, findingsDocument] using hf
  rcases hcase with rfl | rfl
  · refine suggestible_manualFinding _ rfl fun v hv => ?_
    obtain rfl : Json.float (.finite (98 / 10)) = v := by simpa using hv
    exact ⟨rfl, fun n hn => by simp at hn⟩
  · exact suggestible_manualFinding _ rfl fun v hv => by simp at hv

/-- A score of `null` for the first of two findings: the report puts the id of the first beside
the suggestion of the second. -/
theorem null_cvss_shifts_suggestions :
    let data := findingsDocument
      [manualFinding "VULN-01" [("cvss", .null)], manualFinding "VULN-02" []]
    let suggestions := generateAllSuggestions PyText.ascii fallbackTemplate (findingsOf data)
    readFindings (.value data) = .ok data ∧
      ¬ Aligned PyText.ascii (findingsOf data) suggestions ∧
      (zipped .report (findingsOf data) suggestions).map (fun p => (p.1.get? "id", p.2.findingId)) =
        [(some (.str "VULN-01"), "SUGGEST-VULN-02")] := by
  refine ⟨rfl, ?_, rfl⟩
  intro h
  have hlength := h.onePerFinding.length_eq
  have hone : (generateAllSuggestions PyText.ascii fallbackTemplate (findingsOf (findingsDocument
      [manualFinding "VULN-01" [("cvss", .null)], manualFinding "VULN-02" []]))).length = 1 := rfl
  rw [hone] at hlength
  simp [findingsOf, findingsDocument] at hlength

end SolanaAuditor.Suggestions
