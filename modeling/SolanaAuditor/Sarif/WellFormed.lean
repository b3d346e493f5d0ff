/- SolanaAuditor/Sarif/WellFormed
   digest: When build_sarif_log returns a well-formed log for findings with missing or null fields. -/

import SolanaAuditor.Sarif.References

set_option autoImplicit false
set_option relaxedAutoImplicit false

namespace SolanaAuditor.Sarif

open SolanaAuditor.Lib

def TextOrNull (v : Json) : Prop := v = .null ∨ ∃ s, v = .str s

def IntOrNull (v : Json) : Prop := v = .null ∨ ∃ n, v = .int n

def NumberOrNull (v : Json) : Prop := v = .null ∨ (∃ n, v = .int n) ∨ ∃ x, v = .float x

def textFields : List String :=
  ["id", "severity", "title", "description", "impact", "recommendation", "cwe", "rule_caught",
    "status", "poc_status"]

structure DocumentedLocation (location : PyDict) : Prop where
  texts : ∀ key ∈ ["file", "snippet"], ∀ v, Dict.get? location key = some v → TextOrNull v
  lines : ∀ key ∈ ["line", "endLine"], ∀ v, Dict.get? location key = some v → IntOrNull v

/-- Every field that the builders read is missing, null or of its type. -/
structure Documented (f : PyDict) : Prop where
  texts : ∀ key ∈ textFields, ∀ v, Dict.get? f key = some v → TextOrNull v
  cvss : ∀ v, Dict.get? f "cvss" = some v → NumberOrNull v
  location : ∀ v, Dict.get? f "location" = some v →
    v = .null ∨ ∃ d, v = .obj d ∧ DocumentedLocation d

/-- A number from 0 to 10. -/
def OnScale (x : FloatValue) : Prop := ∃ q, x = .finite q ∧ 0 ≤ q ∧ q ≤ 10

/-- A finding whose rule owes a score: its cvss is missing, null or on the scale. -/
def OwesScore (f : PyDict) : Prop :=
  ∀ v, Dict.get? f "cvss" = some v → v = .null ∨ ∃ x, toFloat v = .ok x ∧ OnScale x

/-- `parseFloat` is Python's `float()` of a text. -/
structure WellFormed (parseFloat : String → Option FloatValue) (findings : List PyDict)
    (log : SarifLog) : Prop where
  messages : ∀ r ∈ log.results, ∃ s, r.message = .str s
  ruleTexts : ∀ rule ∈ log.rules,
    (∃ s, rule.shortDescription = .str s) ∧ ∃ s, rule.fullDescription = .str s
  scores : List.Forall₂ (fun f rule => OwesScore f →
    ∃ x, parseFloat rule.securitySeverity = some x ∧ OnScale x) (declaring findings) log.rules
  regions : ∀ r ∈ log.results, ∀ location, r.location = some location →
    ∀ region, location.region = some region → ∃ v, region.startLine = some v

/-- What Python documents of `str()` and `float()`, for the scores of the findings. -/
structure ReadsBack (text : PyText) (parseFloat : String → Option FloatValue)
    (findings : List PyDict) : Prop where
  default : parseFloat "0.0" = some (.finite 0)
  null : parseFloat (text.str .null) = none
  number : ∀ f ∈ findings, ∀ v, Dict.get? f "cvss" = some v → ∀ x, toFloat v = .ok x →
    parseFloat (text.str v) = some x

/-- What is asked of each result of a log. -/
def PresentsWell (r : SarifResult) : Prop :=
  (∃ s, r.message = .str s) ∧ ∀ location, r.location = some location →
    ∀ region, location.region = some region → ∃ v, region.startLine = some v

/-- What is asked of the rule that a finding declares. -/
def DeclaresWell (parseFloat : String → Option FloatValue) (f : PyDict) (rule : SarifRule) :
    Prop :=
  ((∃ s, rule.shortDescription = .str s) ∧ ∃ s, rule.fullDescription = .str s) ∧
    (OwesScore f → ∃ x, parseFloat rule.securitySeverity = some x ∧ OnScale x)

/-- The result of a finding can be built, and is well formed. -/
structure Presentable (f : PyDict) : Prop where
  severity : Dict.get? f "severity" ≠ some .null
  location : Dict.get? f "location" ≠ some .null
  message : Dict.get? f "title" = some .null → truthy (f.get "description") = true
  region : ∀ d, Dict.get? f "location" = some (.obj d) →
    truthy (PyDict.get d "endLine") = true ∨ truthy (PyDict.get d "snippet") = true →
      truthy (PyDict.get d "line") = true

/-- The rule of a presentable finding can be built, and is well formed. -/
structure Declarable (f : PyDict) : Prop where
  title : Dict.get? f "title" ≠ some .null
  cvss : Dict.get? f "cvss" ≠ some .null

section Fields

variable {text : PyText} {f : PyDict}

theorem Documented.field_text (h : Documented f) {key : String} (hkey : key ∈ textFields)
    (default : String) :
    (Dict.get? f key = some .null ∧ field f key (.str default) = .null) ∨
      (Dict.get? f key ≠ some .null ∧ ∃ s, field f key (.str default) = .str s) := by
  unfold field
  cases hget : Dict.get? f key with
  | none => exact Or.inr ⟨by simp, default, rfl⟩
  | some v =>
    rcases h.texts key hkey v hget with rfl | ⟨s, rfl⟩
    · exact Or.inl ⟨rfl, rfl⟩
    · exact Or.inr ⟨by simp, s, rfl⟩

theorem Documented.field_textOrFalsy (h : Documented f) {key : String} (hkey : key ∈ textFields)
    (default : String) : TextOrFalsy (field f key (.str default)) := by
  intro htrue
  rcases h.field_text hkey default with ⟨-, hnull⟩ | ⟨-, hs⟩
  · rw [hnull] at htrue
    simp [truthy] at htrue
  · exact hs

theorem severityToLevel_returns (text : PyText) {v : Json} :
    (∃ level, severityToLevel text v = .ok level) ↔ ∃ s, v = .str s := by
  cases v <;> simp [severityToLevel, PyText.uppered, bind, Except.bind, pure, Except.pure]

theorem tagOf_returns {v : Json} {change : String → String} :
    (∃ tags, tagOf text v change = .ok tags) ↔ TextOrFalsy v := by
  unfold tagOf TextOrFalsy
  cases htrue : truthy v with
  | false => simp [pure, Except.pure]
  | true => cases v <;> simp [PyText.lowered, bind, Except.bind, pure, Except.pure]

theorem joinedParts_returns {parts : List Json} :
    (∃ texts, joinedParts parts = .ok texts) ↔ ∀ p ∈ parts, TextOrFalsy p := by
  induction parts with
  | nil => simp [joinedParts, pure, Except.pure]
  | cons p parts ih =>
    rw [List.forall_mem_cons]
    unfold joinedParts
    cases htrue : truthy p with
    | false => simp [TextOrFalsy, htrue, ih]
    | true => cases p <;> simp_all [TextOrFalsy, Py.bind_eq_ok, pure, Except.pure]

theorem ruleName_returns {v : Json} : (∃ name, ruleName v = .ok name) ↔ ∃ s, v = .str s := by
  cases v <;> simp [ruleName, pure, Except.pure]

end Fields

section Builders

variable {text : PyText} {ruleIdPrefix : String} {f : PyDict}

/-- Without exceptions a location has the file or `unknown`, and the region of its values. -/
theorem buildLocation_returns :
    (∃ location, buildLocation f = .ok location) ↔
      ∃ d, field f "location" (.obj []) = .obj d := by
  unfold buildLocation
  cases field f "location" (.obj []) <;> simp [pyGet, bind, Except.bind, pure, Except.pure]

theorem buildLocation_obj {d : PyDict} (h : field f "location" (.obj []) = .obj d) :
    buildLocation f = .ok {
      uri := pyOr (field d "file" (.str "")) (.str "unknown")
      uriBaseId := "%SRCROOT%"
      region := regionOf (PyDict.get d "line") (PyDict.get d "endLine")
        (PyDict.get d "snippet") } := by
  unfold buildLocation
  rw [h]
  rfl

theorem truthy_uri (v : Json) : truthy (pyOr v (.str "unknown")) = true := by
  unfold pyOr
  split
  · assumption
  · rfl

theorem sarifResult_returns (text : PyText) (ruleIdPrefix : String) :
    (∃ r, sarifResult text ruleIdPrefix f = .ok r) ↔
      (∃ s, field f "severity" (.str "MEDIUM") = .str s) ∧
        ∃ d, field f "location" (.obj []) = .obj d := by
  rw [← severityToLevel_returns text, ← buildLocation_returns]
  simp only [sarifResult, Py.bind_eq_ok]
  constructor
  · rintro ⟨r, level, hlevel, location, hlocation, -⟩
    exact ⟨⟨level, hlevel⟩, location, hlocation⟩
  · rintro ⟨⟨level, hlevel⟩, location, hlocation⟩
    exact ⟨_, level, hlevel, location, hlocation, rfl⟩

theorem sarifResult_ok {r : SarifResult} (h : sarifResult text ruleIdPrefix f = .ok r) :
    r.message = pyOr (field f "description" (.str "")) (field f "title" (.str "Untitled")) ∧
      ∃ d location, field f "location" (.obj []) = .obj d ∧ r.location = some location ∧
        location.region = regionOf (PyDict.get d "line") (PyDict.get d "endLine")
        (PyDict.get d "snippet") := by
  simp only [sarifResult, Py.bind_eq_ok] at h
  obtain ⟨level, -, location, hlocation, h⟩ := h
  obtain rfl := Except.ok.inj h
  refine ⟨rfl, ?_⟩
  obtain ⟨d, hd⟩ := buildLocation_returns.mp ⟨location, hlocation⟩
  obtain rfl := Except.ok.inj ((buildLocation_obj hd).symm.trans hlocation)
  exact ⟨d, _, hd, if_pos (truthy_uri _), rfl⟩

theorem sarifRule_returns (text : PyText) (ruleIdPrefix : String) :
    (∃ rule, sarifRule text ruleIdPrefix f = .ok rule) ↔
      (∃ s, field f "severity" (.str "MEDIUM") = .str s) ∧
      (∃ s, field f "title" (.str "Untitled") = .str s) ∧
      (∀ p ∈ [field f "description" (.str ""), field f "impact" (.str ""),
        field f "recommendation" (.str "")], TextOrFalsy p) ∧
      TextOrFalsy (field f "cwe" (.str "")) ∧ TextOrFalsy (field f "rule_caught" (.str "")) := by
  rw [← joinedParts_returns]
  simp only [sarifRule, Py.bind_eq_ok]
  constructor
  · rintro ⟨rule, parts, hparts, tag, htag, cwe, hcwe, caught, hcaught, name, hname, -⟩
    exact ⟨text.lowered_returns.mp ⟨tag, htag⟩, ruleName_returns.mp ⟨name, hname⟩,
      ⟨parts, hparts⟩, tagOf_returns.mp ⟨cwe, hcwe⟩, tagOf_returns.mp ⟨caught, hcaught⟩⟩
  · rintro ⟨hseverity, htitle, ⟨parts, hparts⟩, hcwe, hcaught⟩
    obtain ⟨tag, htag⟩ := text.lowered_returns.mpr hseverity
    obtain ⟨level, hlevel⟩ := (severityToLevel_returns text).mpr hseverity
    obtain ⟨name, hname⟩ := ruleName_returns.mpr htitle
    obtain ⟨cwe, hcwe⟩ := tagOf_returns.mpr hcwe
    obtain ⟨caught, hcaught⟩ := tagOf_returns.mpr hcaught
    exact ⟨_, parts, hparts, tag, htag, cwe, hcwe, caught, hcaught, name, hname, level, hlevel, rfl⟩

theorem sarifRule_ok {rule : SarifRule} (h : sarifRule text ruleIdPrefix f = .ok rule) :
    rule.shortDescription = field f "title" (.str "Untitled") ∧
      (∃ s, rule.fullDescription = pyOr (.str s) (field f "title" (.str "Untitled"))) ∧
      rule.securitySeverity = text.format (field f "cvss" (.str "0.0")) := by
  simp only [sarifRule, Py.bind_eq_ok] at h
  obtain ⟨parts, -, tag, -, cwe, -, caught, -, name, -, level, -, h⟩ := h
  obtain rfl := Except.ok.inj h
  exact ⟨rfl, ⟨_, rfl⟩, rfl⟩

/-- The results are built and satisfy a property exactly when each of them is and does. -/
theorem buildSarifResults_with (text : PyText) (ruleIdPrefix : String) (findings : List PyDict)
    (p : SarifResult → Prop) :
    (∃ results, buildSarifResults text ruleIdPrefix findings = .ok results ∧
        ∀ r ∈ results, p r) ↔
      ∀ f ∈ findings, ∃ r, sarifResult text ruleIdPrefix f = .ok r ∧ p r := by
  have hresults : ∀ results, (buildSarifResults text ruleIdPrefix findings = .ok results ∧
      ∀ r ∈ results, p r) ↔
        List.Forall₂ (fun f r => p r ∧ sarifResult text ruleIdPrefix f = .ok r) findings
          results := by
    intro results
    rw [Lists.forall₂_and_right, and_comm, (collects_buildSarifResults text ruleIdPrefix).ok_iff]
  simp only [hresults, Lists.exists_forall₂_iff, and_comm]

/-- The same for the rules of the findings that declare one, where every id is hashable. -/
theorem rulesFrom_with (text : PyText) (ruleIdPrefix : String) (seen : List PyKey)
    {findings : List PyDict} (q : PyDict → SarifRule → Prop)
    (hids : ∀ f ∈ findings, truthy (idOf f) = true → ∃ key, pyKey (idOf f) = some key) :
    (∃ rules, rulesFrom text ruleIdPrefix seen findings = .ok rules ∧
        List.Forall₂ q (Lists.firstsBy ruleKey seen findings) rules) ↔
      ∀ f ∈ Lists.firstsBy ruleKey seen findings,
        ∃ rule, sarifRule text ruleIdPrefix f = .ok rule ∧ q f rule := by
  simp only [rulesFrom_ok_iff, and_iff_right hids, ← Lists.forall₂_and, Lists.exists_forall₂_iff]

end Builders

section Findings

variable {text : PyText} {parseFloat : String → Option FloatValue} {ruleIdPrefix : String}
  {f : PyDict}

theorem Documented.location_field (h : Documented f) :
    (Dict.get? f "location" = some .null ∧ field f "location" (.obj []) = .null) ∨
      (Dict.get? f "location" ≠ some .null ∧ ∃ d, field f "location" (.obj []) = .obj d) := by
  unfold field
  cases hget : Dict.get? f "location" with
  | none => exact Or.inr ⟨by simp, [], rfl⟩
  | some v =>
    rcases h.location v hget with rfl | ⟨d, rfl, -⟩
    · exact Or.inl ⟨rfl, rfl⟩
    · exact Or.inr ⟨by simp, d, rfl⟩

theorem regionOf_starts {line endLine snippet : Json} :
    (∀ region, regionOf line endLine snippet = some region → ∃ v, region.startLine = some v) ↔
      (truthy endLine = true ∨ truthy snippet = true → truthy line = true) := by
  unfold regionOf whenTruthy
  cases truthy line <;> cases truthy endLine <;> cases truthy snippet <;> simp

theorem truthy_field (f : PyDict) (key : String) :
    truthy (field f key (.str "")) = truthy (f.get key) := by
  unfold field PyDict.get
  cases Dict.get? f key <;> simp [truthy]

theorem Documented.text_iff (h : Documented f) {key : String} (hkey : key ∈ textFields)
    (default : String) :
    (∃ s, field f key (.str default) = .str s) ↔ Dict.get? f key ≠ some .null := by
  rcases h.field_text hkey default with ⟨hget, hnull⟩ | ⟨hget, hs⟩
  · simp [hget, hnull]
  · exact iff_of_true hs hget

/-- The message of a result is a text unless a null title stands in for the description. -/
theorem message_iff (h : Documented f) :
    (∃ s, pyOr (field f "description" (.str "")) (field f "title" (.str "Untitled")) = .str s) ↔
      (Dict.get? f "title" = some .null → truthy (f.get "description") = true) := by
  unfold pyOr
  rw [← truthy_field]
  cases htrue : truthy (field f "description" (.str "")) with
  | true =>
    rw [if_pos rfl]
    exact iff_of_true (h.field_textOrFalsy (by decide) "" htrue) fun _ => rfl
  | false =>
    rw [if_neg Bool.false_ne_true, h.text_iff (by decide) "Untitled"]
    simp

/-- The result of a documented finding is built and well formed when the finding is
presentable. -/
theorem presentable_iff (h : Documented f) :
    (∃ r, sarifResult text ruleIdPrefix f = .ok r ∧ PresentsWell r) ↔ Presentable f := by
  constructor
  · rintro ⟨r, hr, hmessage, hregion⟩
    obtain ⟨hseverity, d, hd⟩ := (sarifResult_returns text ruleIdPrefix).mp ⟨r, hr⟩
    obtain ⟨hr, d', location, hd', hlocation, hregions⟩ := sarifResult_ok hr
    refine ⟨(h.text_iff (by decide) "MEDIUM").mp hseverity, ?_, ?_, ?_⟩
    · intro hnull
      simp [field, hnull] at hd
    · rw [hr] at hmessage
      exact (message_iff h).mp hmessage
    · intro e he
      obtain rfl : e = d' := by simpa [field, he] using hd'
      have hstarts := hregion location hlocation
      rw [hregions] at hstarts
      exact regionOf_starts.mp hstarts
  · intro hf
    rcases h.location_field with ⟨hnull, -⟩ | ⟨-, d, hd⟩
    · exact absurd hnull hf.location
    have hseverity := (h.text_iff (by decide) "MEDIUM").mpr hf.severity
    obtain ⟨r, hr⟩ := (sarifResult_returns text ruleIdPrefix).mpr ⟨hseverity, d, hd⟩
    obtain ⟨hmessage, d', location, hd', hlocation, hregions⟩ := sarifResult_ok hr
    obtain rfl : d = d' := by simpa [hd] using hd'
    refine ⟨r, hr, ?_, ?_⟩
    · rw [hmessage]
      exact (message_iff h).mpr hf.message
    · intro location' hlocation'
      obtain rfl := Option.some.inj (hlocation.symm.trans hlocation')
      rw [hregions]
      refine regionOf_starts.mpr ?_
      cases hget : Dict.get? f "location" with
      | none =>
        obtain rfl : [] = d := by simpa [field, hget] using hd
        simp [PyDict.get, truthy]
      | some v =>
        obtain rfl : v = .obj d := by simpa [field, hget] using hd
        exact hf.region d hget

/-- The rule of a documented finding is built and well formed when the finding has no null that
the rule reads as a text or a score. -/
theorem declarable_iff (h : Documented f) {findings : List PyDict} (hf : f ∈ findings)
    (hreads : ReadsBack text parseFloat findings) :
    (∃ rule, sarifRule text ruleIdPrefix f = .ok rule ∧ DeclaresWell parseFloat f rule) ↔
      Dict.get? f "severity" ≠ some .null ∧ Declarable f := by
  constructor
  · rintro ⟨rule, hrule, -, hscore⟩
    obtain ⟨hseverity, htitle, -⟩ := (sarifRule_returns text ruleIdPrefix).mp ⟨rule, hrule⟩
    obtain ⟨-, -, hwritten⟩ := sarifRule_ok hrule
    refine ⟨(h.text_iff (by decide) "MEDIUM").mp hseverity,
      (h.text_iff (by decide) "Untitled").mp htitle, ?_⟩
    intro hnull
    have howes : OwesScore f := fun v hv => Or.inl (Option.some.inj (hv.symm.trans hnull))
    obtain ⟨x, hx, -⟩ := hscore howes
    have hnone : rule.securitySeverity = text.str .null := by
      simp [hwritten, field, hnull, PyText.format]
    rw [hnone, hreads.null] at hx
    simp at hx
  · rintro ⟨hseverity, hdeclarable⟩
    have htitle := (h.text_iff (by decide) "Untitled").mpr hdeclarable.title
    obtain ⟨rule, hrule⟩ := (sarifRule_returns text ruleIdPrefix).mpr
      ⟨(h.text_iff (by decide) "MEDIUM").mpr hseverity, htitle,
        by simpa using ⟨h.field_textOrFalsy (by decide) "", h.field_textOrFalsy (by decide) "",
          h.field_textOrFalsy (by decide) ""⟩,
        h.field_textOrFalsy (by decide) "", h.field_textOrFalsy (by decide) ""⟩
    obtain ⟨hshort, ⟨full, hfull⟩, hwritten⟩ := sarifRule_ok hrule
    obtain ⟨title, htitle⟩ := htitle
    refine ⟨rule, hrule, ⟨⟨title, hshort.trans htitle⟩, ?_⟩, ?_⟩
    · rw [hfull, htitle]
      unfold pyOr
      split
      · exact ⟨full, rfl⟩
      · exact ⟨title, rfl⟩
    · intro howes
      rw [hwritten]
      cases hget : Dict.get? f "cvss" with
      | none =>
        refine ⟨.finite 0, ?_, 0, rfl, le_refl 0, by decide⟩
        simpa [field, hget, PyText.format] using hreads.default
      | some v =>
        rcases howes v hget with rfl | ⟨x, hx, hscale⟩
        · exact absurd hget hdeclarable.cvss
        · refine ⟨x, ?_, hscale⟩
          have hformat : text.format v = text.str v := by
            cases v <;> simp_all [PyText.format, toFloat]
          simpa [field, hget, hformat] using hreads.number f hf v hget x hx

theorem buildSarifLog_returns {findings : List PyDict} {organization informationUri : String}
    {p : SarifLog → Prop} :
    (∃ log, buildSarifLog text findings ruleIdPrefix organization informationUri = .ok log ∧
        p log) ↔
      ∃ rules, buildSarifRules text ruleIdPrefix findings = .ok rules ∧
        ∃ results, buildSarifResults text ruleIdPrefix findings = .ok results ∧
          p ⟨sarifVersion, sarifSchema, toolName, toolVersion, informationUri, organization,
            rules, results, "utf16CodeUnits"⟩ := by
  simp only [buildSarifLog, Py.bind_eq_ok]
  constructor
  · rintro ⟨log, ⟨rules, hrules, results, hresults, h⟩, hp⟩
    obtain rfl := Except.ok.inj h
    exact ⟨rules, hrules, results, hresults, hp⟩
  · rintro ⟨rules, hrules, results, hresults, hp⟩
    exact ⟨_, ⟨rules, hrules, results, hresults, rfl⟩, hp⟩

end Findings

/-- For documented findings a well-formed log is returned exactly when all of them are
presentable, and those that declare a rule have no null title or cvss. -/
theorem log_wellFormed_iff (text : PyText) (parseFloat : String → Option FloatValue)
    (findings : List PyDict) (ruleIdPrefix organization informationUri : String)
    (hdocumented : ∀ f ∈ findings, Documented f) (hreads : ReadsBack text parseFloat findings) :
    (∃ log, buildSarifLog text findings ruleIdPrefix organization informationUri = .ok log ∧
        WellFormed parseFloat findings log) ↔
      (∀ f ∈ findings, Presentable f) ∧ ∀ f, Declares findings f → Declarable f := by
  have hids : ∀ f ∈ findings, truthy (idOf f) = true → ∃ key, pyKey (idOf f) = some key := by
    intro f hf htrue
    obtain ⟨s, hs⟩ := (hdocumented f hf).field_textOrFalsy (by decide) "" htrue
    exact ⟨.text s, by rw [idOf, hs, pyKey]⟩
  have hmem : ∀ f ∈ declaring findings, f ∈ findings := by
    intro f hf
    obtain ⟨key, hkey⟩ := mem_declaring.mp hf
    exact hkey.mem
  have hresults := (buildSarifResults_with text ruleIdPrefix findings PresentsWell).trans
    (forall₂_congr fun f hf => presentable_iff (hdocumented f hf))
  have hrules := (rulesFrom_with text ruleIdPrefix [] (DeclaresWell parseFloat) hids).trans
    (forall₂_congr fun f hf =>
      declarable_iff (hdocumented f (hmem f hf)) (hmem f hf) hreads)
  rw [buildSarifLog_returns]
  constructor
  · rintro ⟨rules, hrulesOk, results, hresultsOk, hwell⟩
    have hpresentable := hresults.mp ⟨results, hresultsOk, fun r hr =>
      ⟨hwell.messages r hr, hwell.regions r hr⟩⟩
    have hdeclarable := hrules.mp ⟨rules, hrulesOk,
      Lists.forall₂_and_right.mpr ⟨hwell.ruleTexts, hwell.scores⟩⟩
    exact ⟨hpresentable, fun f hf => (hdeclarable f (mem_declaring.mpr hf)).2⟩
  · rintro ⟨hpresentable, hdeclarable⟩
    obtain ⟨results, hresultsOk, hgood⟩ := hresults.mpr hpresentable
    obtain ⟨rules, hrulesOk, hscored⟩ := hrules.mpr fun f hf =>
      ⟨(hpresentable f (hmem f hf)).severity, hdeclarable f (mem_declaring.mp hf)⟩
    obtain ⟨htexts, hscores⟩ := Lists.forall₂_and_right.mp hscored
    exact ⟨rules, hrulesOk, results, hresultsOk, {
      messages := fun r hr => (hgood r hr).1
      ruleTexts := htexts
      scores := hscores
      regions := fun r hr => (hgood r hr).2 }⟩

def parseFloatAscii (s : String) : Option FloatValue :=
  if s = "0.0" then some (.finite 0)
  else (PyChars.ascii.int s.toList).toOption.map fun n => .finite n

theorem documented_sampleFinding (id : String) : Documented (sampleFinding id) where
  texts := by
    intro key hkey v hv
    simp only [textFields, List.mem_cons, List.not_mem_nil, or_false] at hkey
    rcases hkey with rfl | rfl | rfl | rfl | rfl | rfl | rfl | rfl | rfl | rfl <;>
      simp only [sampleFinding, Dict.get?, String.reduceEq, if_true, if_false, reduceCtorEq] at hv
    all_goals exact Or.inr ⟨_, (Option.some.inj hv).symm⟩
  cvss := by
    intro v hv
    exact Or.inr (Or.inl ⟨8, (Option.some.inj hv).symm⟩)
  location := by
    intro v hv
    refine Or.inr ⟨_, (Option.some.inj hv).symm, ?_, ?_⟩
    · intro key hkey v hv
      simp only [List.mem_cons, List.not_mem_nil, or_false] at hkey
      rcases hkey with rfl | rfl
      · exact Or.inr ⟨"lib.rs", (Option.some.inj hv).symm⟩
      · simp [Dict.get?] at hv
    · intro key hkey v hv
      simp only [List.mem_cons, List.not_mem_nil, or_false] at hkey
      rcases hkey with rfl | rfl
      · exact Or.inr ⟨42, (Option.some.inj hv).symm⟩
      · simp [Dict.get?] at hv

theorem log_wellFormed_iff_sample :
    ∃ log, buildSarifLog PyText.ascii [sampleFinding "VULN-01"] "SHIBA-" "Auditor"
        "https://example" = .ok log ∧
      WellFormed parseFloatAscii [sampleFinding "VULN-01"] log := by
  have hall : ∀ f ∈ [sampleFinding "VULN-01"], f = sampleFinding "VULN-01" := by simp
  refine (log_wellFormed_iff PyText.ascii parseFloatAscii [sampleFinding "VULN-01"] "SHIBA-"
    "Auditor" "https://example" ?_ ⟨rfl, rfl, ?_⟩).mpr ⟨?_, ?_⟩
  · intro f hf
    exact hall f hf ▸ documented_sampleFinding "VULN-01"
  · intro f hf v hv x hx
    obtain rfl := hall f hf
    obtain rfl := Option.some.inj hv
    have height : toFloat (.int 8) = .ok (.finite 8) := by decide +kernel
    obtain rfl := Except.ok.inj (height.symm.trans hx)
    rfl
  · intro f hf
    obtain rfl := hall f hf
    refine ⟨?_, ?_, ?_, ?_⟩ <;> simp [sampleFinding, Dict.get?, PyDict.get, truthy]
  · intro f hf
    obtain rfl := hall f (hf.choose_spec.mem)
    refine ⟨?_, ?_⟩ <;> simp [sampleFinding, Dict.get?]

def endLineOnly : PyDict := [("location", .obj [("file", .str "lib.rs"), ("endLine", .int 50)])]

/-- A location with an end line and no line gives a region without a start. -/
theorem log_of_endLine_not_wellFormed :
    ¬ ∃ log, buildSarifLog PyText.ascii [endLineOnly] "SHIBA-" "Auditor" "https://example" =
        .ok log ∧ WellFormed parseFloatAscii [endLineOnly] log := by
  rintro ⟨log, hlog, hwell⟩
  obtain rfl := Except.ok.inj hlog
  obtain ⟨v, hv⟩ := hwell.regions _ List.mem_cons_self _ rfl _ rfl
  exact Option.some_ne_none v hv.symm

end SolanaAuditor.Sarif
