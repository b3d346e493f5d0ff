/- SolanaAuditor/Suggestions/FixSuggestions
   digest: generate_all_suggestions of audit-fix-suggestions.py and what main makes of its list. -/

import SolanaAuditor.Suggestions.Confidence
import SolanaAuditor.Suggestions.FindingsFile

set_option autoImplicit false
set_option relaxedAutoImplicit false

namespace SolanaAuditor.Suggestions

open SolanaAuditor.Lib

structure FixTemplate where
  before : String
  after : String
  explanation : String

structure FixSuggestion where
  findingId : String
  severity : Json
  ruleId : String
  file : Json
  line : Json
  beforeCode : String
  afterCode : String
  explanation : String
  references : List String
  confidenceScore : ℚ
  fixTier : String
  fixType : String
  pokerRisk : String
  estimatedEffortMinutes : Nat
  cvssBefore : Json
  cvssAfter : FloatValue
  cvssReduction : FloatValue
  testTemplate : String

/-- `re.match(r"(Rule \d+)", s)` -/
def matchRule (text : PyText) (s : String) : Option String :=
  if "Rule ".toList.isPrefixOf s.toList then
    let digits := (s.toList.drop 5).takeWhile text.isDecimal
    if digits.isEmpty then none else some ("Rule " ++ String.ofList digits)
  else none

def ruleByName (text : PyText) (ruleCaught : String) : String :=
  match ruleNames.find? fun e => isSubstring (text.lower e.2) (text.lower ruleCaught) with
  | some (ruleId, _) => ruleId
  | none => "Rule 0"

def extractRuleId (text : PyText) (ruleCaught : Json) : Py String :=
  if !truthy ruleCaught then return "Rule 0"
  else match ruleCaught with
    | .str s => return (matchRule text s).getD (ruleByName text s)
    | _ => .error .typeError

theorem extractRuleId_returns (text : PyText) {v : Json} :
    (∃ ruleId, extractRuleId text v = .ok ruleId) ↔ TextOrFalsy v := by
  unfold extractRuleId TextOrFalsy
  cases htruthy : truthy v with
  | false => simp [pure, Except.pure]
  | true => cases v <;> simp [pure, Except.pure]

/-- The text `IDX-{index}` that stands for a missing id. -/
def indexId (index : Nat) : Json := .str ("IDX-" ++ toString index)

def generateFindingId (text : PyText) (finding : PyDict) (index : Nat) : String :=
  "SUGGEST-" ++ text.format ((Dict.get? finding "id").getD (indexId index))

/-- `cwe.replace("CWE-", "")` -/
def stripCwe : List Char → List Char
  | 'C' :: 'W' :: 'E' :: '-' :: s => stripCwe s
  | c :: s => c :: stripCwe s
  | [] => []

/-- The references of a rule, with the page of the finding's `cwe` in front. -/
def referencesOf (ruleId : String) (finding : PyDict) : Py (List String) := do
  let references := (Dict.get? ruleCweRefs ruleId).getD [] ++ (Dict.get? ruleDocRefs ruleId).getD []
  let cwe := finding.get "cwe"
  let references ←
    if truthy cwe then
      match cwe with
      | .str s =>
          let cweUrl := "https://www.cwe.mitre.org/data/definitions/" ++
            String.ofList (stripCwe s.toList) ++ ".html"
          pure (if cweUrl ∈ references then references else cweUrl :: references)
      | _ => Except.error PyError.attributeError
    else pure references
  return references ++ ["https://www.anchor-lang.com/docs/the-program"]

theorem referencesOf_returns (ruleId : String) {finding : PyDict} :
    (∃ references, referencesOf ruleId finding = .ok references) ↔
      TextOrFalsy (finding.get "cwe") := by
  unfold referencesOf TextOrFalsy
  cases htruthy : truthy (finding.get "cwe") with
  | false => simp [htruthy, bind, Except.bind, pure, Except.pure]
  | true =>
    cases hcwe : finding.get "cwe" <;>
      simp [hcwe ▸ htruthy, bind, Except.bind, pure, Except.pure]

section Generate

/-! `getFixTemplate` stands for the table of code texts in `fix_templates.py`. -/

variable (text : PyText) (getFixTemplate : String → Json → FixTemplate)

/-- `generate_fix_suggestion` of a dictionary. -/
def suggestionOf (finding : PyDict) (index : Nat) : Py FixSuggestion := do
  let ruleId ← extractRuleId text ((Dict.get? finding "rule_caught").getD (.str ""))
  let template := getFixTemplate ruleId ((Dict.get? finding "id").getD (.str ""))
  let location := (Dict.get? finding "location").getD (.obj [])
  let filePath ← pyGet location "file" (.str "unknown")
  let lineNum ← pyGet location "line" (.int 0)
  let references ← referencesOf ruleId finding
  let confidence := computeConfidence ruleId true
  let pokerRisk := getPokerRisk ruleId
  let cvssBefore := (Dict.get? finding "cvss").getD (.float (.finite 7))
  let (cvssAfter, _) ← estimateCvssAfter cvssBefore ruleId
  let before ← toFloat cvssBefore
  let testTemplate ← generateTestTemplate text ruleId
    ((Dict.get? finding "id").getD (indexId index))
  return {
    findingId := generateFindingId text finding index
    severity := (Dict.get? finding "severity").getD (.str "UNKNOWN")
    ruleId
    file := filePath
    line := lineNum
    beforeCode := template.before
    afterCode := template.after
    explanation := template.explanation
    references
    confidenceScore := confidence
    fixTier := determineTier confidence pokerRisk
    fixType := getFixType ruleId
    pokerRisk
    estimatedEffortMinutes := getEffortMinutes ruleId
    cvssBefore
    cvssAfter
    cvssReduction := (before.sub cvssAfter).roundTenth
    testTemplate }

theorem suggestionOf_returns (finding : PyDict) (index : Nat) :
    (∃ s, suggestionOf text getFixTemplate finding index = .ok s) ↔
      TextOrFalsy ((Dict.get? finding "rule_caught").getD (.str "")) ∧
      (∃ entries, (Dict.get? finding "location").getD (.obj []) = .obj entries) ∧
      TextOrFalsy (finding.get "cwe") ∧
      (∃ x, toFloat ((Dict.get? finding "cvss").getD (.float (.finite 7))) = .ok x) ∧
      ∃ s, (Dict.get? finding "id").getD (indexId index) = .str s := by
  simp only [suggestionOf, Py.bind_eq_ok]
  constructor
  · rintro ⟨s, ruleId, hrule, file, hfile, line, hline, refs, hrefs, after, hafter, x, hx, test,
      htest, -⟩
    exact ⟨(extractRuleId_returns text).mp ⟨_, hrule⟩, (pyGet_returns _ _).mp ⟨_, hfile⟩,
      (referencesOf_returns ruleId).mp ⟨_, hrefs⟩, ⟨_, hx⟩,
      (generateTestTemplate_returns text ruleId).mp ⟨_, htest⟩⟩
  · rintro ⟨hrule, hlocation, hcwe, hx, hid⟩
    obtain ⟨ruleId, hrule⟩ := (extractRuleId_returns text).mpr hrule
    obtain ⟨file, hfile⟩ := (pyGet_returns "file" (.str "unknown")).mpr hlocation
    obtain ⟨line, hline⟩ := (pyGet_returns "line" (.int 0)).mpr hlocation
    obtain ⟨refs, hrefs⟩ := (referencesOf_returns ruleId).mpr hcwe
    obtain ⟨after, hafter⟩ := (estimateCvssAfter_returns ruleId).mpr hx
    obtain ⟨x, hx⟩ := hx
    obtain ⟨test, htest⟩ := (generateTestTemplate_returns text ruleId).mpr hid
    exact ⟨_, ruleId, hrule, file, hfile, line, hline, refs, hrefs, after, hafter, x, hx, test,
      htest, rfl⟩

def generateFixSuggestion (finding : Json) (index : Nat) : Py FixSuggestion :=
  match finding with
  | .obj entries => suggestionOf text getFixTemplate entries index
  | _ => .error .attributeError

/-- The loop of `generate_all_suggestions`: an exception skips the finding. -/
def suggestionsFrom : Nat → List Json → List FixSuggestion
  | _, [] => []
  | idx, finding :: findings =>
      match generateFixSuggestion text getFixTemplate finding idx with
      | .ok suggestion => suggestion :: suggestionsFrom (idx + 1) findings
      | .error _ => suggestionsFrom (idx + 1) findings

def generateAllSuggestions (findings : List Json) : List FixSuggestion :=
  suggestionsFrom text getFixTemplate 0 findings

end Generate

/-- The modes of `main` that go through findings and suggestions side by side. -/
inductive PairMode
  | report | explain | metadata

/-- The pairs of a mode, finding first. -/
def zipped (mode : PairMode) (findings : List Json) (suggestions : List FixSuggestion) :
    List (Json × FixSuggestion) :=
  match mode with
  | .report | .metadata => findings.zip suggestions
  | .explain => (suggestions.zip findings).map Prod.swap

def getProgramIdFromFindings : List Json → Py Json
  | [] => return .str "unknown"
  | finding :: findings => do
      if ← pyIn "program_id" finding then pyIndex finding "program_id"
      else getProgramIdFromFindings findings

structure FixSuggestionsOutput where
  programId : Json
  version : String
  totalFindings : Nat
  suggestions : List FixSuggestion

def outputObj (findings : List Json) (allSuggestions : List FixSuggestion) :
    Py FixSuggestionsOutput := do
  let programId ← getProgramIdFromFindings findings
  return {
    programId
    version := scriptVersion
    totalFindings := findings.length
    suggestions := allSuggestions }

/-- `data.get("findings", [])` of an accepted document. -/
def findingsOf (data : Json) : List Json :=
  match data.get? "findings" with
  | some (.arr findings) => findings
  | _ => []

end SolanaAuditor.Suggestions
