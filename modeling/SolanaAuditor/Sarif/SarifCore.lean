/- SolanaAuditor/Sarif/SarifCore
   digest: sarif_core.py: results, rules and the log that is built from them. -/

import SolanaAuditor.Python

set_option autoImplicit false
set_option relaxedAutoImplicit false

namespace SolanaAuditor.Sarif

open SolanaAuditor.Lib

def toolName : String := "solana-auditor-skill"
def toolVersion : String := "2.0.0"
def sarifVersion : String := "2.1.0"
def sarifSchema : String :=
  "https://raw.githubusercontent.com/oasis-tcs/sarif-spec/master/Schemata/sarif-schema-2.1.0.json"

/-! The objects of a log, with the members that hold a value of a finding as JSON values. -/

structure Region where
  startLine : Option Json
  endLine : Option Json
  snippet : Option Json

structure Location where
  uri : Json
  uriBaseId : String
  region : Option Region

structure SarifResult where
  ruleId : String
  level : String
  message : Json
  severity : Json
  cvss : Json
  cwe : Json
  ruleCaught : Json
  status : Json
  pocStatus : Json
  impact : Json
  recommendation : Json
  location : Option Location

structure SarifRule where
  id : String
  name : String
  shortDescription : Json
  fullDescription : Json
  level : String
  tags : List String
  precision : String
  securitySeverity : String

structure SarifLog where
  version : String
  schema : String
  driverName : String
  driverVersion : String
  informationUri : String
  organization : String
  rules : List SarifRule
  results : List SarifResult
  columnKind : String

/-- `if value: block[key] = value` -/
def whenTruthy (v : Json) : Option Json := if truthy v then some v else none

section Builders

variable (text : PyText)

def severityToLevel (severity : Json) : Py String := do
  let upper ← text.uppered severity
  return (Dict.get? [("CRITICAL", "error"), ("HIGH", "error"), ("MEDIUM", "warning"),
    ("LOW", "note"), ("INFO", "note")] upper).getD "warning"

/-- The region of a location's values, unless none of them is true. -/
def regionOf (line endLine snippet : Json) : Option Region :=
  if truthy line || truthy endLine || truthy snippet then
    some ⟨whenTruthy line, whenTruthy endLine, whenTruthy snippet⟩
  else none

def buildLocation (finding : PyDict) : Py Location := do
  let loc := field finding "location" (.obj [])
  let filePath ← pyGet loc "file" (.str "")
  let line ← pyGet loc "line" .null
  let endLine ← pyGet loc "endLine" .null
  let snippet ← pyGet loc "snippet" .null
  return {
    uri := pyOr filePath (.str "unknown")
    uriBaseId := "%SRCROOT%"
    region := regionOf line endLine snippet }

/-- The id that a result is written with. -/
def writtenId (finding : PyDict) : String := text.format (field finding "id" (.str "UNKNOWN"))

/-- One turn of `build_sarif_results`. -/
def sarifResult (ruleIdPrefix : String) (finding : PyDict) : Py SarifResult := do
  let severity := field finding "severity" (.str "MEDIUM")
  let title := field finding "title" (.str "Untitled")
  let description := field finding "description" (.str "")
  let level ← severityToLevel text severity
  let location ← buildLocation finding
  return {
    ruleId := ruleIdPrefix ++ writtenId text finding
    level
    message := pyOr description title
    severity
    cvss := field finding "cvss" .null
    cwe := field finding "cwe" .null
    ruleCaught := field finding "rule_caught" .null
    status := field finding "status" (.str "Open")
    pocStatus := field finding "poc_status" (.str "pending")
    impact := field finding "impact" (.str "")
    recommendation := field finding "recommendation" (.str "")
    location := if truthy location.uri then some location else none }

def buildSarifResults (ruleIdPrefix : String) : List PyDict → Py (List SarifResult)
  | [] => return []
  | finding :: findings => do
      let result ← sarifResult text ruleIdPrefix finding
      return result :: (← buildSarifResults ruleIdPrefix findings)

/-- `"\n\n".join(p for p in parts if p)`, as the texts that are joined. -/
def joinedParts : List Json → Py (List String)
  | [] => return []
  | p :: parts =>
      if truthy p then
        match p with
        | .str s => return s :: (← joinedParts parts)
        | _ => .error .typeError
      else joinedParts parts

/-- `title.replace(" ", "-")` -/
def hyphenated (s : String) : String :=
  String.ofList (s.toList.map fun c => if c = ' ' then '-' else c)

/-- The name of a rule. -/
def ruleName : Json → Py String
  | .str title => return hyphenated title
  | _ => .error .attributeError

/-- The tag of an optional text. -/
def tagOf (v : Json) (change : String → String) : Py (List String) :=
  if truthy v then do return [change (← text.lowered v)] else return []

/-- The id that the rules are built from. -/
def idOf (finding : PyDict) : Json := field finding "id" (.str "")

/-- The rule of a finding that is the first with its id. -/
def sarifRule (ruleIdPrefix : String) (finding : PyDict) : Py SarifRule := do
  let severity := field finding "severity" (.str "MEDIUM")
  let title := field finding "title" (.str "Untitled")
  let fullDescParts ← joinedParts [field finding "description" (.str ""),
    field finding "impact" (.str ""), field finding "recommendation" (.str "")]
  let fullDesc := "\n\n".intercalate fullDescParts
  let severityTag ← text.lowered severity
  let cweTag ← tagOf text (field finding "cwe" (.str "")) fun s => s
  let ruleTag ← tagOf text (field finding "rule_caught" (.str "")) hyphenated
  let name ← ruleName title
  let level ← severityToLevel text severity
  return {
    id := ruleIdPrefix ++ text.format (idOf finding)
    name
    shortDescription := title
    fullDescription := pyOr (.str fullDesc) title
    level
    tags := ["security", "solana", severityTag] ++ cweTag ++ ruleTag
    precision := "high"
    securitySeverity := text.format (field finding "cvss" (.str "0.0")) }

/-- `build_sarif_rules` after the ids in `seen`. -/
def rulesFrom (ruleIdPrefix : String) : List PyKey → List PyDict → Py (List SarifRule)
  | _, [] => return []
  | seen, finding :: findings =>
      if !truthy (idOf finding) then rulesFrom ruleIdPrefix seen findings
      else
        match pyKey (idOf finding) with
        | none => .error .typeError
        | some key =>
            if key ∈ seen then rulesFrom ruleIdPrefix seen findings
            else do
              let rule ← sarifRule text ruleIdPrefix finding
              return rule :: (← rulesFrom ruleIdPrefix (key :: seen) findings)

def buildSarifRules (ruleIdPrefix : String) (findings : List PyDict) : Py (List SarifRule) :=
  rulesFrom text ruleIdPrefix [] findings

def buildSarifLog (findings : List PyDict) (ruleIdPrefix organization informationUri : String) :
    Py SarifLog := do
  let rules ← buildSarifRules text ruleIdPrefix findings
  let results ← buildSarifResults text ruleIdPrefix findings
  return {
    version := sarifVersion
    schema := sarifSchema
    driverName := toolName
    driverVersion := toolVersion
    informationUri
    organization
    rules
    results
    columnKind := "utf16CodeUnits" }

end Builders

end SolanaAuditor.Sarif
