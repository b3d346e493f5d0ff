/- SolanaAuditor/Sast/RunSast
   digest: run-sast.py, from the rules file and the source files to the document. -/

import SolanaAuditor.Suggestions.FindingsFile

set_option autoImplicit false
set_option relaxedAutoImplicit false

namespace SolanaAuditor.Sast

open SolanaAuditor.Lib SolanaAuditor.Suggestions

def scriptVersion : String := "2.0.0"

/-- A rule, with the values of its fields as the JSON file has them. -/
structure Rule where
  ruleId : Json
  severity : Json
  cwe : Json
  pattern : Json
  patternType : Json
  fileGlob : Json
  description : Json
  impact : Json
  recommendation : Json

structure Finding where
  id : String
  ruleId : Json
  severity : String
  cvss : ℚ
  cvssVector : String
  cwe : Json
  title : String
  location : PyDict
  description : Json
  impact : Json
  recommendation : Json
  pocStatus : String
  status : String
  file : String
  line : Nat
  snippet : String

def severityScore : List (String × (ℚ × String)) := [
  ("CRITICAL", (98 / 10, "CVSS:3.1/AV:N/AC:L/PR:N/UI:N/S:U/C:H/I:H/A:H")),
  ("HIGH", (89 / 10, "CVSS:3.1/AV:N/AC:L/PR:N/UI:N/S:U/C:H/I:N/A:N")),
  ("MEDIUM", (65 / 10, "CVSS:3.1/AV:N/AC:H/PR:N/UI:N/S:U/C:L/I:N/A:N")),
  ("LOW", (33 / 10, "CVSS:3.1/AV:N/AC:L/PR:H/UI:N/S:U/C:N/I:N/A:N")),
  ("INFO", (1 / 10, "CVSS:3.1/AV:N/AC:L/PR:H/UI:R/S:U/C:N/I:N/A:N"))]

/-! Loading the rules. -/

def ruleOf (r : Json) : Py Rule := do
  return {
    ruleId := ← pyIndex r "rule_id"
    severity := ← pyIndex r "severity"
    cwe := ← pyIndex r "cwe"
    pattern := ← pyIndex r "pattern"
    patternType := ← pyIndex r "pattern_type"
    fileGlob := ← pyIndex r "file_glob"
    description := ← pyIndex r "description"
    impact := ← pyIndex r "impact"
    recommendation := ← pyIndex r "recommendation" }

def rulesOf : List Json → Py (List Rule)
  | [] => return []
  | r :: rulesData => do
      let rule ← ruleOf r
      return rule :: (← rulesOf rulesData)

/-- `load_rules`; `none` is its `sys.exit(1)`. -/
def loadRules : InputFile → Py (Option (List Rule))
  | .missing | .malformed => return none
  | .value data => do
      let rulesData ← pyGet data "rules" (.arr [])
      if !truthy rulesData then return none
      else match rulesData with
        | .arr items => return some (← rulesOf items)
        | _ => .error .typeError

/-! Detection. -/

/-- A file that `rglob("**/*.rs")` yields; its content is `none` where reading it is an
`OSError`. -/
structure SourceFile where
  path : String
  parts : List String
  content : Option String

structure Match where
  start : Nat
  group : String

/-- What the script uses of `pathlib` and `re`: `Path.match`, which raises on an empty glob, and
`finditer`, which is `none` where it raises `re.error`. -/
structure Engine where
  pathMatch : SourceFile → String → Py Bool
  finditer : String → String → Py (Option (List Match))

section Detect

variable (text : PyText) (engine : Engine)

def matchesOf (rule : Rule) (file : SourceFile) (content : String) : Py (List Match) :=
  match rule.fileGlob with
  | .str glob => do
      if ← engine.pathMatch file glob then
        match rule.pattern with
        | .str pattern => return (← engine.finditer pattern content).getD []
        | _ => .error .typeError
      else return []
  | _ => .error .typeError

def detectInContent (file : SourceFile) (content : String) :
    List Rule → Py (List (Rule × Match × String))
  | [] => return []
  | rule :: rules => do
      let found ← matchesOf engine rule file content
      let rest ← detectInContent file content rules
      return found.map (fun m => (rule, m, content)) ++ rest

def detectInFile (file : SourceFile) (rules : List Rule) : Py (List (Rule × Match × String)) :=
  match file.content with
  | some content => detectInContent engine file content rules
  | none => return []

/-- `x[:n]` of a value that may be no sequence. -/
def pySlice (x : Json) (n : Nat) : Py Json :=
  match x with
  | .str s => return .str (String.ofList (s.toList.take n))
  | .arr items => return .arr (items.take n)
  | _ => .error .typeError

def makeFinding (rule : Rule) (file : SourceFile) (m : Match) (content : String) : Py Finding := do
  let lineNum := (content.toList.take m.start).count '\n' + 1
  let severity ← text.uppered rule.severity
  let (score, vector) := (Dict.get? severityScore severity).getD
    (65 / 10, "CVSS:3.1/AV:N/AC:L/PR:N/UI:N/S:U/C:N/I:N/A:N")
  let findingId := "SAST-" ++ text.format rule.ruleId ++ "-" ++ toString lineNum
  let snippet :=
    if 200 < m.group.length then String.ofList (m.group.toList.take 200) ++ "..." else m.group
  let shortened ← pySlice rule.description 80
  return {
    id := findingId
    ruleId := rule.ruleId
    severity
    cvss := score
    cvssVector := vector
    cwe := rule.cwe
    title := "[" ++ text.format rule.ruleId ++ "] " ++ text.format shortened
    location := [("file", .str file.path), ("line", .int lineNum)]
    description := rule.description
    impact := rule.impact
    recommendation := rule.recommendation
    pocStatus := "pending"
    status := "Open"
    file := file.path
    line := lineNum
    snippet }

def makeFindings (file : SourceFile) : List (Rule × Match × String) → Py (List Finding)
  | [] => return []
  | (rule, m, content) :: found => do
      let finding ← makeFinding text rule file m content
      return finding :: (← makeFindings file found)

/-- A file of a directory that is left out. -/
def excluded (file : SourceFile) : Bool :=
  file.parts.contains "target" || file.parts.contains "tests" || file.parts.contains ".git"

def runAudit (rules : List Rule) : List SourceFile → Py (List Finding)
  | [] => return []
  | file :: files =>
      if excluded file then runAudit rules files
      else do
        let found ← detectInFile engine file rules
        let findings ← makeFindings text file found
        return findings ++ (← runAudit rules files)

end Detect

/-! The document. -/

def asdict (f : Finding) : Json := .obj [
  ("id", .str f.id), ("rule_id", f.ruleId), ("severity", .str f.severity),
  ("cvss", .float (.finite f.cvss)), ("cvss_vector", .str f.cvssVector), ("cwe", f.cwe),
  ("title", .str f.title), ("location", .obj f.location), ("description", f.description),
  ("impact", f.impact), ("recommendation", f.recommendation), ("poc_status", .str f.pocStatus),
  ("status", .str f.status), ("file", .str f.file), ("line", .int f.line),
  ("snippet", .str f.snippet)]

def countFinding (text : PyText) (counts : List (String × Nat)) (f : Finding) :
    List (String × Nat) :=
  let key := text.lower f.severity
  match Dict.get? counts key with
  | some n => Dict.set counts key (n + 1)
  | none => counts

def severityCounts (text : PyText) (findings : List Finding) : List (String × Nat) :=
  findings.foldl (countFinding text) [("critical", 0), ("high", 0), ("medium", 0), ("low", 0),
    ("info", 0), ("total", findings.length)]

/-- What a run of `main` finds around it. -/
structure Surroundings where
  rulesFile : InputFile
  auditRulesCount : Nat
  programPath : String
  programExists : Bool
  files : List SourceFile
  timestamp : String
  writable : Bool

/-- How `main` ends: with a status, by an exception, or with 0 and its document written. -/
inductive Outcome
  | exit (code : Nat)
  | raised
  | written (document : Json)

def document (text : PyText) (env : Surroundings) (rules : List Rule) (findings : List Finding) :
    Json := .obj [
  ("findings", .arr (findings.map asdict)),
  ("summary", .obj ((severityCounts text findings).map fun e => (e.1, .int e.2))),
  ("audit_type", .str "SAST"),
  ("engine", .str "solana-auditor-skill/sast"),
  ("version", .str scriptVersion),
  ("timestamp", .str env.timestamp),
  ("program", .str env.programPath),
  ("rules_run", .int rules.length),
  ("audit_rules_total", .int env.auditRulesCount),
  ("rules_requiring_manual_review", .int (env.auditRulesCount - rules.length : Nat)),
  ("files_scanned", .int (env.files.filter fun f => !excluded f).length)]

/-- `main` without `--version`, `--patterns` and `--stats`. -/
def main (text : PyText) (engine : Engine) (env : Surroundings) : Outcome :=
  match loadRules env.rulesFile with
  | .error _ => .raised
  | .ok none => .exit 1
  | .ok (some rules) =>
      if !env.programExists then .exit 1
      else if (env.files.filter fun f => !excluded f).isEmpty then .exit 1
      else
        match runAudit text engine rules env.files with
        | .error _ => .raised
        | .ok findings =>
            if env.writable then .written (document text env rules findings) else .exit 2

end SolanaAuditor.Sast
