/- SolanaAuditor/Reports/AuditReport
   digest: scripts/audit-report.py: the Markdown report of a list of findings. -/

import SolanaAuditor.Reports.LevelCounts

set_option autoImplicit false
set_option relaxedAutoImplicit false

namespace SolanaAuditor.Reports.AuditReport

open SolanaAuditor.Lib

/-- A part of a line: text of the script, or a value that the script was given. -/
inductive Part
  | lit (s : String)
  | val (s : String)

def Part.text : Part → String
  | .lit s | .val s => s

abbrev Line := List Part

def icons : List (String × String) := [
  ("CRITICAL", "![CRITICAL](https://img.shields.io/badge/-CRITICAL-red)"),
  ("HIGH", "![HIGH](https://img.shields.io/badge/-HIGH-orange)"),
  ("MEDIUM", "![MEDIUM](https://img.shields.io/badge/-MEDIUM-yellow)"),
  ("LOW", "![LOW](https://img.shields.io/badge/-LOW-blue)"),
  ("INFO", "![INFO](https://img.shields.io/badge/-INFO-lightgrey)")]

/-- `f"FIND-{i:03d}"` -/
def defaultId (i : Nat) : String :=
  let digits := toString i
  "FIND-" ++ String.ofList (List.replicate (3 - digits.length) '0') ++ digits

section Rendering

variable (text : PyText)

/-- The counts of `render_report`. -/
def counts (findings : List PyDict) : Py Counts := levelCounts text findings

/-- `severity_badge` of a text. -/
def severityBadge (sev : String) : Part :=
  match Dict.get? icons (text.upper sev) with
  | some icon => .lit icon
  | none => .val sev

/-- A value in an f-string. -/
def shown (v : Json) : Part := .val (text.format v)

/-- The lines of `Executive Summary` and `Severity Summary`. -/
def summaryLines (counts : Counts) (total : Nat) : List Line :=
  let count := fun s => (Dict.get? counts s).getD 0
  [[.lit "## Executive Summary\n"],
    [.lit ("This audit identified **" ++ toString total ++ "** finding" ++
      (if total ≠ 1 then "s" else "") ++ " across " ++ toString severityLevels.length ++
      " severity levels. " ++ toString (count "CRITICAL") ++ " critical and " ++
      toString (count "HIGH") ++ " high severity issues require immediate attention." ++
      (if count "MEDIUM" ≠ 0 then " " ++ toString (count "MEDIUM") ++
        " medium severity issues should be addressed in a timely manner." else "") ++ "\n")],
    [.lit "\n"], [.lit "## Severity Summary\n"], [.lit "| Severity | Count |"],
    [.lit "|----------|------:|"]] ++
  (severityLevels.filter fun s => decide (0 < count s)).map (fun s =>
    [.lit "| ", severityBadge text s, .lit (" | " ++ toString (count s) ++ " |")]) ++
  [[.lit ("| **Total** | **" ++ toString total ++ "** |")], [.lit "\n"]]

/-- The lines of the header, from the summary of the file. -/
def headerLines (summary : PyDict) (generated : String) : List Line := [
  [.lit "# Security Audit Report\n"],
  [.lit "**Program:** ",
    shown text (field summary "program_name" (.str "Unknown Program")), .lit "\n"],
  [.lit "**Repository:** ", shown text (field summary "repo" (.str "N/A")), .lit "\n"],
  [.lit "**Date:** ", shown text (field summary "audit_date" (.str "N/A")), .lit "\n"],
  [.lit "**Skill Version:** ",
    shown text (field summary "skill_version" (.str "N/A")), .lit "\n"],
  [.lit "**Generated:** ", .val generated, .lit "\n"],
  [.lit "\n"]]

/-- The lines of one finding, the `i`-th. -/
def findingLines (i : Nat) (f : PyDict) : Py (List Line) := do
  let sev := field f "severity" (.str "INFO")
  let cvss := f.get "cvss"
  let cvssVec := field f "cvss_vector" (.str "")
  let cwe := field f "cwe" (.str "")
  let loc := field f "location" (.obj [])
  let locFile ← pyGet loc "file" (.str "N/A")
  let locLine ← pyGet loc "line" .null
  let locFn ← pyGet loc "function" (.str "")
  let poc := f.get "poc_path"
  let badge ← match sev with
    | .str s => pure (severityBadge text s)
    | _ => .error .attributeError
  return [
    [.lit "### ", shown text (field f "id" (.str (defaultId i))), .lit ": ",
      shown text (field f "title" (.str "Untitled")), .lit " ", badge, .lit "\n"],
    [.lit "- **Severity:** ", shown text sev]] ++
  (match cvss with
    | .null => []
    | _ => [[.lit "  | **CVSS:** ", shown text cvss] ++
        (if truthy cvssVec then [.lit " (", shown text cvssVec, .lit ")"] else [])]) ++
  (if truthy cwe then [[.lit "  | **CWE:** ", shown text cwe]] else []) ++
  [[.lit "- **Location:** `", shown text locFile, .lit "`"] ++
    (if truthy locLine then [.lit ":", shown text locLine] else []) ++
    (if truthy locFn then [.lit " in `", shown text locFn, .lit "`"] else [])] ++
  (if truthy poc then [[.lit "- **PoC:** `examples/", shown text poc, .lit "`"]] else []) ++
  [[.lit "\n"],
    [.lit "**Description:** ",
      shown text (field f "description" (.str "No description provided.")), .lit "\n"],
    [.lit "\n**Impact:** ", shown text (field f "impact" (.str "Impact not assessed.")),
      .lit "\n"],
    [.lit "\n**Recommendation:** ",
      shown text (field f "recommendation" (.str "No recommendation provided.")), .lit "\n"],
    [.lit "\n---\n\n"]]

/-- The lines of the findings, the first of which is the `i`-th. -/
def allFindingLines : Nat → List PyDict → Py (List Line)
  | _, [] => return []
  | i, f :: findings => do
      let lines ← findingLines text i f
      return lines ++ (← allFindingLines (i + 1) findings)

/-- `for item in value` -/
def items : Json → Py (List Json)
  | .arr items => return items
  | .str s => return s.toList.map fun c => .str (String.singleton c)
  | .obj entries => return entries.map fun e => .str e.1
  | .null | .bool _ | .int _ | .float _ => .error .typeError

def scopeLines (scope : Json) : Py (List Line) := do
  let lines := (← items scope).map fun item => [.lit "- ", shown text item, .lit "\n"]
  return [[.lit "## Out of Scope\n"],
    [.lit "The following areas were explicitly excluded from this audit:\n"]] ++ lines ++
    (if truthy scope then [] else [[.lit "- (None — full program scope)\n"]]) ++ [[.lit "\n"]]

def patternLines : List Line := [
  [.lit "## Patterns Reviewed, Not Exploited\n"],
  [.lit ("The following patterns were analyzed and determined to not represent exploitable " ++
    "vulnerabilities under the current threat model:\n")],
  [.lit "- (None documented — add entries as findings are closed)\n"],
  [.lit "\n"]]

def closingLines (skillVersion : Json) : List Line := [
  [.lit "## Disclaimer\n"],
  [.lit ("This report is a point-in-time security assessment. New attack vectors or changes to " ++
    "the program may introduce vulnerabilities not identified here. Findings should be " ++
    "re-evaluated after each significant code change.")],
  [.lit "\n\n"],
  [.lit "## Appendix: Tools & Methodology\n"],
  [.lit "- **Tool:** solana-auditor-skill v", shown text skillVersion, .lit "\n"],
  [.lit "- **Rules:** 26 path-scoped Solana Anchor security rules\n"],
  [.lit "- **Agents:** 6 specialized audit agents + cross-program agent\n"],
  [.lit "- **Framework:** Anchor v0.30+ on Solana v1.18+\n"],
  [.lit "\n"]]

/-- `raw.get("summary", {}) or {}`, where it is read as a dictionary. -/
def summaryOf (raw : PyDict) : Py PyDict :=
  match pyOr (field raw "summary" (.obj [])) (.obj []) with
  | .obj summary => return summary
  | _ => .error .attributeError

/-- The lines that `render_report` writes, at a given time. -/
def reportLines (generated : String) (raw : PyDict) (findings : List PyDict) :
    Py (List Line) := do
  let summary ← summaryOf raw
  let counts ← counts text findings
  let middle ← allFindingLines text 1 findings
  let scope ← scopeLines text (field raw "out_of_scope" (.arr []))
  return headerLines text summary generated ++ summaryLines text counts findings.length ++
    [[.lit "## Findings\n"]] ++ middle ++ patternLines ++ scope ++
    closingLines text (field summary "skill_version" (.str "N/A"))

end Rendering

/-- The parts of the file: its lines, joined by line ends. -/
def fileParts (lines : List Line) : List Part := [Part.lit "\n"].intercalate lines

def written (parts : List Part) : String := String.join (parts.map Part.text)

/-- The text of AUDIT_REPORT.md. -/
def renderReport (text : PyText) (generated : String) (raw : PyDict) (findings : List PyDict) :
    Py String := do
  let lines ← reportLines text generated raw findings
  return written (fileParts lines)

end SolanaAuditor.Reports.AuditReport
