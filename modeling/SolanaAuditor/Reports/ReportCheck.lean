/- SolanaAuditor/Reports/ReportCheck
   digest: tests/severity_counts.py: the checks that read AUDIT_REPORT.md back. -/

import SolanaAuditor.Lib.Regex
import SolanaAuditor.Reports.CountAgreement

set_option autoImplicit false
set_option relaxedAutoImplicit false

namespace SolanaAuditor.Reports.ReportCheck

open SolanaAuditor.Lib SolanaAuditor.Lib.Regex

/-- What `read()` makes of a file opened as text: `\r\n` and `\r` become `\n`. -/
def universalNewlines : List Char → List Char
  | [] => []
  | c :: s =>
      if c = '\r' then
        if s.head? = some '\n' then universalNewlines s else '\n' :: universalNewlines s
      else c :: universalNewlines s

/-- The pieces of a text that stands for itself. -/
def literally (s : String) : List (Piece Char) := s.toList.map fun c => .one (· == c)

section Counts

variable (text : PyText) (chars : PyChars)

/-- `\d` -/
def isDecimal (c : Char) : Bool := (chars.decimal c).isSome

/-- `\|\s*{level}\s*\|\s*(\d+)\s*\|`, where case does not matter. -/
def rowPattern (level : String) : Pattern Char where
  before := [.one (· == '|'), .many chars.isSpace] ++
    level.toList.map (fun c => .one (chars.sameLetter c)) ++
    [.many chars.isSpace, .one (· == '|'), .many chars.isSpace]
  group := [.one (isDecimal chars), .many (isDecimal chars)]
  after := [.many chars.isSpace, .one (· == '|')]

/-- The counts of a report for some levels, given in lower and in upper case. -/
def parseLevels (report : List Char) : List (String × String) → Py PyDict
  | [] => return []
  | (sev, level) :: rest =>
      match search (rowPattern chars level) report with
      | none => parseLevels report rest
      | some digits => do
          let count ← chars.int digits
          return (sev, .int count) :: (← parseLevels report rest)

def parseReportCounts (report : List Char) : Py PyDict := parseLevels chars report levels

/-- `check_report` of a document and the text of a report. -/
def checkReport (d : Json) (report : String) : Py Nat := do
  let fnCounts ← SeverityCounts.expectedCounts text d
  let reportCounts ← parseReportCounts chars (universalNewlines report.toList)
  return if (SeverityCounts.mismatches fnCounts reportCounts).isEmpty then 0 else 1

end Counts

section Sections

/-- A section ends before `### VULN-` and before a line that starts with `## `. -/
def stopsAt (prev : Char) (s : List Char) : Bool :=
  "### VULN-".toList.isPrefixOf s || (prev == '\n' && "## ".toList.isPrefixOf s)

def untilStop : Char → List Char → List Char
  | _, [] => []
  | prev, c :: s => if stopsAt prev (c :: s) then [] else c :: untilStop c s

/-- The first `head`, which ends in a colon, with the text up to the end of its section. -/
def findSection (head : List Char) : List Char → Option (List Char)
  | [] => none
  | c :: s =>
      if head.isPrefixOf (c :: s) then some (head ++ untilStop ':' ((c :: s).drop head.length))
      else findSection head s

def sectionHead (fid : String) : List Char := ("### " ++ fid ++ ":").toList

end Sections

section Cvss

variable (text : PyText) (chars : PyChars)

/-- `\*\*CVSS\*\*:\s*(\S+)` -/
def scorePattern : Pattern Char where
  before := literally "**CVSS**:" ++ [.many chars.isSpace]
  group := [.one (! chars.isSpace ·), .many (! chars.isSpace ·)]
  after := []

def isVectorChar (c : Char) : Bool := !chars.isSpace c && c != ')' && c.toNat != 96

/-- The group is the whole match: `CVSS:3\.1/`, then no space, closing bracket or backquote. -/
def vectorPattern : Pattern Char where
  before := []
  group := literally "CVSS:3.1/" ++ [.one (isVectorChar chars), .many (isVectorChar chars)]
  after := []

structure CvssDiff where
  fid : String
  field : String
  json : Json
  report : String

/-- `str()` of a group, or of the `None` that stands for no match. -/
def groupText (group : Option (List Char)) : String := (group.map String.ofList).getD "None"

/-- What one finding adds to the differences. -/
def cvssDiffs (report : List Char) (finding : PyDict) : Py (List CvssDiff) :=
  let score := finding.get "cvss"
  let vec := field finding "cvss_vector" (.str "")
  match finding.get "id" with
  | .str fid =>
      match findSection (sectionHead fid) report with
      | none => return [⟨fid, "section not found in report", .str "", ""⟩]
      | some sectionText =>
          let reportScore := search (scorePattern chars) sectionText
          let reportVec := search (vectorPattern chars) sectionText
          let scoreDiffs := if text.format score ≠ groupText reportScore then
            [⟨fid, "score", .str (text.format score), groupText reportScore⟩] else []
          let vectorDiffs := match reportVec with
            | none => []
            | some found =>
                if truthy vec && !isText (String.ofList found) vec then
                  [⟨fid, "vector", vec, String.ofList found⟩]
                else []
          return scoreDiffs ++ vectorDiffs
  | _ => .error .typeError

def allCvssDiffs (report : List Char) : List PyDict → Py (List CvssDiff)
  | [] => return []
  | finding :: findings => do
      let diffs ← cvssDiffs text chars report finding
      return diffs ++ (← allCvssDiffs report findings)

/-- `check_cvss_consistency` of a document and the text of a report. -/
def checkCvssConsistency (d : Json) (report : String) : Py Nat := do
  let findings ← pyRows (← pyGet d "findings" (.arr []))
  let diffs ← allCvssDiffs text chars (universalNewlines report.toList) findings
  return if diffs.isEmpty then 0 else 1

end Cvss

end SolanaAuditor.Reports.ReportCheck
