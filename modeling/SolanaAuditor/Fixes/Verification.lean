/- SolanaAuditor/Fixes/Verification
   digest: scripts/fix-verification.sh: its arguments, its steps and its summary. -/

import SolanaAuditor.Jq
import SolanaAuditor.Lib.Shell

set_option autoImplicit false
set_option relaxedAutoImplicit false

/-!
The only operation of this script that matters here is to print a line; the colour codes
of the lines are left out. What the script finds on the machine is fixed for a run.
-/

namespace SolanaAuditor.Fixes

open SolanaAuditor.Lib SolanaAuditor.Lib.Shell

abbrev VerifyScript (α : Type) := Script String (fun _ => Unit) α

/-- A printed line goes to the end of the output. -/
def output (printed : List String) (line : String) : Unit × List String :=
  ((), printed ++ [line])

def print (line : String) : VerifyScript Unit := .act line .done

def printAll : List String → VerifyScript Unit
  | [] => return ()
  | line :: lines => do
      print line
      printAll lines

def logInfo (text : String) : VerifyScript Unit := print ("[INFO] " ++ text)
def logPass (text : String) : VerifyScript Unit := print ("[PASS] " ++ text)
def logFail (text : String) : VerifyScript Unit := print ("[FAIL] " ++ text)
def logWarn (text : String) : VerifyScript Unit := print ("[WARN] " ++ text)

def separatorLine : String :=
  "--------------------------------------------------------------------------------"

def separator : VerifyScript Unit := print separatorLine

def usage : VerifyScript Unit := printAll
  ["Usage: fix-verification.sh <finding-id> [options]", "", "Options:",
    "  --build    Run anchor build verification",
    "  --test     Run anchor test (default if no options specified)",
    "  --poc      Run PoC verification",
    "  --full     Run all checks (build + test + poc)",
    "  --help     Show this help message"]

/-- `findings.json`: the documents that jq reads, whether the text goes wrong after them,
and whether `grep -q "\"id\": \"$finding_id\""` finds a line. -/
structure FindingsFile where
  docs : List Json
  wellFormed : Bool
  grepHit : String → Bool

/-- An `anchor` command: the lines that `tail` keeps, and whether it succeeded. -/
structure AnchorRun where
  lines : List String
  succeeded : Bool

/-- What the script finds on the machine. -/
structure Project where
  findingsJson : Option FindingsFile
  jqFound : Bool
  anchorFound : Bool
  solanaFound : Bool
  bcFound : Bool
  anchorToml : Bool
  anchorBuild : AnchorRun
  /-- `anchor test --grep "$finding_id"` -/
  anchorTestGrep : String → AnchorRun
  anchorTest : AnchorRun
  /-- `tr '[:upper:]' '[:lower:]'` in the locale of the run -/
  lower : String → String
  /-- the files of `audit-output/pocs` -/
  pocFile : String → Bool
  /-- the text of a value in the output of `jq -r` -/
  jqRaw : Json → String
  /-- `bc` on `"$cvss_before - $cvss_after"`, or `N/A` -/
  bc : String → String → String
  /-- `tests/severity_counts.py --verify`, when the file is there -/
  severityScript : Option AnchorRun

/-- The exit status of a jq run that ended with a parse error, a filter error or neither. -/
def FindingsFile.jqStatus (file : FindingsFile) (ok : Bool) : Nat :=
  if !file.wellFormed then 2 else if ok then 0 else 5

/-- `.findings[] | select(.id == $id) | out` -/
def findingsQuery (id : String) (out : Json → JqResult Json) (doc : Json) : JqOutput :=
  match (do jqIterate (← jqIndex "findings" doc) : JqResult (List Json)) with
  | .error _ => ([], false)
  | .ok items => jqEach (fun x => do
      let v ← jqIndex "id" x
      if jqEqStr id v then return [← out x] else return []) items

/-- `.k // default` -/
def fieldOr (k : String) (default : Json) (x : Json) : JqResult Json :=
  .ok (jqAlternative (jqIndex k x) default)

/-- `.remediation.cvss_after.k // "N/A"` -/
def cvssAfterOr (k : String) (x : Json) : JqResult Json :=
  .ok (jqAlternative (do
    let remediation ← jqIndex "remediation" x
    let cvssAfter ← jqIndex "cvss_after" remediation
    jqIndex k cvssAfter) (.str "N/A"))

/-- The text that `$(…)` makes of printed lines. -/
def capture (lines : List String) : String :=
  let text := lines.flatMap (fun line => line.toList ++ ['\n'])
  String.ofList (text.reverse.dropWhile (· == '\n')).reverse

section Steps

variable (p : Project)

def checkPrerequisites : VerifyScript Nat := do
  logInfo "Checking prerequisites..."
  if !p.anchorFound then do
    logWarn "anchor CLI not found. Tier 1 (SAST) mode only."
    return 1
  else if !p.solanaFound then do
    logWarn "solana CLI not found. Tier 1 (SAST) mode only."
    return 1
  else do
    if !p.bcFound then
      printAll ["[WARN] bc not found. CVSS reduction calculation will be skipped.",
        "  Install bc: brew install bc (macOS) or apt install bc (Linux)"]
    logPass "All prerequisites satisfied (Tier 2 mode)"
    return 0

/-- The status of `find_finding`, whose output goes to `/dev/null`. -/
def findFinding (id : String) : Nat :=
  match p.findingsJson with
  | none => 2
  | some file =>
      if p.jqFound then
        -- the status of this jq is dropped, and a printed object is never blank text
        if (jqRun (findingsQuery id .ok) file.docs).1.isEmpty then 2 else 0
      else if file.grepHit id then 0
      else 2

def verifyBuild (id : String) : VerifyScript Nat := do
  separator
  logInfo ("Running anchor build verification for " ++ id ++ "...")
  if !p.anchorToml then do
    logWarn "Not an Anchor project (no Anchor.toml found)"
    logWarn "Skipping build verification"
    return 0
  else do
    printAll p.anchorBuild.lines
    if p.anchorBuild.succeeded then do
      logPass "anchor build succeeded"
      return 0
    else do
      logFail "anchor build failed"
      return 1

def verifyTest (id : String) : VerifyScript Nat := do
  separator
  logInfo ("Running anchor test verification for " ++ id ++ "...")
  if !p.anchorToml then do
    logWarn "Not an Anchor project (no Anchor.toml found)"
    logWarn "Skipping test verification"
    return 0
  else do
    printAll (p.anchorTestGrep id).lines
    if (p.anchorTestGrep id).succeeded then do
      logPass ("anchor test passed for " ++ id)
      return 0
    else do
      logWarn "Finding-specific test not found, running full test suite..."
      printAll p.anchorTest.lines
      if p.anchorTest.succeeded then do
        logPass "anchor test suite passed"
        return 0
      else do
        logFail "anchor test failed"
        return 1

/-- The `poc_status` of the finding in `file`, with jq's status dropped. -/
def pocStatus (file : FindingsFile) (id : String) : String :=
  capture ((jqRun (findingsQuery id (fieldOr "poc_status" (.str "none"))) file.docs).1.map p.jqRaw)

def verifyPoc (id : String) : VerifyScript Nat := do
  separator
  logInfo ("Running PoC verification for " ++ id ++ "...")
  let name := p.lower id ++ ".md"
  if p.pocFile name then do
    logInfo ("Found PoC: " ++ name)
    logInfo ("To run PoC, use: /audit-poc " ++ id)
    return 0
  else
    let status := match p.findingsJson with
      | some file => if p.jqFound then pocStatus p file id else "none"
      | none => "none"
    if status ≠ "none" ∧ status ≠ "pending" then do
      logPass ("PoC status: " ++ status)
      return 0
    else do
      logWarn ("No PoC found for " ++ id)
      logInfo ("To create a PoC, use: /audit-poc " ++ id)
      return 1

/-- `x=$(jq … "$FINDINGS_JSON" 2>/dev/null)` as a simple command under `set -e`. -/
def jqCapture (file : FindingsFile) (id : String) (out : Json → JqResult Json) :
    VerifyScript String := do
  let result := jqRun (findingsQuery id out) file.docs
  errexit (file.jqStatus result.2)
  return capture (result.1.map p.jqRaw)

/-- `jq -e … '.remediation'`: the last value printed is neither `null` nor `false`. -/
def hasRemediation (file : FindingsFile) (id : String) : Bool :=
  let result := jqRun (findingsQuery id (jqIndex "remediation")) file.docs
  file.jqStatus result.2 == 0 &&
    match result.1.getLast? with
    | none | some .null | some (.bool false) => false
    | some _ => true

def showRemediation (file : FindingsFile) (id cvssBefore : String) : VerifyScript Unit := do
  if hasRemediation file id then do
    let cvssAfter ← jqCapture p file id (cvssAfterOr "score")
    let cvssAfterVector ← jqCapture p file id (cvssAfterOr "vector")
    printAll ["  CVSS After: " ++ cvssAfter, "  Vector:     " ++ cvssAfterVector]
    if cvssAfter ≠ "N/A" ∧ cvssAfter ≠ "0" then
      if p.bcFound then
        print ("  Reduction:  " ++ p.bc cvssBefore cvssAfter)
      else
        printAll ["[WARN] bc not available — CVSS reduction not computed", "  Reduction:  N/A"]
    else
      return ()
  else
    printAll ["  Remediation block not found", "", "  To add CVSS recalculation, use:",
      "    python scripts/audit-fix-suggestions.py --cvss-before-after --finding " ++ id]

def verifyCvssMath : VerifyScript Unit :=
  match p.severityScript with
  | none => return ()
  | some script => do
      separator
      logInfo "Verifying CVSS math with severity_counts.py..."
      printAll script.lines
      if script.succeeded then
        logPass "CVSS math verified"
      else
        logWarn "CVSS math verification skipped or failed"

def verifyCvssRecalculation (id : String) : VerifyScript Unit := do
  separator
  logInfo ("Verifying CVSS recalculation for " ++ id ++ "...")
  match (if p.jqFound then p.findingsJson else none) with
  | none => logWarn "Cannot verify CVSS (findings.json or jq not available)"
  | some file => do
      let cvssBefore ← jqCapture p file id (fieldOr "cvss" (.int 0))
      let severity ← jqCapture p file id (fieldOr "severity" (.str "UNKNOWN"))
      let rule ← jqCapture p file id (fieldOr "rule_caught" (.str "UNKNOWN"))
      printAll ["", "  Finding:    " ++ id, "  Severity:   " ++ severity,
        "  Rule:       " ++ rule, "  CVSS:       " ++ cvssBefore]
      showRemediation p file id cvssBefore
      verifyCvssMath p

end Steps

/-- The variables that the arguments set. -/
structure Options where
  runBuild : Bool
  runTest : Bool
  runPoc : Bool
  runFull : Bool
  findingId : String

/-- Their values before the arguments are read. -/
def noOptions : Options where
  runBuild := false
  runTest := false
  runPoc := false
  runFull := false
  findingId := ""

def parseArgs : Options → List String → VerifyScript Options
  | o, [] => return o
  | o, arg :: rest =>
      if arg = "--build" then parseArgs { o with runBuild := true } rest
      else if arg = "--test" then parseArgs { o with runTest := true } rest
      else if arg = "--poc" then parseArgs { o with runPoc := true } rest
      else if arg = "--full" then parseArgs { o with runFull := true } rest
      else if arg = "--help" ∨ arg = "-h" then do
        usage
        .exit 0
      else if arg.toList.head? = some '-' then do
        print ("ERROR: Unknown option: " ++ arg)
        usage
        .exit 1
      else if o.findingId = "" then parseArgs { o with findingId := arg } rest
      else do
        print ("ERROR: Unexpected argument: " ++ arg)
        usage
        .exit 1

def Options.resolve (o : Options) : Options :=
  let o := if !o.runBuild && !o.runTest && !o.runPoc && !o.runFull then
    { o with runTest := true } else o
  if o.runFull then { o with runBuild := true, runTest := true, runPoc := true } else o

def countRow (log : VerifyScript Unit) (counter : Nat) : VerifyScript Nat := do
  log
  postIncrement counter

/-- The row of an anchor step, with the counters `total_passed` and `total_failed`. -/
def anchorRow (requested : Bool) (name : String) (result : Nat) (totals : Nat × Nat) :
    VerifyScript (Nat × Nat) := do
  if !requested then
    return totals
  else if result = 0 then
    return (← countRow (logPass name) totals.1, totals.2)
  else
    return (totals.1, ← countRow (logFail name) totals.2)

def pocRow (requested : Bool) (result : Nat) (totals : Nat × Nat) :
    VerifyScript (Nat × Nat) := do
  if !requested then
    return totals
  else if result = 0 then
    return (← countRow (logPass "PoC verification") totals.1, totals.2)
  else do
    logWarn "PoC verification (skipped or no PoC)"
    return totals

def summaryRows (o : Options) (buildResult testResult pocResult : Nat) :
    VerifyScript (Nat × Nat) := do
  let totals ← anchorRow o.runBuild "anchor build" buildResult (0, 0)
  let totals ← anchorRow o.runTest "anchor test" testResult totals
  pocRow o.runPoc pocResult totals

def summarize (o : Options) (buildResult testResult pocResult : Nat) : VerifyScript Nat := do
  separator
  print ""
  print ("Verification Summary for " ++ o.findingId)
  print ""
  let totals ← summaryRows o buildResult testResult pocResult
  print ""
  separator
  print ""
  if totals.2 = 0 then do
    print "All verification checks PASSED"
    print ""
    print ("The fix for " ++ o.findingId ++ " has been verified.")
    print "Update findings.json status to 'Fixed' and record verification timestamp."
    .exit 0
  else do
    print "Some verification checks FAILED"
    print ""
    print "Please review the failed checks above."
    print ("Do NOT mark " ++ o.findingId ++ " as fixed until all checks pass.")
    .exit 1

/-- A step that is run under `if !` when it is requested: its result is 0 or 1. -/
def step (requested : Bool) (verify : VerifyScript Nat) : VerifyScript Nat := do
  if requested then
    return if (← verify) = 0 then 0 else 1
  else
    return 0

def banner : String :=
  "================================================================================"

def verifyFinding (p : Project) (o : Options) : VerifyScript Nat := do
  logPass ("Finding " ++ o.findingId ++ " found")
  let buildResult ← step o.runBuild (verifyBuild p o.findingId)
  let testResult ← step o.runTest (verifyTest p o.findingId)
  let pocResult ← step o.runPoc (verifyPoc p o.findingId)
  verifyCvssRecalculation p o.findingId
  summarize o buildResult testResult pocResult

def main (p : Project) (args : List String) : VerifyScript Nat := do
  let o ← parseArgs noOptions args
  if o.findingId = "" then do
    print "ERROR: Finding ID required"
    usage
    .exit 1
  else do
    let o := o.resolve
    printAll ["", banner, "Fix Verification for " ++ o.findingId, banner, ""]
    let _ ← checkPrerequisites p
    separator
    logInfo ("Looking up finding " ++ o.findingId ++ "...")
    if findFinding p o.findingId ≠ 0 then do
      logFail "Finding not found"
      .exit 2
    else
      verifyFinding p o

end SolanaAuditor.Fixes
