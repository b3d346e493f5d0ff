/- SolanaAuditor/Hooks/PreCommit
   digest: scripts/pre-commit-audit.sh: run_audit, its counters and its report. -/

import SolanaAuditor.Lib.Shell

set_option autoImplicit false
set_option relaxedAutoImplicit false

/-!
The texts are those of a run with `NO_COLOR` set. `scan_file` is a parameter: the audit
is about what happens to its findings. The temporary files `audit_<severity>_$$` may be
there already, left by an earlier process with this pid.
-/

namespace SolanaAuditor.Hooks

open SolanaAuditor.Lib.Shell

def exitPass : Nat := 0
def exitBlocked : Nat := 1
def exitError : Nat := 2

inductive Severity
  | critical | high | medium
  deriving DecidableEq

def Severity.word : Severity → String
  | .critical => "CRITICAL"
  | .high => "HIGH"
  | .medium => "MEDIUM"

/-- The patterns of `case "$severity" in`. -/
def Severity.ofWord (w : String) : Option Severity :=
  if w = "CRITICAL" then some .critical
  else if w = "HIGH" then some .high
  else if w = "MEDIUM" then some .medium
  else none

structure Finding where
  severity : Severity
  desc : String
  file : String
  firstLine : String
  count : Nat

/-- The line `${severity}~${desc}~${file}~${first_line}~${count}`. -/
def Finding.text (f : Finding) : String :=
  f.severity.word ++ "~" ++ f.desc ++ "~" ++ f.file ++ "~" ++ f.firstLine ++ "~" ++
    toString f.count

/-- What stands before the first separator, and what after it. -/
def cut (sep : Char) : List Char → List Char × List Char
  | [] => ([], [])
  | c :: cs => if c = sep then ([], cs) else let rest := cut sep cs; (c :: rest.1, rest.2)

/-- The variables that `IFS='~' read -r severity desc file line count` sets. -/
structure Fields where
  severity : String
  desc : String
  file : String
  line : String
  count : String

def readFields (text : String) : Fields :=
  let a := cut '~' text.toList
  let b := cut '~' a.2
  let c := cut '~' b.2
  let d := cut '~' c.2
  { severity := String.ofList a.1, desc := String.ofList b.1, file := String.ofList c.1
    line := String.ofList d.1, count := String.ofList d.2 }

structure ReportFinding where
  severity : Severity
  file : String
  line : String

/-- The document `.audit-precommit.json`. -/
structure Report where
  timestamp : String
  commit : String
  blocked : Nat
  summary : Severity → Nat
  findings : List ReportFinding

inductive HookOp
  | print (line : String)
  /-- `[[ -f "${tmp_dir}/audit_<severity>_$$" ]]` -/
  | tempTest (s : Severity)
  | tempRead (s : Severity)
  | tempWrite (s : Severity) (lines : List String)
  /-- `rm -f` of the three files. -/
  | tempRemove
  /-- `cat > "$JSON_OUTPUT"` -/
  | saveReport (r : Report)

abbrev HookReply : HookOp → Type
  | .tempTest _ => Bool
  | .tempRead _ => List String
  | .print _ | .tempWrite _ _ | .tempRemove | .saveReport _ => Unit

structure HookState where
  printed : List String
  temp : Severity → Option (List String)
  report : Option Report

def HookState.answer (s : HookState) : (o : HookOp) → HookReply o × HookState
  | .print line => ((), { s with printed := s.printed ++ [line] })
  | .tempTest sev => ((s.temp sev).isSome, s)
  | .tempRead sev => ((s.temp sev).getD [], s)
  | .tempWrite sev lines => ((), { s with temp := Function.update s.temp sev (some lines) })
  | .tempRemove => ((), { s with temp := fun _ => none })
  | .saveReport r => ((), { s with report := some r })

abbrev HookScript (α : Type) := Script HookOp HookReply α

def print (line : String) : HookScript Unit := .act (.print line) .done
def tempTest (s : Severity) : HookScript Bool := .act (.tempTest s) .done
def tempRead (s : Severity) : HookScript (List String) := .act (.tempRead s) .done
def tempWrite (s : Severity) (lines : List String) : HookScript Unit :=
  .act (.tempWrite s lines) .done
def saveReport (r : Report) : HookScript Unit := .act (.saveReport r) .done

def logInfo (text : String) : HookScript Unit := print ("[AUDIT] " ++ text)
def logPass (text : String) : HookScript Unit := print ("[PASS] " ++ text)
def logWarn (text : String) : HookScript Unit := print ("[WARN] " ++ text)
def logBlock (text : String) : HookScript Unit := print ("[BLOCKED] " ++ text)
def logError (text : String) : HookScript Unit := print ("[ERROR] " ++ text)

/-- One invocation: its arguments, and what git, `date`, `scan_file` and bash supply. -/
structure Hook where
  args : List String
  gitFound : Bool
  insideWorkTree : Bool
  /-- `git diff --cached --name-only --diff-filter=ACM` -/
  stagedNames : List String
  scanFile : String → List Finding
  timestamp : String
  headCommit : String
  /-- `"${a[@]}"` of an empty array is no error under `set -u` (bash 4.4 and later). -/
  emptyArrayBound : Bool
  /-- `[[ "$count" -gt 1 ]]`; a word that is no number can end the shell. -/
  countAboveOne : String → Except Nat Bool

namespace Hook

variable (h : Hook)

def checkGit : HookScript Unit := do
  if !h.gitFound then do
    logError "git not found"
    .exit exitError
  else if !h.insideWorkTree then do
    logError "not inside a git repository"
    .exit exitError
  else
    return ()

/-- The names that `grep '\.rs$'` keeps. -/
def getStagedFiles : List String :=
  h.stagedNames.filter (fun name => ".rs".toList.isSuffixOf name.toList)

def readFindings : List String → HookScript (List String)
  | [] => return []
  | finding :: rest =>
      if finding = "" then
        readFindings rest
      else do
        let f := readFields finding
        let many ← match h.countAboveOne f.count with
          | .ok b => .done b
          | .error code => .exit code
        print ("  " ++ f.severity ++ ": " ++ f.desc ++ " in " ++ f.file ++ ":" ++ f.line ++
          " (" ++ f.count ++ " match" ++ (if many then "es" else "") ++ ")")
        return finding :: (← readFindings rest)

def scanStaged : List String → HookScript (List String)
  | [] => return []
  | file :: files =>
      if file = "" then
        scanStaged files
      else do
        logInfo ("Scanning: " ++ file)
        let found ← readFindings h ((h.scanFile file).map Finding.text)
        return found ++ (← scanStaged files)

end Hook

/-- The counters and the lists of details of `aggregate_findings`. -/
structure Tally where
  count : Severity → Nat
  details : Severity → List String

def Tally.zero : Tally := { count := fun _ => 0, details := fun _ => [] }

/-- The loop of `aggregate_findings`: `((count++))` is a command of its own. -/
def tallyFindings : Tally → List String → HookScript Tally
  | t, [] => return t
  | t, finding :: rest =>
      if finding = "" then
        tallyFindings t rest
      else
        let f := readFields finding
        match Severity.ofWord f.severity with
        | none => tallyFindings t rest
        | some s => do
            let n ← postIncrement (t.count s)
            tallyFindings
              { count := Function.update t.count s n
                details := Function.update t.details s
                  (t.details s ++ [f.file ++ ":" ++ f.line ++ " (" ++ f.count ++ "x)"]) } rest

def storeDetails (t : Tally) (s : Severity) : HookScript Unit :=
  if 0 < (t.details s).length then tempWrite s (t.details s) else return ()

def aggregateFindings (allFindings : List String) : HookScript Unit := do
  -- `"${all_findings[@]:-}"` is one empty word when there are none
  let t ← tallyFindings .zero (if allFindings.isEmpty then [""] else allFindings)
  print ("CRITICAL=" ++ toString (t.count .critical))
  print ("HIGH=" ++ toString (t.count .high))
  print ("MEDIUM=" ++ toString (t.count .medium))
  storeDetails t .critical
  storeDetails t .high
  storeDetails t .medium

/-- `[[ -f "$f" ]] && count=$(wc -l < "$f" | tr -d ' ')`, with the count 0 before. -/
def detailCount (s : Severity) : HookScript Nat := do
  if ← tempTest s then
    return (← tempRead s).length
  else
    return 0

def severityJson (s : Severity) : HookScript (List ReportFinding) := do
  if ← tempTest s then
    let details ← tempRead s
    return details.map (fun detail =>
      let a := cut ':' detail.toList
      { severity := s, file := String.ofList a.1, line := String.ofList (cut ':' a.2).1 })
  else
    return []

def generateFindingsJson : HookScript (List ReportFinding) := do
  let critical ← severityJson .critical
  let high ← severityJson .high
  let medium ← severityJson .medium
  return critical ++ high ++ medium

namespace Hook

variable (h : Hook)

def generateJson : HookScript Unit := do
  let critical ← detailCount .critical
  let high ← detailCount .high
  let medium ← detailCount .medium
  let findings ← generateFindingsJson
  saveReport
    { timestamp := h.timestamp
      commit := h.headCommit
      blocked := if 0 < critical + high then 1 else 0
      summary := fun
        | .critical => critical
        | .high => high
        | .medium => medium
      findings := findings }
  logInfo "JSON report saved to .audit-precommit.json"

end Hook

def cleanup : HookScript Unit := .act .tempRemove .done

def finish (critical high medium : Nat) : HookScript Nat := do
  print ""
  if 0 < critical ∨ 0 < high then do
    logBlock "COMMIT BLOCKED"
    print ""
    print ("Found " ++ toString critical ++ " CRITICAL and " ++ toString high ++
      " HIGH findings.")
    print "Review and fix, or use git commit --no-verify to skip."
    print ""
    cleanup
    .exit exitBlocked
  else if 0 < medium then do
    logWarn ("COMMIT ALLOWED with " ++ toString medium ++ " MEDIUM warnings")
    print ""
    print "Review warnings above, or use git commit --no-verify to skip."
    print ""
    cleanup
    .exit exitPass
  else do
    logPass "No security findings — commit allowed"
    print ""
    cleanup
    .exit exitPass

namespace Hook

variable (h : Hook)

/-- `run_audit` from its `aggregate_findings` on. -/
def judge (allFindings : List String) : HookScript Nat := do
  print ""
  -- `"${all_findings[@]}"` under `set -u`
  if allFindings.isEmpty && !h.emptyArrayBound then .exit 1 else do
    aggregateFindings allFindings
    let critical ← detailCount .critical
    let high ← detailCount .high
    let medium ← detailCount .medium
    generateJson h
    finish critical high medium

def runAudit : HookScript Nat := do
  checkGit h
  if "--no-verify" ∈ h.args then do
    logInfo "Skipping audit (--no-verify)"
    .exit exitPass
  else if getStagedFiles h = [] then do
    logPass "No Rust files staged — passing"
    .exit exitPass
  else do
    logInfo "Scanning staged Rust files..."
    print ""
    let allFindings ← scanStaged h (getStagedFiles h)
    judge h allFindings

/-- `run_audit` as `main` runs it: with the temporary files `stale` around, and the
`trap cleanup EXIT` at the end. -/
def outcome (stale : Severity → Option (List String)) : Ending Nat × HookState :=
  let r := (runAudit h).run HookState.answer { printed := [], temp := stale, report := none }
  (r.1, (cleanup.run HookState.answer r.2).2)

def findings : List Finding := (getStagedFiles h).flatMap h.scanFile

end Hook

end SolanaAuditor.Hooks
