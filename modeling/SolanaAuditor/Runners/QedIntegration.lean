/- SolanaAuditor/Runners/QedIntegration
   digest: scripts/qed-integration.sh: the report of the specs and the anchor tests. -/

import SolanaAuditor.Bash
import SolanaAuditor.History.Stats

set_option autoImplicit false
set_option relaxedAutoImplicit false

namespace SolanaAuditor.Runners.QedIntegration

open SolanaAuditor.History (argjson echoArg jqLength jqOr)

/-- A `.qedspec` file, with whether Python reads it as JSON and as YAML. -/
structure Spec where
  name : String
  isJson : Bool
  isYaml : Bool

/-- A directory with a `Cargo.toml`, and what `anchor test` prints in its turn. -/
structure Program where
  name : String
  output : List Char

structure Surroundings where
  now : String
  jqFound : Bool
  anchorFound : Bool
  specs : List Spec
  programsDir : Bool
  /-- The lines that `find -name Cargo.toml -maxdepth 2` prints. -/
  cargoTomls : Nat
  programs : List Program

/-- The documents in the report and in its temporary file. -/
structure Files where
  report : Option (List Json)
  tmp : Option (List Json)

/-- `tool_status=$(detect_toolchain)` assigns `TOOL_NAME` and `TOOL_VERSION` in a subshell, so
that both stay empty. -/
def toolName : String := ""
def toolVersion : String := ""

/-- `${text:-unknown}` -/
def orUnknown (text : String) : String := if text = "" then "unknown" else text

section Run

variable (env : Surroundings)

def hasPrograms : Bool := env.programsDir && decide (0 < env.cargoTomls)

def hasSpecs : Bool := !env.specs.isEmpty

def skippedReport (reason : String) : Json :=
  .obj [("timestamp", .str env.now), ("status", .str "skipped"), ("reason", .str reason),
    ("detail", .null)]

/-- `init_report` -/
def initReport (programCount : Nat) : Json :=
  .obj [("timestamp", .str env.now), ("tool", .str (orUnknown toolName)),
    ("version", .str (orUnknown toolVersion)), ("programs_verified", .int programCount),
    ("status", .str "running"), ("invariants", .arr []), ("findings", .arr []),
    ("specs_validated", .arr []), ("tests", .arr []), ("errors", .arr [])]

/-- `jq … "$REPORT_FILE" > "${REPORT_FILE}.tmp" && mv "${REPORT_FILE}.tmp" "$REPORT_FILE"`; there
is no filter when jq refuses its arguments. A failure is the left side of `&&`, so that the script
goes on with the report as it was. -/
def rewrite (filter : Option (Json → JqResult Json)) (s : Files) : Files :=
  match filter, s.report with
  | some f, some docs =>
      let out := jqRun (fun doc => jqSingle (f doc)) docs
      if !env.jqFound then { s with tmp := some [] }
      else if out.2 then { report := some out.1, tmp := none }
      else { s with tmp := some out.1 }
  | _, _ => { s with tmp := some [] }

/-- `.k += [v]` -/
def appended (k : String) (v doc : Json) : JqResult Json := do
  jqSet k (← jqAdd (← jqIndex k doc) (.arr [v])) doc

def specFormat (spec : Spec) : String :=
  if spec.isJson then "json" else if spec.isYaml then "yaml" else "text"

def specRecord (spec : Spec) : Json :=
  .obj [("file", .str spec.name), ("format", .str (specFormat spec)), ("valid", .bool true)]

/-- `validate_specs` -/
def validateSpecs (s : Files) : Files :=
  env.specs.foldl
    (fun s spec => rewrite env (some (appended "specs_validated" (specRecord spec))) s) s

/-- What `echo "$output"` prints of the captured output. -/
def echoed (output : List Char) : List Char := (echoArg (String.ofList (captured output))).toList

def testRecord (name : String) (passed failed : Json) (output : List Char) : Json :=
  .obj [("program", .str name), ("passed", passed), ("failed", failed),
    ("output", .str (String.ofList (captured output)))]

/-- One turn of the loop of `run_anchor_tests`. -/
def testProgram (s : Files) (p : Program) : Files :=
  rewrite env (do
    let passed ← argjson (grepCount "PASS" (echoed p.output))
    let failed ← argjson (grepCount "FAIL" (echoed p.output))
    return appended "tests" (testRecord p.name passed failed p.output)) s

/-- `run_anchor_tests` -/
def runAnchorTests (s : Files) : Files :=
  if env.anchorFound then env.programs.foldl (testProgram env) s else s

/-- `jq '.k | length' "$REPORT_FILE" || echo "0"` -/
def countOf (k : String) (s : Files) : List Json :=
  if env.jqFound then
    jqOr (fun doc => jqSingle (do jqLength (← jqIndex k doc))) s.report [.int 0]
  else [.int 0]

/-- `[ "$text" -gt 0 ]`: an error is as good as false. -/
def greaterThanZero : List Json → Bool
  | [.int n] => decide (0 < n)
  | _ => false

def finalStatus (s : Files) : String :=
  if greaterThanZero (countOf env "errors" s) then "partial" else "complete"

def finalized (totalSpecs totalTests : Json) (status : String) (doc : Json) : JqResult Json := do
  let doc ← jqSet "total_specs_validated" totalSpecs doc
  let doc ← jqSet "total_tests_run" totalTests doc
  jqSet "status" (.str status) doc

/-- The last part of `main`. -/
def finalizeReport (s : Files) : Files :=
  rewrite env (do
    let totalSpecs ← argjson (countOf env "specs_validated" s)
    let totalTests ← argjson (countOf env "tests" s)
    return finalized totalSpecs totalTests (finalStatus env s)) s

/-- `main`, from the files that are there: the exit code, and the files it leaves. -/
def main (s : Files) : Nat × Files :=
  if !hasPrograms env && !hasSpecs env then
    (2, { s with report := some [skippedReport env "nothing_to_verify"] })
  else
    let programCount := if hasPrograms env then env.cargoTomls else 0
    let s := { s with report := some [initReport env programCount] }
    let s := if hasSpecs env then validateSpecs env s else s
    (0, finalizeReport env (runAnchorTests env s))

end Run

end SolanaAuditor.Runners.QedIntegration
