/- SolanaAuditor/Runners/FormalVerification
   digest: run-formal-verification.py: its three tools, their results and the exit code. -/

import SolanaAuditor.Lib.Decimal

set_option autoImplicit false
set_option relaxedAutoImplicit false

namespace SolanaAuditor.Runners.FormalVerification

open SolanaAuditor.Lib

def exitSuccess : Int := 0
def exitFailure : Int := 1
def exitSkip : Int := 2
def exitBadInput : Int := 3

inductive Status
  | complete | incomplete | skipped | error
  deriving DecidableEq

/-- The text of a status in the report. -/
def Status.text : Status → String
  | .complete => "complete"
  | .incomplete => "partial"
  | .skipped => "skipped"
  | .error => "error"

structure VerificationResult where
  tool : String
  version : String
  status : Status
  startedAt : String
  durationSeconds : ℚ
  programsChecked : Nat
  exitCode : Int
  command : List String
  stdoutTail : String
  stderrTail : String
  notes : List String

/-- How `subprocess.run` ends; `osError` stands for the exceptions that nothing catches. -/
inductive Ending
  | completed (returncode : Int) (stdout stderr : String)
  | timeoutExpired
  | fileNotFound (message : String)
  | osError

/-- A subprocess as the run finds it: how it ends, and after how many seconds. -/
structure Subprocess where
  ending : Ending
  elapsed : ℚ

structure Args where
  noBuild : Bool
  timeout : Int
  force : Bool

/-- What a run of `main` finds around it. -/
structure Surroundings where
  repoRoot : String
  repoIsDir : Bool
  outputExists : Bool
  outputWritable : Bool
  qedScriptExists : Bool
  programsIsDir : Bool
  cargoTomls : Nat
  which : String → Option String
  versionLine : String → Option String
  scriptRun : Subprocess
  cliRun : Subprocess
  anchorRun : Subprocess
  now : String

/-- `_truncate` with its default limit. -/
def truncate (text : String) : String :=
  if text.length ≤ 4000 then text
  else String.ofList (text.toList.drop (text.length - 4000)) ++ "\n... [truncated]"

/-- `_run_subprocess`; `none` is an exception. -/
def runSubprocess (timeout : Int) (p : Subprocess) : Option (Int × String × String × ℚ) :=
  match p.ending with
  | .completed returncode stdout stderr => some (returncode, stdout, stderr, p.elapsed)
  | .timeoutExpired => some (124, "", "timeout after " ++ toString timeout ++ "s", p.elapsed)
  | .fileNotFound message => some (127, "", "command not found: " ++ message, p.elapsed)
  | .osError => none

section Tools

variable (args : Args) (env : Surroundings)

/-- The binary under one of the names, and what it prints as its version. -/
def detect (candidates : List String) : Option (String × String) :=
  (candidates.findSome? env.which).map fun bin => (bin, (env.versionLine bin).getD "unknown")

def detectQed : Option (String × String) := detect env ["qedgen", "qed-solana"]

def detectAnchor : Option (String × String) := detect env ["anchor"]

def countPrograms : Nat := if env.programsIsDir then env.cargoTomls else 0

def qedStatus (rc : Int) : Status :=
  if rc = 0 then .complete else if rc = 2 then .skipped else .error

/-- The result of a command that was run. -/
def resultOf (tool version : String) (statusOf : Int → Status) (command notes : List String)
    (p : Subprocess) : Option VerificationResult :=
  (runSubprocess args.timeout p).map fun out => {
    tool
    version
    status := statusOf out.1
    startedAt := env.now
    durationSeconds := Decimal.roundHundredth out.2.2.2
    programsChecked := countPrograms env
    exitCode := out.1
    command
    stdoutTail := truncate out.2.1
    stderrTail := truncate out.2.2.1
    notes }

def runViaQedScript : Option VerificationResult :=
  resultOf args env "qed-solana (via qed-integration.sh)" "unknown" qedStatus
    ["bash", env.repoRoot ++ "/scripts/qed-integration.sh"]
    ["Delegated to scripts/qed-integration.sh"] env.scriptRun

def runViaQedCli (qedBin qedVersion : String) : Option VerificationResult :=
  resultOf args env "qed-solana" qedVersion qedStatus
    [qedBin, "verify", "--output", "json", "--programs-dir", "programs"] [] env.cliRun

/-- A result without a command. -/
def skipResult (tool version : String) (programsChecked : Nat) (notes : List String) :
    VerificationResult where
  tool
  version
  status := .skipped
  startedAt := env.now
  durationSeconds := 0
  programsChecked
  exitCode := exitSkip
  command := []
  stdoutTail := ""
  stderrTail := ""
  notes

/-- A failing test command is `partial` here, where the other tools make it an error. -/
def anchorStatus (rc : Int) : Status := if rc = 0 then .complete else .incomplete

def runViaAnchorTests (anchorBin anchorVersion : String) : Option VerificationResult :=
  if !env.programsIsDir then
    some (skipResult env "anchor test (fallback)" anchorVersion 0
      ["No programs/ directory found; nothing to verify"])
  else
    resultOf args env "anchor test (fallback)" anchorVersion anchorStatus
      ([anchorBin, "test", "--skip-lint"] ++ if args.noBuild then ["--skip-build"] else [])
      ["qed-solana CLI not available; used anchor test as runtime-only fallback"] env.anchorRun

end Tools

/-- How `main` ends: refused with `EXIT_BAD_INPUT`, by an exception, or with an exit code and
the report it has written. `ran` has the results of the commands that were run, in order. -/
inductive Outcome
  | refused
  | raised
  | finished (code : Int) (report : VerificationResult) (ran : List VerificationResult)

/-- The exit code that `_finalize` makes of a result. -/
def exitCodeOf (result : VerificationResult) : Int :=
  match result.status with
  | .skipped => if result.exitCode = exitSkip then exitSkip else exitSuccess
  | .error => exitFailure
  | .complete | .incomplete => exitSuccess

section Main

variable (args : Args) (env : Surroundings)

def finalize (result : VerificationResult) (ran : List VerificationResult) : Outcome :=
  if env.outputWritable then .finished (exitCodeOf result) result ran else .raised

/-- The commands behind a result: itself, unless it has none. -/
def commandsOf (result : VerificationResult) : List VerificationResult :=
  if result.command.isEmpty then [] else [result]

def noToolchain (ran : List VerificationResult) : Outcome :=
  finalize env (skipResult env "(none)" "(none)" (countPrograms env)
    ["Neither qed-solana nor anchor CLI available"]) ran

def viaAnchor (ran : List VerificationResult) : Outcome :=
  match detectAnchor env with
  | none => noToolchain env ran
  | some (anchorBin, anchorVersion) =>
      match runViaAnchorTests args env anchorBin anchorVersion with
      | none => .raised
      | some result => finalize env result (ran ++ commandsOf result)

def viaQedCli (ran : List VerificationResult) : Outcome :=
  match detectQed env with
  | none => viaAnchor args env ran
  | some (qedBin, qedVersion) =>
      match runViaQedCli args env qedBin qedVersion with
      | none => .raised
      | some result =>
          if result.status ≠ .error then finalize env result (ran ++ commandsOf result)
          else viaAnchor args env (ran ++ commandsOf result)

def viaQedScript : Outcome :=
  if !env.qedScriptExists then viaQedCli args env []
  else
    match runViaQedScript args env with
    | none => .raised
    | some result =>
        if result.status ≠ .error then finalize env result (commandsOf result)
        else viaQedCli args env (commandsOf result)

def main : Outcome :=
  if !env.repoIsDir then .refused
  else if env.outputExists && !args.force then .refused
  else viaQedScript args env

end Main

end SolanaAuditor.Runners.FormalVerification
