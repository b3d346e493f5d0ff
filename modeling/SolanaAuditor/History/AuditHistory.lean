/- SolanaAuditor/History/AuditHistory
   digest: scripts/audit-history.sh: init, add and get, with their lock. -/

import SolanaAuditor.History.Files
import SolanaAuditor.History.Jq

set_option autoImplicit false
set_option relaxedAutoImplicit false

namespace SolanaAuditor.History

open SolanaAuditor.Lib.Shell

def errNoJq : Nat := 1
def errNoHistory : Nat := 2
def errVersionNotFound : Nat := 4
def errInvalidArgs : Nat := 5
def errLockTimeout : Nat := 6
def errJsonOp : Nat := 7

/-- The builtin `echo "$s"`: a lone option such as `-n` or `-e` prints no text. -/
def echoArg (s : String) : String :=
  match s.toList with
  | '-' :: c :: cs =>
      if (c :: cs).all (fun c => c == 'n' || c == 'e' || c == 'E') then
        if (c :: cs).contains 'n' then "" else "\n"
      else s ++ "\n"
  | _ => s ++ "\n"

/-- One invocation: its arguments, and what the environment supplies to it. -/
structure AddCall where
  programId : String
  version : String
  findingsJson : String
  /-- `AUDIT_LOCK_TIMEOUT`, in seconds -/
  lockTimeout : Nat
  /-- `JQ_BIN` is not empty -/
  jqBin : Bool
  auditor : String
  commit : String
  timestamp : String

/-- `while [[ -f "$lock_file" ]]`, with `timeout - elapsed` seconds left, and after it
the `printf … > "$lock_file"`. The caller tests the status, so `set -e` is off here. -/
def acquireLock : Nat → FileScript Nat
  | 0 => do
      if ← test .lock then
        return errLockTimeout
      else if ← echo .lock [] then
        return 0
      else
        return 1
  | left + 1 => do
      if ← test .lock then
        acquireLock left
      else if ← echo .lock [] then
        return 0
      else
        return 1

/-- `[[ -f "$lock_file" ]] && rm -f "$lock_file"` -/
def releaseLock : FileScript Nat := do
  if ← test .lock then
    rm .lock
    return 0
  else
    return 1

/-- `{ rm -f "$tmp_file"; return $ERR_JSON_OP; }` -/
def dropTemp (tmp : Nat) (status : Nat) : FileScript Nat := do
  rm (.temp tmp)
  return status

/-- `jq … > "$tmp_file" || { rm -f "$tmp_file"; return $ERR_JSON_OP; }`, then the `mv`. -/
def replaceHistory (tmp : Nat) (output : JqOutput) : FileScript Nat := do
  if output.2 then
    if ← write (.temp tmp) output.1 then
      -- the status of `mv` is dropped: the caller tests this function with `if !`
      let _ ← mv (.temp tmp) .history
      return 0
    else
      dropTemp tmp errJsonOp
  else
    dropTemp tmp errJsonOp

/-- The branch of `_jq_append_audit` for an existing history. -/
def appendToHistory (programId version : String) (audit : Json) (tmp : Nat) :
    FileScript Nat := do
  let programExists := jqOr (fun doc => jqSingle (jqProgramExists programId doc))
    (← read .history) [.bool false]
  match programExists with
  | [.bool true] => do
      let versionExists := jqOr (jqVersionExists programId version) (← read .history) []
      if nonEmptyCapture versionExists then
        dropTemp tmp 0
      else do
        let doc ← read .history
        replaceHistory tmp (match doc with
          | none => ([], false)
          | some docs => jqRun (fun d => jqSingle (jqAppendAudit programId audit d)) docs)
  | _ => do
      let doc ← read .history
      replaceHistory tmp (match doc with
        | none => ([], false)
        | some docs => jqRun (fun d => jqSingle (jqAddProgram programId audit d)) docs)

/-- `_jq_append_audit`; `version` is the audit's own `.version`. -/
def jqAppendAuditFile (programId version : String) (audit : Json) : FileScript Nat := do
  match ← mktemp with
  | none => return 1
  | some tmp =>
      if ← test .history then
        appendToHistory programId version audit tmp
      else
        replaceHistory tmp ([newHistory programId audit], true)

/-- `echo '{"programs":{}}'` -/
def emptyHistory : Json := .obj [("programs", .obj [])]

/-- `audit_history_init`; the directory of the file is taken to exist. -/
def auditHistoryInit : FileScript Nat := do
  if ← test .history then
    return 0
  else if ← echo .history [emptyHistory] then
    return 0
  else
    return 1

/-- The object built by the `jq -n` of `audit_history_add`. -/
def auditRecord (c : AddCall) (critical high medium low findingIds : Json) : Json :=
  .obj [("version", .str c.version), ("timestamp", .str c.timestamp),
    ("auditor", .str c.auditor), ("commit", .str c.commit),
    ("findings", .obj [("critical", critical), ("high", high), ("medium", medium),
      ("low", low)]),
    ("finding_ids", findingIds)]

/-- `audit_entry`, from the documents in `findings_json`; `none` when a `--argjson`
does not get exactly one document. -/
def auditEntry (c : AddCall) (docs : List Json) : Option Json := do
  let critical ← argjson (jqDefault "critical" (.int 0) docs)
  let high ← argjson (jqDefault "high" (.int 0) docs)
  let medium ← argjson (jqDefault "medium" (.int 0) docs)
  let low ← argjson (jqDefault "low" (.int 0) docs)
  let findingIds ← argjson (jqDefault "finding_ids" (.arr []) docs)
  return auditRecord c critical high medium low findingIds

/-- The commands of `audit_history_add` between `_acquire_lock` and its return. -/
def addLocked (parse : String → Option (List Json)) (c : AddCall) : FileScript Nat := do
  match parse (echoArg c.findingsJson) with
  | none => do
      errexit (← releaseLock)
      return errJsonOp
  | some docs =>
      match auditEntry c docs with
      | none => .exit 2  -- `audit_entry=$(jq …)` fails under `set -e`
      | some entry => do
          let status ← jqAppendAuditFile c.programId c.version entry
          errexit (← releaseLock)
          return if status = 0 then 0 else errJsonOp

/-- `audit_history_add`; `parse` is jq's parser, `none` on text that is not JSON. -/
def auditHistoryAdd (parse : String → Option (List Json)) (c : AddCall) : FileScript Nat := do
  if c.programId = "" then
    return errInvalidArgs
  else if c.version = "" then
    return errInvalidArgs
  else if c.findingsJson = "" then
    return errInvalidArgs
  else if !c.jqBin then
    return errNoJq
  else do
    if !(← test .history) then
      errexit (← auditHistoryInit)
    let acquired ← acquireLock c.lockTimeout
    if acquired = 0 then
      addLocked parse c
    else
      return errLockTimeout

/-- What `audit_history_get` prints: `_jq_get_audit_by_version`, unless its text is
empty or `null`. -/
def auditHistoryGet (programId version : String) (jqBin : Bool) :
    FileScript (Nat × List Json) := do
  if programId = "" then
    return (errInvalidArgs, [])
  else if version = "" then
    return (errInvalidArgs, [])
  else if !jqBin then
    return (errNoJq, [])
  else if ← test .history then
    let audit := jqOr (jqAuditsOfVersion programId version) (← read .history) [.null]
    match audit with
    | [] => return (errVersionNotFound, [])
    | [.null] => return (errVersionNotFound, [])
    | found => return (0, found)
  else
    return (errNoHistory, [])

end SolanaAuditor.History
