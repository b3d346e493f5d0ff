/- SolanaAuditor/History/Diff
   digest: scripts/audit-history.sh: the new and fixed findings of audit_history_diff. -/

import SolanaAuditor.Bash
import SolanaAuditor.History.Stats

set_option autoImplicit false
set_option relaxedAutoImplicit false

namespace SolanaAuditor.History

open SolanaAuditor.Lib SolanaAuditor.Lib.Shell

def errDiffSameVersion : Nat := 8

/-- `.finding_ids | sort | .[]` -/
def jqSortedIds (doc : Json) : JqOutput :=
  match jqIndex "finding_ids" doc with
  | .ok (.arr ids) => (StableSort.sort jqLess ids, true)
  | .ok _ | .error _ => ([], false)

/-- `.findings.k` -/
def jqCount (k : String) (doc : Json) : JqOutput :=
  jqSingle (do jqIndex k (← jqIndex "findings" doc))

/-- The findings of each severity that the report shows. -/
structure SeverityRow where
  critical : Int
  high : Int
  medium : Int

/-- What the report says. The findings stand in one line each, with a blank after each. -/
structure DiffReport where
  before : SeverityRow
  after : SeverityRow
  newFindings : List String
  fixedFindings : List String

/-- The documents that `_jq_get_audit_by_version` prints. -/
def auditByVersion (programId version : String) : FileScript (List Json) := do
  return jqOr (jqAuditsOfVersion programId version) (← read .history) [.null]

/-- `[[ "$audit" == "null" ]] || [[ -z "$audit" ]]` -/
def isMissing : List Json → Bool
  | [] => true
  | [.null] => true
  | _ => false

/-- The keys of `map["$id"]=1` for the words of the ids, in some order. -/
def idMap (render : Json → String) (glob : String → List String) (audit : List Json) :
    List String :=
  (shellWords glob (captured (rawText render (jqRun jqSortedIds audit).1))).dedup

def severityRow (audit : List Json) : FileScript SeverityRow := do
  let critical ← printfInt (jqRun (jqCount "critical") audit).1
  let high ← printfInt (jqRun (jqCount "high") audit).1
  let medium ← printfInt (jqRun (jqCount "medium") audit).1
  return { critical, high, medium }

/-- `audit_history_diff` -/
def auditHistoryDiff (render : Json → String) (glob : String → List String)
    (programId v1 v2 : String) (jqBin : Bool) : FileScript (Nat × Option DiffReport) := do
  if programId = "" ∨ v1 = "" ∨ v2 = "" then
    return (errInvalidArgs, none)
  else if v1 = v2 then
    return (errDiffSameVersion, none)
  else if !jqBin then
    return (errNoJq, none)
  else if ← test .history then
    let audit1 ← auditByVersion programId v1
    let audit2 ← auditByVersion programId v2
    if isMissing audit1 then
      return (errVersionNotFound, none)
    else if isMissing audit2 then
      return (errVersionNotFound, none)
    else
      let map1 := idMap render glob audit1
      let map2 := idMap render glob audit2
      let before ← severityRow audit1
      let after ← severityRow audit2
      return (0, some
        { before, after
          newFindings := map2.filter fun id => decide (id ∉ map1)
          fixedFindings := map1.filter fun id => decide (id ∉ map2) })
  else
    return (errNoHistory, none)

end SolanaAuditor.History
