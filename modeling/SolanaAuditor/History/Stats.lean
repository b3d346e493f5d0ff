/- SolanaAuditor/History/Stats
   digest: scripts/audit-history.sh: the totals and the latest audit of audit_history_stats. -/

import SolanaAuditor.History.AuditHistory
import SolanaAuditor.Lib.StableSort
import SolanaAuditor.Numbers

set_option autoImplicit false
set_option relaxedAutoImplicit false

namespace SolanaAuditor.History

open SolanaAuditor.Lib SolanaAuditor.Lib.Shell

/-- The double nearest to a natural number, the even one of two. -/
def roundDouble (n : Nat) : Nat :=
  if n ≤ 2 ^ 53 then n
  else
    let unit := 2 ^ (n.log2 - 52)
    let low := n / unit
    let rest := n % unit
    if 2 * rest < unit then low * unit
    else if unit < 2 * rest then (low + 1) * unit
    else (low + low % 2) * unit

/-- jq's numbers are doubles. -/
def jqRound (n : Int) : Int := if n < 0 then -roundDouble n.natAbs else roundDouble n.natAbs

/-- `a + b` of any operands; sums with a fraction are exact. -/
def jqPlus : Json → Json → JqResult Json
  | .null, b => .ok b
  | a, .null => .ok a
  | .int m, .int n => .ok (.int (jqRound (m + n)))
  | .int m, .float x => .ok (.float ((FloatValue.finite m).add x))
  | .float x, .int n => .ok (.float (x.add (.finite n)))
  | .float x, .float y => .ok (.float (x.add y))
  | .str s, .str t => .ok (.str (s ++ t))
  | a, b => jqAdd a b

/-- `add` -/
def jqAddAll : Json → List Json → JqResult Json
  | total, [] => .ok total
  | total, x :: xs => do jqAddAll (← jqPlus total x) xs

/-- `. > 0`: a text, an array or an object comes after every number. -/
def jqPositive : Json → Bool
  | .null | .bool _ => false
  | .int n => decide (0 < n)
  | .float (.finite q) => decide (0 < q)
  | .float .posInf => true
  | .float .negInf | .float .nan => false
  | .str _ | .arr _ | .obj _ => true

/-- A value that is neither `null` nor `false`. -/
def jqPresent : Json → Bool
  | .null | .bool false => false
  | .bool true | .int _ | .float _ | .str _ | .arr _ | .obj _ => true

/-- `a // b` of a filter with several outputs. -/
def jqAlternatives (a : JqOutput) (b : Json) : List Json :=
  match a.1.filter jqPresent with
  | [] => [b]
  | outputs => outputs

/-- `length` -/
def jqLength : Json → JqResult Json
  | .null => .ok (.int 0)
  | .bool _ => .error ()
  | .int n => .ok (.int n.natAbs)
  | .float x => .ok (.float x)
  | .str s => .ok (.int s.length)
  | .arr items => .ok (.int items.length)
  | .obj entries => .ok (.int entries.length)

/-- `.[-1]` -/
def jqLast : Json → JqResult Json
  | .arr items => .ok (items.getLast?.getD .null)
  | .null => .ok .null
  | _ => .error ()

/-- `to_entries`, as pairs of `.key` and `.value`. -/
def jqToEntries : Json → JqResult (List (Json × Json))
  | .obj entries => .ok (entries.map fun e => (.str e.1, e.2))
  | .arr items => .ok (items.zipIdx.map fun e => (.int e.2, e.1))
  | _ => .error ()

/-- The rank of a value among the kinds of values. -/
def jqKind : Json → Nat
  | .null => 0
  | .bool false => 1
  | .bool true => 2
  | .int _ | .float _ => 3
  | .str _ => 4
  | .arr _ => 5
  | .obj _ => 6

/-- The order of jq, but that of two arrays or two objects: no key of this script is one. -/
def jqLess : Json → Json → Bool
  | .int m, .int n => decide (m < n)
  | .int m, .float y => (FloatValue.finite m).lt y
  | .float x, .int n => x.lt (.finite n)
  | .float x, .float y => x.lt y
  | .str s, .str t => textLess s t
  | a, b => decide (jqKind a < jqKind b)

/-- `.programs[].audits[]` -/
def jqAllAudits (doc : Json) : JqOutput :=
  match (do jqIterate (← jqIndex "programs" doc)) with
  | .error _ => ([], false)
  | .ok programs => jqEach (fun p => do jqIterate (← jqIndex "audits" p)) programs

/-- `.programs[].audits[].findings.k` -/
def jqAllCounts (k : String) (doc : Json) : JqOutput :=
  let audits := jqAllAudits doc
  let counts := jqEach (fun a => do return [← jqIndex k (← jqIndex "findings" a)]) audits.1
  (counts.1, counts.2 && audits.2)

/-- `.programs | length` -/
def jqProgramCount (doc : Json) : JqOutput := jqSingle (do jqLength (← jqIndex "programs" doc))

/-- `[.programs[].audits[]] | length` -/
def jqAuditCount (doc : Json) : JqOutput :=
  let audits := jqAllAudits doc
  if audits.2 then ([.int audits.1.length], true) else ([], false)

/-- `[.programs[].audits[].findings.k // 0 | select(. > 0)] | add // 0` -/
def jqTotal (k : String) (doc : Json) : JqOutput :=
  let counts := jqAlternatives (jqAllCounts k doc) (.int 0)
  ([jqAlternative (jqAddAll .null (counts.filter jqPositive)) (.int 0)], true)

/-- `.value.audits[-1].k` -/
def jqLastAudit (k : String) (value : Json) : JqResult Json := do
  jqIndex k (← jqLast (← jqIndex "audits" value))

/-- The entries with their keys of `sort_by(.value.audits[-1].timestamp)`. -/
def jqTimestamps : List (Json × Json) → JqResult (List (Json × Json × Json))
  | [] => return []
  | e :: entries => do
      let timestamp ← jqLastAudit "timestamp" e.2
      return (timestamp, e) :: (← jqTimestamps entries)

/-- `.programs | to_entries | sort_by(.value.audits[-1].timestamp) | last` -/
def jqLatestEntry (doc : Json) : JqResult (Option (Json × Json)) := do
  let entries ← jqToEntries (← jqIndex "programs" doc)
  let keyed ← jqTimestamps entries
  return (StableSort.sort (fun a b => jqLess a.1 b.1) keyed).getLast?.map Prod.snd

/-- The same with `.key`. -/
def jqLatestProgram (doc : Json) : JqOutput :=
  jqSingle (do return ((← jqLatestEntry doc).map Prod.fst).getD .null)

/-- The same with `.value.audits[-1].k`. -/
def jqLatestField (k : String) (doc : Json) : JqOutput :=
  jqSingle (do
    match ← jqLatestEntry doc with
    | none => return .null
    | some e => jqLastAudit k e.2)

/-- One program of the last part of the report: its audits, and the last one. -/
structure ProgramLine where
  key : Json
  audits : Json
  version : Json
  timestamp : Json

/-- `.programs | to_entries[] | "…"`: what its lines are made of. -/
def jqProgramLines : List (Json × Json) → List ProgramLine
  | [] => []
  | e :: entries =>
      match (do
        return ProgramLine.mk e.1 (← jqLength (← jqIndex "audits" e.2))
          (← jqLastAudit "version" e.2) (← jqLastAudit "timestamp" e.2) : JqResult ProgramLine) with
      | .error _ => []
      | .ok line => line :: jqProgramLines entries

def jqBreakdown (doc : Json) : List ProgramLine :=
  match (do jqToEntries (← jqIndex "programs" doc)) with
  | .error _ => []
  | .ok entries => jqProgramLines entries

/-- What the report says. -/
structure HistoryStats where
  totalPrograms : Int
  totalAudits : Int
  totalCritical : Int
  totalHigh : Int
  totalMedium : Int
  totalLow : Int
  total : Int
  latestProgram : List Json
  latestVersion : List Json
  latestDate : List Json
  programs : List ProgramLine

/-- `printf '%d' "$text"` under `set -e`: the text must be an integer or empty. -/
def printfInt : List Json → FileScript Int
  | [] => return 0
  | [.int n] => return n
  | _ => .exit 1

/-- `$((…))`: integers of 64 bits. -/
def bashInt (n : Int) : Int := Int.bmod n (2 ^ 64)

/-- The lines of the programs, `if (( total_programs > 0 ))`. -/
def programLines (totalPrograms : Int) : FileScript (List ProgramLine) := do
  if 0 < totalPrograms then
    return ((← read .history).getD []).flatMap jqBreakdown
  else
    return []

/-- `audit_history_stats` -/
def auditHistoryStats (jqBin : Bool) : FileScript (Nat × Option HistoryStats) := do
  if !jqBin then
    return (errNoJq, none)
  else if ← test .history then
    let totalPrograms := jqOr jqProgramCount (← read .history) [.int 0]
    let totalAudits := jqOr jqAuditCount (← read .history) [.int 0]
    let totalCritical := jqOr (jqTotal "critical") (← read .history) [.int 0]
    let totalHigh := jqOr (jqTotal "high") (← read .history) [.int 0]
    let totalMedium := jqOr (jqTotal "medium") (← read .history) [.int 0]
    let totalLow := jqOr (jqTotal "low") (← read .history) [.int 0]
    let latestProgram := jqOr jqLatestProgram (← read .history) []
    let latestVersion := jqOr (jqLatestField "version") (← read .history) []
    let latestDate := jqOr (jqLatestField "timestamp") (← read .history) []
    let programs ← printfInt totalPrograms
    let audits ← printfInt totalAudits
    let critical ← printfInt totalCritical
    let high ← printfInt totalHigh
    let medium ← printfInt totalMedium
    let low ← printfInt totalLow
    let breakdown ← programLines programs
    return (0, some
      { totalPrograms := programs, totalAudits := audits, totalCritical := critical
        totalHigh := high, totalMedium := medium, totalLow := low
        total := bashInt (critical + high + medium + low)
        latestProgram, latestVersion, latestDate, programs := breakdown })
  else
    return (errNoHistory, none)

end SolanaAuditor.History
