/- SolanaAuditor/Cvss/Recompute
   digest: recompute_cvss of triage-findings.py and check_cvss_math of severity_counts.py. -/

import SolanaAuditor.Cvss.Agreement
import SolanaAuditor.Python

set_option autoImplicit false
set_option relaxedAutoImplicit false

namespace SolanaAuditor.Cvss

open SolanaAuditor.Lib

namespace Triage

def cvssRecomputeTolerance : ℚ := 1 / 10

/-- `_recompute_one`: the score of the helper module if it gives one, else this script's. -/
def recomputeOne (vector : String) (helper : Option (String → Option ℚ)) : Option ℚ :=
  match helper.bind (fun computeCvssScore => computeCvssScore vector) with
  | some score => some score
  | none => scoreOf vector

/-- What one turn of the loop of `recompute_cvss` does: the finding after it, and whether
`mismatches` and `recomputed` are counted up. -/
def recomputeFinding (helper : Option (String → Option ℚ)) (finding : PyDict) :
    Py (PyDict × Bool × Bool) :=
  match finding.get "cvss_vector" with
  | .str vector =>
      match recomputeOne vector helper with
      | none => return (finding, false, false)
      | some score =>
          let stored := finding.get "cvss"
          if !isNumber stored then
            return (Dict.set finding "cvss" (.float (.finite score)), false, true)
          else do
            if farFrom (← toFloat stored) score cvssRecomputeTolerance then
              return (Dict.set finding "cvss" (.float (.finite score)), true, true)
            else
              return (finding, false, true)
  | _ => return (finding, false, false)

def recomputeLoop (helper : Option (String → Option ℚ)) :
    List PyDict → Nat → Nat → Py (List PyDict × Nat × Nat)
  | [], mismatches, recomputed => return ([], mismatches, recomputed)
  | finding :: findings, mismatches, recomputed => do
      let (finding', isMismatch, isRecomputed) ← recomputeFinding helper finding
      let (findings', m, r) ← recomputeLoop helper findings
        (if isMismatch then mismatches + 1 else mismatches)
        (if isRecomputed then recomputed + 1 else recomputed)
      return (finding' :: findings', m, r)

/-- `recompute_cvss`: the findings after it, and what it returns. -/
def recomputeCvss (helper : Option (String → Option ℚ)) (findings : List PyDict) :
    Py (List PyDict × Nat × Nat) := recomputeLoop helper findings 0 0

end Triage

namespace SeverityCounts

inductive CvssDiff
  | vectorUnparseable (fid claimed : Json) (vec : String)
  | score (fid claimed : Json) (computed : ℚ)

def checkFinding (finding : PyDict) : Py (List CvssDiff) := do
  let fid := finding.get "id"
  let claimed := finding.get "cvss"
  let vec := (Dict.get? finding "cvss_vector").getD (.str "")
  if !truthy vec then
    return []
  match claimed with
  | .null => return []
  | _ =>
      match vec with
      | .str vector =>
          match computeCvssScore vector with
          | none => return [.vectorUnparseable fid claimed vector]
          | some computed =>
              if farFrom (← toFloat claimed) computed cvssScoreTolerance then
                return [.score fid claimed computed]
              else
                return []
      | _ => .error .attributeError

def checkLoop : List PyDict → Py (List CvssDiff)
  | [] => return []
  | finding :: findings => do
      let diffs ← checkFinding finding
      return diffs ++ (← checkLoop findings)

/-- `check_cvss_math` over the list `findings` of the document. -/
def checkCvssMath (findings : List PyDict) : Py Nat := do
  let diffs ← checkLoop findings
  return if diffs.isEmpty then 0 else 1

end SeverityCounts

end SolanaAuditor.Cvss
