/- SolanaAuditor/Cvss/SeverityCounts
   digest: tests/severity_counts.py: its CVSS 3.1 parser and base score, in exact arithmetic. -/

import SolanaAuditor.Lib.Decimal
import SolanaAuditor.Lib.Dict

set_option autoImplicit false
set_option relaxedAutoImplicit false

namespace SolanaAuditor.Cvss

open SolanaAuditor.Lib SolanaAuditor.Lib.Decimal

abbrev Table := List (String × ℚ)

/-! The entries of `_CVSS_VALUES` that both scripts have. -/

def avTable : Table := [("N", 85 / 100), ("A", 62 / 100), ("L", 55 / 100), ("P", 2 / 10)]
def acTable : Table := [("L", 77 / 100), ("H", 44 / 100)]
def uiTable : Table := [("N", 85 / 100), ("R", 62 / 100)]
def impactTable : Table := [("H", 56 / 100), ("L", 22 / 100), ("N", 0)]

def cvssPrefix : String := "CVSS:3.1/"

/-- `vec.startswith("CVSS:3.1/")` -/
def hasPrefix (vec : String) : Bool := cvssPrefix.toList.isPrefixOf vec.toList

/-- `vec[len("CVSS:3.1/"):].split("/")` -/
def parts (vec : String) : List (List Char) := (vec.toList.drop cvssPrefix.length).splitOn '/'

def impactSubScore (c i a : ℚ) : ℚ := 1 - (1 - c) * (1 - i) * (1 - a)

namespace SeverityCounts

/-- The loop of `parse_cvss_vector`; `none` is its `ValueError`. -/
def parseParts : List (String × String) → List (List Char) → Option (List (String × String))
  | out, [] => some out
  | out, part :: rest =>
      match part.splitOn ':' with
      | [k, v] => parseParts (Dict.set out (String.ofList k) (String.ofList v)) rest
      | _ => none

def parseCvssVector (vec : String) : Option (List (String × String)) :=
  if hasPrefix vec then parseParts [] (parts vec) else none

def cvssImpactMultiplier : ℚ := 642 / 100
def cvssExploitabilityCoefficient : ℚ := 822 / 100
def cvssScopeCImpactMultiplier : ℚ := 752 / 100
def cvssScopeCImpactConstant1 : ℚ := 29 / 1000
def cvssScopeCImpactConstant2 : ℚ := 2 / 100
def cvssScopeCImpactPower : Nat := 15
def cvssScopeCBonusMultiplier : ℚ := 108 / 100
def cvssMaxScore : ℚ := 10
def cvssScoreTolerance : ℚ := 5 / 100

def prTable (scope : String) : Table :=
  if scope = "U" then [("N", 85 / 100), ("L", 62 / 100), ("H", 5 / 10)]
  else [("N", 85 / 100), ("L", 68 / 100), ("H", 5 / 10)]

def impact (scope : String) (iss : ℚ) : ℚ :=
  if scope = "U" then cvssImpactMultiplier * iss
  else cvssScopeCImpactMultiplier * (iss - cvssScopeCImpactConstant1) -
    cvssScopeCImpactConstant2 * (iss - cvssScopeCImpactConstant2) ^ cvssScopeCImpactPower

/-- The formula of `compute_cvss_score`, from the values of the metrics. -/
def baseScore (scope : String) (av ac pr ui c i a : ℚ) : ℚ :=
  let impact := impact scope (impactSubScore c i a)
  let exploitability := cvssExploitabilityCoefficient * av * ac * pr * ui
  if impact ≤ 0 then 0
  else
    let base := if scope = "U" then min (impact + exploitability) cvssMaxScore
      else min (cvssScopeCBonusMultiplier * (impact + exploitability)) cvssMaxScore
    ceilTenth base

/-- `table[m[key]]`; `none` is a `KeyError`. -/
def lookup (table : Table) (m : List (String × String)) (key : String) : Option ℚ :=
  (Dict.get? m key).bind (Dict.get? table)

def computeCvssScore (vec : String) : Option ℚ := do
  let m ← parseCvssVector vec
  let av ← lookup avTable m "AV"
  let ac ← lookup acTable m "AC"
  let ui ← lookup uiTable m "UI"
  let scope := (Dict.get? m "S").getD "U"
  let pr ← lookup (prTable scope) m "PR"
  let c ← lookup impactTable m "C"
  let i ← lookup impactTable m "I"
  let a ← lookup impactTable m "A"
  return baseScore scope av ac pr ui c i a

end SeverityCounts

end SolanaAuditor.Cvss
