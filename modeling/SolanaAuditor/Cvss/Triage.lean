/- SolanaAuditor/Cvss/Triage
   digest: scripts/triage-findings.py: its own CVSS 3.1 parser and base score. -/

import SolanaAuditor.Cvss.SeverityCounts

set_option autoImplicit false
set_option relaxedAutoImplicit false

namespace SolanaAuditor.Cvss.Triage

open SolanaAuditor.Lib SolanaAuditor.Lib.Decimal

/-- `CvssMetric`, with its defaults. -/
structure CvssMetric where
  AV : String := "N"
  AC : String := "L"
  UI : String := "N"
  S : String := "U"
  C : String := "N"
  I : String := "N"
  A : String := "N"
  PR : String := "N"

def prTable : Table := [("N", 85 / 100), ("L", 62 / 100), ("H", 27 / 100)]

def cvssValues : List (String × Table) :=
  [("AV", avTable), ("AC", acTable), ("UI", uiTable), ("PR", prTable), ("C", impactTable),
    ("I", impactTable), ("A", impactTable)]

def setattr (m : CvssMetric) (key val : String) : CvssMetric :=
  match key with
  | "AV" => { m with AV := val }
  | "AC" => { m with AC := val }
  | "UI" => { m with UI := val }
  | "PR" => { m with PR := val }
  | "C" => { m with C := val }
  | "I" => { m with I := val }
  | "A" => { m with A := val }
  | _ => m

/-- One turn of the loop of `parse_cvss_vector`: past `S:` and `PR:` it looks at the
third character for the value, not for the colon. -/
def parsePart (m : CvssMetric) : List Char → CvssMetric
  | 'S' :: ':' :: rest => { m with S := String.ofList rest }
  | 'P' :: 'R' :: ':' :: rest => { m with PR := String.ofList rest }
  | k₀ :: k₁ :: v :: _ =>
      if v ∈ ['N', 'L', 'H', 'A', 'R', 'P', 'C'] then
        let key := String.ofList [k₀, k₁]
        let val := String.ofList [v]
        match Dict.get? cvssValues key with
        | none => m
        | some table => if (Dict.get? table val).isSome then setattr m key val else m
      else m
  | _ => m

def parseCvssVector (vector : String) : Option CvssMetric :=
  if hasPrefix vector then some ((parts vector).foldl parsePart {}) else none

/-- The formula of `compute_cvss_score`, from the values of the metrics. -/
def baseScore (scope : String) (av ac pr ui c i a : ℚ) : ℚ :=
  let iss := impactSubScore c i a
  let base :=
    if iss ≤ 0 then 0
    else
      let impact := if scope = "U" then 642 / 100 * iss
        else 752 / 100 * (iss - 29 / 1000) - 325 / 100 * (iss - 2 / 100) ^ 15
      let exploit := 822 / 100 * av * ac * pr * ui
      if impact + exploit ≤ 0 then 0
      else if scope = "U" then min (impact + exploit) 10
      else min (108 / 100 * (impact + exploit)) 10
  roundTenth base

def computeCvssScore (m : CvssMetric) : Option ℚ := do
  let av ← Dict.get? avTable m.AV
  let ac ← Dict.get? acTable m.AC
  let ui ← Dict.get? uiTable m.UI
  let pr ← Dict.get? prTable m.PR
  let c ← Dict.get? impactTable m.C
  let i ← Dict.get? impactTable m.I
  let a ← Dict.get? impactTable m.A
  return baseScore m.S av ac pr ui c i a

/-- The score of a vector by this script alone: `None` when the parse is `None`. -/
def scoreOf (vector : String) : Option ℚ := (parseCvssVector vector).bind computeCvssScore

end SolanaAuditor.Cvss.Triage
