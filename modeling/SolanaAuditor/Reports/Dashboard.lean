/- SolanaAuditor/Reports/Dashboard
   digest: scripts/dashboard.py: the summary of a list and the comparison of two. -/

import Mathlib.Data.List.Sort
import SolanaAuditor.Lib.KeyedDiff
import SolanaAuditor.Numbers
import SolanaAuditor.Reports.LevelCounts

set_option autoImplicit false
set_option relaxedAutoImplicit false

namespace SolanaAuditor.Reports.Dashboard

open SolanaAuditor.Lib

/-- What `compute_summary` returns. -/
structure Summary where
  critical : Nat
  high : Nat
  medium : Nat
  low : Nat
  info : Nat
  total : Nat
  cvssTotal : PyNumber
  cvssAvg : PyNumber
  cvssWorst : PyNumber

/-- The entry of a summary for a level. -/
def Summary.count (summary : Summary) : String → Nat
  | "CRITICAL" => summary.critical
  | "HIGH" => summary.high
  | "MEDIUM" => summary.medium
  | "LOW" => summary.low
  | "INFO" => summary.info
  | _ => 0

/-- `[f["cvss"] for f in findings if isinstance(f.get("cvss"), (int, float))]` -/
def cvssScores (findings : List PyDict) : List PyNumber :=
  findings.filterMap fun f => PyNumber.ofJson (f.get "cvss")

/-- `cvss_total / len(cvss_scores) if cvss_scores else 0.0` -/
def average (total : PyNumber) (scores : List PyNumber) : Py FloatValue :=
  if scores.isEmpty then return .finite 0 else total.divNat scores.length

/-- `max(cvss_scores) if cvss_scores else 0.0` -/
def worst : List PyNumber → PyNumber
  | [] => .float (.finite 0)
  | score :: scores => PyNumber.maximum score scores

def computeSummary (text : PyText) (findings : List PyDict) : Py Summary := do
  let counts ← levelCounts text findings
  let scores := cvssScores findings
  let cvssTotal ← PyNumber.sum scores
  let cvssAvg ← average cvssTotal scores
  return {
    critical := (Dict.get? counts "CRITICAL").getD 0
    high := (Dict.get? counts "HIGH").getD 0
    medium := (Dict.get? counts "MEDIUM").getD 0
    low := (Dict.get? counts "LOW").getD 0
    info := (Dict.get? counts "INFO").getD 0
    total := findings.length
    cvssTotal := cvssTotal.rounded Decimal.roundTenth
    cvssAvg := (PyNumber.float cvssAvg).rounded Decimal.roundHundredth
    cvssWorst := (worst scores).rounded Decimal.roundTenth }

/-- `s.lstrip("C-")`: every leading `C` and `-`, in any order. -/
def lstripC (s : String) : String :=
  String.ofList (s.toList.dropWhile fun c => c == 'C' || c == '-')

/-- `norm_id` -/
def normId (f : PyDict) : Py String :=
  match field f "id" (.str "") with
  | .str s => return lstripC s
  | _ => .error .attributeError

/-- `[(norm_id(f), f) for f in findings]` -/
def withIds : List PyDict → Py (List (String × PyDict))
  | [] => return []
  | f :: findings => do
      let fid ← normId f
      return (fid, f) :: (← withIds findings)

/-- `{norm_id(f): f for f in findings}` -/
def findingsById (findings : List PyDict) : Py (List (String × PyDict)) := do
  return (← withIds findings).foldl (fun d e => Dict.set d e.1 e.2) []

/-- `(not x[0].isdigit(), x)` -/
def sortKey (chars : PyChars) (x : String) : Py (Bool × String) :=
  match x.toList with
  | [] => .error .indexError
  | c :: _ => return (!chars.isDigit c, x)

def sortKeys (chars : PyChars) : List String → Py (List (Bool × String))
  | [] => return []
  | x :: xs => do
      let key ← sortKey chars x
      return key :: (← sortKeys chars xs)

/-- The order of the keys, `False` before `True`. -/
def keyLess (a b : Bool × String) : Bool :=
  if a.1 = b.1 then textLess a.2 b.2 else !a.1

/-- `sorted(ids, key=…)` -/
def sortedIds (chars : PyChars) (ids : List String) : Py (List String) := do
  let keys ← sortKeys chars ids
  return (keys.insertionSort fun a b => keyLess b a = false).map Prod.snd

def cvssSum (findings : List PyDict) : Py PyNumber := do
  return (← PyNumber.sum (cvssScores findings)).rounded Decimal.roundTenth

/-- `delta`: the difference, with a plus sign where it is positive. -/
def delta (text : PyText) (b a : PyNumber) : Py String := do
  let d ← a.sub b
  return (if (FloatValue.finite 0).lt d.value then "+" else "") ++ text.str d.toJson

/-- `delta` of two counts. -/
def countDelta (text : PyText) (b a : Nat) : String :=
  let d : Int := a - b
  (if 0 < d then "+" else "") ++ text.str (.int d)

/-- The status of each id; a later list overwrites an earlier one. -/
def findingStatus (fixedIds unchangedIds newIds : List String) : List (String × String) :=
  let entries := fixedIds.map (fun fid => (fid, "Fixed")) ++
    unchangedIds.map (fun fid => (fid, "Unchanged")) ++ newIds.map fun fid => (fid, "New")
  entries.foldl (fun d e => Dict.set d e.1 e.2) []

/-- What `compute_comparison` returns. -/
structure Comparison where
  beforeSummary : Summary
  afterSummary : Summary
  severityDelta : List (String × String)
  cvssDelta : String
  beforeTotal : Nat
  afterTotal : Nat
  fixed : List PyDict
  fixedCounts : Counts
  fixedCvss : PyNumber
  unchanged : List PyDict
  unchangedCounts : Counts
  unchangedCvss : PyNumber
  new : List PyDict
  newCounts : Counts
  newCvss : PyNumber
  findingStatus : List (String × String)

def computeComparison (text : PyText) (chars : PyChars)
    (beforeFindings afterFindings : List PyDict) : Py Comparison := do
  let beforeMap ← findingsById beforeFindings
  let afterMap ← findingsById afterFindings
  let allIds ← sortedIds chars (KeyedDiff.union beforeMap afterMap)
  let split := KeyedDiff.diff beforeMap afterMap allIds
  let before ← computeSummary text beforeFindings
  let after ← computeSummary text afterFindings
  let fixedIds ← withIds split.removed
  let unchangedIds ← withIds split.kept
  let newIds ← withIds split.added
  let cvssDelta ← delta text before.cvssTotal after.cvssTotal
  let fixedCounts ← levelCounts text split.removed
  let fixedCvss ← cvssSum split.removed
  let unchangedCounts ← levelCounts text split.kept
  let unchangedCvss ← cvssSum split.kept
  let newCounts ← levelCounts text split.added
  let newCvss ← cvssSum split.added
  return {
    beforeSummary := before
    afterSummary := after
    severityDelta := [
      ("critical", countDelta text before.critical after.critical),
      ("high", countDelta text before.high after.high),
      ("medium", countDelta text before.medium after.medium),
      ("low", countDelta text before.low after.low),
      ("info", countDelta text before.info after.info)]
    cvssDelta
    beforeTotal := before.total
    afterTotal := after.total
    fixed := split.removed
    fixedCounts
    fixedCvss
    unchanged := split.kept
    unchangedCounts
    unchangedCvss
    new := split.added
    newCounts
    newCvss
    findingStatus := findingStatus (fixedIds.map Prod.fst) (unchangedIds.map Prod.fst)
      (newIds.map Prod.fst) }

/-- The sum of the scores returns, and integers alone have an average that is a float. -/
def Averageable (findings : List PyDict) : Prop :=
  PyNumber.Summable 0 (cvssScores findings) ∧
    ∀ ints : List Int, cvssScores findings = ints.map PyNumber.int → ints ≠ [] →
      |(ints.sum : ℚ) / ints.length| < floatLimit

section Returns

variable {findings : List PyDict}

theorem average_float_returns (x : FloatValue) (scores : List PyNumber) :
    ∃ a, average (.float x) scores = .ok a := by
  unfold average
  split
  · exact ⟨_, rfl⟩
  · exact ⟨_, rfl⟩

theorem average_int_returns {n : Int} {scores : List PyNumber} :
    (∃ a, average (.int n) scores = .ok a) ↔
      (scores ≠ [] → |(n : ℚ) / scores.length| < floatLimit) := by
  unfold average
  cases scores with
  | nil => exact iff_of_true ⟨_, rfl⟩ fun hne => absurd rfl hne
  | cons score scores =>
    simp only [List.isEmpty_cons, Bool.false_eq_true, if_false, PyNumber.divNat]
    split_ifs with h
    · exact iff_of_true ⟨_, rfl⟩ fun _ => h
    · refine iff_of_false ?_ fun hall => h (hall (List.cons_ne_nil _ _))
      rintro ⟨a, ha⟩
      cases ha

theorem computeSummary_returns (text : PyText) (h : ∀ f ∈ findings, TextSeverity f) :
    (∃ summary, computeSummary text findings = .ok summary) ↔ Averageable findings := by
  obtain ⟨counts, hcounts, -⟩ := levelCounts_ok text h
  have hreturns : (∃ summary, computeSummary text findings = .ok summary) ↔
      ∃ total, PyNumber.sum (cvssScores findings) = .ok total ∧
        ∃ a, average total (cvssScores findings) = .ok a := by
    simp only [computeSummary, hcounts, Py.bind_eq_ok]
    constructor
    · rintro ⟨summary, _, -, total, htotal, a, ha, -⟩
      exact ⟨total, htotal, a, ha⟩
    · rintro ⟨total, htotal, a, ha⟩
      exact ⟨_, counts, rfl, total, htotal, a, ha, rfl⟩
  rw [hreturns]
  unfold Averageable
  rw [← PyNumber.sum_returns]
  rcases PyNumber.ints_or_float (cvssScores findings) with ⟨ints, hints⟩ | ⟨ints, x, rest, hfloat⟩
  · have hsum : PyNumber.sum (cvssScores findings) = .ok (.int ints.sum) := by
      rw [hints, PyNumber.sum, PyNumber.sumFrom_ints, Int.zero_add]
    have hown : ∀ own : List Int, cvssScores findings = own.map PyNumber.int → own = ints := by
      intro own hmap
      exact List.map_injective_iff.mpr (fun _ _ h => PyNumber.int.inj h) (hmap.symm.trans hints)
    have hlength : (cvssScores findings).length = ints.length := by rw [hints, List.length_map]
    have hempty : cvssScores findings ≠ [] ↔ ints ≠ [] := by simp [hints]
    constructor
    · rintro ⟨total, htotal, ha⟩
      obtain rfl := Except.ok.inj (hsum.symm.trans htotal)
      refine ⟨⟨_, htotal⟩, fun own hmap hne => ?_⟩
      obtain rfl := hown own hmap
      rw [← hlength]
      exact average_int_returns.mp ha (hempty.mpr hne)
    · rintro ⟨-, havg⟩
      refine ⟨_, hsum, average_int_returns.mpr fun hne => ?_⟩
      rw [hlength]
      exact havg ints hints (hempty.mp hne)
  · have hmem : PyNumber.float x ∈ cvssScores findings := by simp [hfloat]
    constructor
    · rintro ⟨total, htotal, -⟩
      refine ⟨⟨total, htotal⟩, fun own hmap _ => ?_⟩
      rw [hmap] at hmem
      simp at hmem
    · rintro ⟨⟨total, htotal⟩, -⟩
      obtain ⟨y, rfl⟩ := PyNumber.sumFrom_of_float_mem htotal hmem
      exact ⟨_, htotal, average_float_returns y _⟩

theorem computeSummary_count {text : PyText} {summary : Summary}
    (h : ∀ f ∈ findings, TextSeverity f)
    (hsummary : computeSummary text findings = .ok summary) {level : String}
    (hlevel : level ∈ severityLevels) :
    summary.count level = upperCount text "INFO" findings level := by
  obtain ⟨counts, hcounts, hget⟩ := levelCounts_ok text h
  simp only [computeSummary, hcounts, Py.bind_eq_ok] at hsummary
  obtain ⟨_, hcounts', total, -, a, -, hsummary⟩ := hsummary
  obtain rfl := Except.ok.inj hcounts'
  obtain rfl := Except.ok.inj hsummary
  have hcount : ∀ l ∈ severityLevels,
      (Dict.get? counts l).getD 0 = upperCount text "INFO" findings l := by
    intro l hl
    rw [hget l hl]
    rfl
  simp only [severityLevels, List.mem_cons, List.not_mem_nil, or_false] at hlevel
  rcases hlevel with rfl | rfl | rfl | rfl | rfl <;> exact hcount _ (by decide)

end Returns

end SolanaAuditor.Reports.Dashboard
