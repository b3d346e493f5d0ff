/- SolanaAuditor/Klend/BorrowRateCurve
   digest: The borrow rate of a reserve, interpolated between eleven points. -/

import SolanaAuditor.Klend.Fraction

set_option autoImplicit false
set_option relaxedAutoImplicit false

namespace SolanaAuditor.Klend

open SolanaAuditor.Lib.CheckedWords Fraction

def MAX_UTILIZATION_RATE_BPS : Nat := 10000

structure CurvePoint where
  utilizationRateBps : U32
  borrowRateBps : U32
  deriving DecidableEq

structure CurveSegment where
  slopeNom : Nat
  slopeDenom : Nat
  startPoint : CurvePoint

structure BorrowRateCurve where
  points : List CurvePoint
  length_points : points.length = 11

def invalidPoint : Fault := .error .invalidBorrowRateCurvePoint

section Segments

def CurveSegment.fromPoints (start stop : CurvePoint) : Outcome CurveSegment := do
  let slopeNom ← minus invalidPoint stop.borrowRateBps.val start.borrowRateBps.val
  require invalidPoint (start.utilizationRateBps < stop.utilizationRateBps)
  let slopeDenom ← minus .panic stop.utilizationRateBps.val start.utilizationRateBps.val
  return { slopeNom, slopeDenom, startPoint := start }

def CurveSegment.getBorrowRate (segment : CurveSegment) (utilizationRate : Fraction) :
    Outcome Fraction := do
  let startUtilizationRate ← fromBps segment.startPoint.utilizationRateBps
  let coef ← checkedSub (.error .invalidUtilizationRate) utilizationRate startUtilizationRate
  let nom ← coef.mulInt segment.slopeNom
  let baseRate ← nom.divInt segment.slopeDenom
  let offset ← fromBps segment.startPoint.borrowRateBps
  baseRate.add offset

end Segments

section Curves

/-- Utilizations grow strictly until the maximum, and stay there. -/
def checkUtilization (last pt : CurvePoint) : Outcome Unit :=
  if last.utilizationRateBps.val = MAX_UTILIZATION_RATE_BPS then
    require invalidPoint (pt.utilizationRateBps.val = MAX_UTILIZATION_RATE_BPS)
  else
    require invalidPoint (last.utilizationRateBps < pt.utilizationRateBps)

/-- The loop over the points after the first. -/
def checkPoints : CurvePoint → List CurvePoint → Outcome Unit
  | _, [] => .ok ()
  | last, pt :: pts => do
    checkUtilization last pt
    require invalidPoint (last.borrowRateBps ≤ pt.borrowRateBps)
    checkPoints pt pts

def BorrowRateCurve.first (curve : BorrowRateCurve) : CurvePoint :=
  getElem curve.points 0 (by simp [curve.length_points])

def BorrowRateCurve.last (curve : BorrowRateCurve) : CurvePoint :=
  getElem curve.points 10 (by simp [curve.length_points])

def BorrowRateCurve.validate (curve : BorrowRateCurve) : Outcome Unit := do
  require invalidPoint (curve.first.utilizationRateBps.val = 0)
  require invalidPoint (curve.last.utilizationRateBps.val = MAX_UTILIZATION_RATE_BPS)
  checkPoints curve.first curve.points.tail

/-- The points given, and one of them again up to the eleventh. -/
def BorrowRateCurve.padded (pts : List CurvePoint) (last : CurvePoint) (h : pts.length ≤ 11) :
    BorrowRateCurve where
  points := pts ++ List.replicate (11 - pts.length) last
  length_points := by simp [h]

def BorrowRateCurve.fromPoints (pts : List CurvePoint) : Outcome BorrowRateCurve := do
  require invalidPoint (2 ≤ pts.length)
  if h : pts.length ≤ 11 then
    match pts.getLast? with
    | none => .error .panic
    | some last =>
      require invalidPoint (last.utilizationRateBps.val = MAX_UTILIZATION_RATE_BPS)
      let curve := padded pts last h
      curve.validate
      return curve
  else
    .error invalidPoint

def BorrowRateCurve.newFlat (borrowRateBps : U32) : Outcome BorrowRateCurve :=
  (fromPoints [⟨0, borrowRateBps⟩, ⟨10000, borrowRateBps⟩]).mapError fun _ => .panic

def BorrowRateCurve.getBorrowRate (curve : BorrowRateCurve) (utilizationRate : Fraction) :
    Outcome Fraction := do
  let utilizationRate := min utilizationRate ONE
  let bps ← utilizationRate.toBps
  match (curve.points.zip curve.points.tail).find? fun ends =>
      ends.1.utilizationRateBps ≤ bps ∧ bps ≤ ends.2.utilizationRateBps with
  | none => .error .panic
  | some (start, stop) =>
    if bps = start.utilizationRateBps then
      fromBps start.borrowRateBps
    else if bps = stop.utilizationRateBps then
      fromBps stop.borrowRateBps
    else
      (← CurveSegment.fromPoints start stop).getBorrowRate utilizationRate

/-- The points up to the first at full utilization: what is serialized of a curve. -/
def takeUntilEnd : Bool → List CurvePoint → List CurvePoint
  | true, _ => []
  | false, [] => []
  | false, p :: pts =>
    p :: takeUntilEnd (p.utilizationRateBps.val = MAX_UTILIZATION_RATE_BPS) pts

def BorrowRateCurve.serialize (curve : BorrowRateCurve) : List CurvePoint :=
  takeUntilEnd false curve.points

/-- The largest rate of the points. -/
def BorrowRateCurve.maxBorrowRateBps (curve : BorrowRateCurve) : U32 :=
  (curve.points.map CurvePoint.borrowRateBps).foldl max curve.first.borrowRateBps

end Curves

end SolanaAuditor.Klend
