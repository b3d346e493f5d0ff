/- SolanaAuditor/Klend/CurveShape
   digest: A valid borrow rate curve has a rate for every utilization, and the rate rises. -/

import SolanaAuditor.Klend.BorrowRateCurve
import SolanaAuditor.Lib.Knots
import Mathlib.Tactic.Ring

set_option autoImplicit false
set_option relaxedAutoImplicit false

namespace SolanaAuditor.Klend

open SolanaAuditor.Lib SolanaAuditor.Lib.CheckedWords Fraction

section Positions

/-- The utilization in basis points, as the curve rounds it. -/
def utilizationBps (u : Fraction) : Nat :=
  ((min u ONE).sf * 10000 + ONE_SCALED / 2) / ONE_SCALED

/-- A rate in basis points as the bits of a fraction. -/
def rateSf (bps : Nat) : Nat := bps * ONE_SCALED / 10000

theorem capped_le (u : Fraction) : (min u ONE).sf ≤ ONE_SCALED := by
  rw [min_sf, sf_one]
  exact min_le_right _ _

theorem utilizationBps_le (u : Fraction) : utilizationBps u ≤ MAX_UTILIZATION_RATE_BPS := by
  have h := capped_le u
  simp only [utilizationBps, MAX_UTILIZATION_RATE_BPS, ONE_SCALED, FRAC_NBITS] at *
  omega

theorem utilizationBps_mono : Monotone utilizationBps := by
  intro u v h
  have hmin : (min u ONE).sf ≤ (min v ONE).sf := min_le_min_right ONE h
  exact Nat.div_le_div_right (Nat.add_le_add_right (Nat.mul_le_mul_right 10000 hmin) _)

theorem toBps_capped (u : Fraction) :
    ∃ bps, (min u ONE).toBps = .ok bps ∧ bps.val = utilizationBps u := by
  have hcap := capped_le u
  have hbps := utilizationBps_le u
  simp only [ONE_SCALED, FRAC_NBITS] at hcap
  obtain ⟨scaled, hscaled, hsf⟩ := ofSf_isOk (n := (min u ONE).sf * 10000) (by omega)
  have hround : (scaled.sf + ONE_SCALED / 2) / ONE_SCALED = utilizationBps u := by
    rw [hsf]
    rfl
  have hfits : utilizationBps u * ONE_SCALED < 2 ^ 128 := by
    simp only [MAX_UTILIZATION_RATE_BPS, ONE_SCALED, FRAC_NBITS] at *
    omega
  obtain ⟨rounded, hrounded, hrsf⟩ := ofSf_isOk hfits
  have hword : utilizationBps u < 2 ^ 32 := hbps.trans_lt (by decide)
  refine ⟨⟨utilizationBps u, hword⟩, ?_, rfl⟩
  simp only [Fraction.toBps, Fraction.mulInt, bind_eq_ok]
  refine ⟨scaled, hscaled, rounded, by rw [hround]; exact hrounded, ?_⟩
  rw [hrsf, Nat.mul_div_cancel _ one_scaled_pos, fit_isOk hword]

theorem rateSf_lt (bps : U32) : rateSf bps.val < 2 ^ 92 := by
  have h := bps.isLt
  simp only [rateSf, ONE_SCALED, FRAC_NBITS]
  omega

theorem rateSf_mono : Monotone rateSf :=
  fun _ _ h => Nat.div_le_div_right (Nat.mul_le_mul_right _ h)

end Positions

section Segments

variable {p q : CurvePoint} {u v : Fraction}

def CurvePoint.key (p : CurvePoint) : Nat := p.utilizationRateBps.val

def CurvePoint.value (p : CurvePoint) : Nat := rateSf p.borrowRateBps.val

/-- How two neighbours of a valid curve lie. -/
def CurvePoint.Link (p q : CurvePoint) : Prop :=
  p.key ≤ q.key ∧ p.borrowRateBps.val ≤ q.borrowRateBps.val

/-- The line between two points, rounded down twice. -/
def lineSf (p q : CurvePoint) (u : Fraction) : Nat :=
  ((min u ONE).sf - rateSf p.key) * (q.borrowRateBps.val - p.borrowRateBps.val) /
    (q.key - p.key) + p.value

/-- The rate between two points; utilizations that round to a point have the rate of it. -/
def segmentSf (p q : CurvePoint) (u : Fraction) : Nat :=
  if utilizationBps u = p.key then p.value
  else if utilizationBps u = q.key then q.value
  else lineSf p q u

theorem start_le_of_bps_lt (h : p.key < utilizationBps u) : rateSf p.key ≤ (min u ONE).sf := by
  simp only [utilizationBps, rateSf, ONE_SCALED, FRAC_NBITS] at *
  omega

/-- Half a point below the end of the segment, the line has not passed the end: this is where
rounding to the nearest point is used. -/
theorem rise_le_of_bps_lt (hq : utilizationBps u < q.key) :
    10000 * ((min u ONE).sf - rateSf p.key) ≤ ONE_SCALED * (q.key - p.key) := by
  simp only [utilizationBps, rateSf, ONE_SCALED, FRAC_NBITS] at *
  omega

theorem lineSf_le (hlink : p.Link q) (hp : p.key < utilizationBps u)
    (hq : utilizationBps u < q.key) : lineSf p q u ≤ q.value := by
  have hrise := rise_le_of_bps_lt (p := p) hq
  have hwidth : 0 < q.key - p.key := by omega
  unfold lineSf
  generalize (min u ONE).sf - rateSf p.key = coef at *
  generalize q.key - p.key = width at *
  obtain ⟨rise, hsum⟩ := Nat.exists_eq_add_of_le hlink.2
  have hsub : q.borrowRateBps.val - p.borrowRateBps.val = rise := by omega
  rw [hsub, CurvePoint.value, CurvePoint.value, hsum]
  have hbase : 10000 * (coef * rise / width) ≤ ONE_SCALED * rise := by
    refine Nat.le_of_mul_le_mul_right ?_ hwidth
    calc 10000 * (coef * rise / width) * width = 10000 * (coef * rise / width * width) := by ring
      _ ≤ 10000 * (coef * rise) := Nat.mul_le_mul_left _ (Nat.div_mul_le_self _ _)
      _ = 10000 * coef * rise := by ring
      _ ≤ ONE_SCALED * width * rise := Nat.mul_le_mul_right _ hrise
      _ = ONE_SCALED * rise * width := by ring
  have hoffset : rateSf p.borrowRateBps.val * 10000 ≤ p.borrowRateBps.val * ONE_SCALED :=
    Nat.div_mul_le_self _ _
  change _ ≤ (p.borrowRateBps.val + rise) * ONE_SCALED / 10000
  rw [Nat.le_div_iff_mul_le (by decide)]
  calc (coef * rise / width + rateSf p.borrowRateBps.val) * 10000
      = 10000 * (coef * rise / width) + rateSf p.borrowRateBps.val * 10000 := by ring
    _ ≤ ONE_SCALED * rise + p.borrowRateBps.val * ONE_SCALED := Nat.add_le_add hbase hoffset
    _ = (p.borrowRateBps.val + rise) * ONE_SCALED := by ring

theorem lineSf_mono (h : u ≤ v) : lineSf p q u ≤ lineSf p q v := by
  have hmin : (min u ONE).sf ≤ (min v ONE).sf := min_le_min_right ONE h
  exact Nat.add_le_add_right (Nat.div_le_div_right
    (Nat.mul_le_mul_right _ (Nat.sub_le_sub_right hmin _))) _

/-- A segment rises from the rate of its start to the rate of its end. -/
theorem segment_rising :
    Knots.Rising CurvePoint.key CurvePoint.value utilizationBps CurvePoint.Link segmentSf where
  values h := rateSf_mono h.2
  low {p q x} hlink hp hq := by
    unfold segmentSf
    split_ifs
    · exact le_rfl
    · exact rateSf_mono hlink.2
    · exact Nat.le_add_left _ _
  high {p q x} hlink hp hq := by
    unfold segmentSf
    split_ifs with hstart hstop
    · exact rateSf_mono hlink.2
    · exact le_rfl
    · exact lineSf_le hlink (by omega) (by omega)
  mono {p q x y} hlink hxy hp hq := by
    have hbps := utilizationBps_mono hxy
    unfold segmentSf
    split_ifs with h₁ h₂ h₃ h₄ h₅ h₆ h₇
    · exact le_rfl
    · exact rateSf_mono hlink.2
    · exact Nat.le_add_left _ _
    · omega
    · exact le_rfl
    · omega
    · omega
    · exact lineSf_le hlink (by omega) (by omega)
    · exact lineSf_mono hxy

/-- Between its ends a segment has no error to return. -/
theorem CurveSegment.getBorrowRate_line (hlink : p.Link q) (hp : p.key < utilizationBps u)
    (hq : utilizationBps u < q.key) :
    ∃ r, (do (← CurveSegment.fromPoints p q).getBorrowRate (min u ONE)) = .ok r ∧
      r.sf = lineSf p q u := by
  have hpq : p.utilizationRateBps < q.utilizationRateBps := Fin.lt_def.mpr (by
    simp only [CurvePoint.key] at *
    omega)
  have hline := (lineSf_le hlink hp hq).trans_lt (rateSf_lt q.borrowRateBps)
  have hrise := rise_le_of_bps_lt (p := p) hq
  obtain ⟨start, hstart, hstartSf⟩ := fromBps_isOk p.utilizationRateBps
  obtain ⟨offset, hoffset, hoffsetSf⟩ := fromBps_isOk p.borrowRateBps
  obtain ⟨coef, hcoef⟩ : ∃ coef : Fraction, coef.sf = (min u ONE).sf - rateSf p.key :=
    ⟨⟨⟨_, (Nat.sub_le _ _).trans_lt (min u ONE).sf_lt⟩⟩, rfl⟩
  have hnom : coef.sf * (q.borrowRateBps.val - p.borrowRateBps.val) < 2 ^ 128 := by
    have hrate := q.borrowRateBps.isLt
    have hkey := q.utilizationRateBps.isLt
    calc coef.sf * (q.borrowRateBps.val - p.borrowRateBps.val)
        ≤ coef.sf * 2 ^ 32 := Nat.mul_le_mul_left _ (by omega)
      _ < 2 ^ 128 := by
        rw [hcoef]
        have hcap := capped_le u
        simp only [ONE_SCALED, FRAC_NBITS] at hcap
        omega
  obtain ⟨nom, hnomOk, hnomSf⟩ := ofSf_isOk hnom
  obtain ⟨base, hbaseOk, hbaseSf⟩ := ofSf_isOk
    (n := nom.sf / (q.key - p.key)) ((Nat.div_le_self _ _).trans_lt nom.sf_lt)
  have hlineSf : lineSf p q u = base.sf + offset.sf := by
    rw [hbaseSf, hnomSf, hcoef, hoffsetSf]
    rfl
  obtain ⟨r, hr, hrSf⟩ := ofSf_isOk (n := base.sf + offset.sf) (by omega)
  refine ⟨r, ?_, by rw [hrSf, hlineSf]⟩
  simp only [CurveSegment.fromPoints, CurveSegment.getBorrowRate, bind_eq_ok, minus_eq_ok,
    require_eq_ok, checkedSub_eq_ok, mulInt_eq_ok, divInt_eq_ok, add_eq_ok, pure, Except.pure,
    Except.ok.injEq]
  refine ⟨_, ⟨_, Nat.sub_add_cancel hlink.2, (), hpq, _, Nat.sub_add_cancel hlink.1, rfl⟩,
    start, hstart, coef, ?_, nom, hnomSf, base, ⟨?_, hbaseSf⟩, offset, hoffset, hrSf⟩
  · rw [hcoef, hstartSf]
    exact Nat.sub_add_cancel (start_le_of_bps_lt hp)
  · exact Nat.sub_pos_of_lt hpq

end Segments

section Curves

variable {curve : BorrowRateCurve} {u v : Fraction}

/-- What the check asks of two neighbours. -/
def CurvePoint.Step (p q : CurvePoint) : Prop :=
  checkUtilization p q = .ok () ∧ p.borrowRateBps ≤ q.borrowRateBps

theorem CurvePoint.Step.link {p q : CurvePoint} (h : p.Step q) : p.Link q := by
  obtain ⟨hutil, hrate⟩ := h
  refine ⟨?_, hrate⟩
  unfold checkUtilization at hutil
  split at hutil
  · next hmax =>
    rw [require_eq_ok] at hutil
    exact le_of_eq (hmax.trans hutil.symm)
  · rw [require_eq_ok] at hutil
    exact le_of_lt hutil

theorem CurvePoint.step_self {p : CurvePoint} (h : p.key = MAX_UTILIZATION_RATE_BPS) :
    p.Step p := by
  refine ⟨?_, le_rfl⟩
  exact (if_pos h).trans (require_eq_ok.mpr h)

theorem checkPoints_eq_ok {last : CurvePoint} {pts : List CurvePoint} :
    checkPoints last pts = .ok () ↔ (last :: pts).IsChain CurvePoint.Step := by
  induction pts generalizing last with
  | nil => simp [checkPoints]
  | cons pt pts ih =>
    simp only [checkPoints, bind_eq_ok, require_eq_ok, List.isChain_cons_cons, CurvePoint.Step, ih]
    constructor
    · rintro ⟨_, hutil, _, hrate, hrest⟩
      exact ⟨⟨hutil, hrate⟩, hrest⟩
    · rintro ⟨⟨hutil, hrate⟩, hrest⟩
      exact ⟨(), hutil, (), hrate, hrest⟩

theorem points_eq (curve : BorrowRateCurve) :
    curve.first :: curve.points.tail = curve.points ∧ curve.points.tail ≠ [] ∧
      ∀ h, (curve.first :: curve.points.tail).getLast h = curve.last := by
  obtain ⟨points, hlen⟩ := curve
  match points, hlen with
  | [_, _, _, _, _, _, _, _, _, _, _], _ => simp [BorrowRateCurve.first, BorrowRateCurve.last]

/-- A curve that passes the check runs from no utilization to full utilization. -/
theorem validate_eq_ok : curve.validate = .ok () ↔ curve.points.IsChain CurvePoint.Step ∧
    curve.first.key = 0 ∧ curve.last.key = MAX_UTILIZATION_RATE_BPS := by
  rw [← (points_eq curve).1, ← checkPoints_eq_ok]
  simp only [BorrowRateCurve.validate, bind_eq_ok, require_eq_ok, CurvePoint.key]
  constructor
  · rintro ⟨_, hfirst, _, hlast, hpoints⟩
    exact ⟨hpoints, hfirst, hlast⟩
  · rintro ⟨hpoints, hfirst, hlast⟩
    exact ⟨(), hfirst, (), hlast, hpoints⟩

theorem validate_ok (h : curve.validate = .ok ()) :
    (curve.first :: curve.points.tail).IsChain CurvePoint.Link ∧ curve.first.key = 0 ∧
      curve.last.key = MAX_UTILIZATION_RATE_BPS := by
  obtain ⟨hchain, hends⟩ := validate_eq_ok.mp h
  rw [← (points_eq curve).1] at hchain
  exact ⟨hchain.imp fun _ _ => CurvePoint.Step.link, hends⟩

theorem foldl_max_of_chain {p : CurvePoint} {pts : List CurvePoint}
    (h : (p :: pts).IsChain CurvePoint.Link) :
    (pts.map CurvePoint.borrowRateBps).foldl max p.borrowRateBps =
      ((p :: pts).getLast (List.cons_ne_nil p pts)).borrowRateBps := by
  induction pts generalizing p with
  | nil => rfl
  | cons q pts ih =>
    rw [List.isChain_cons_cons] at h
    have hle : p.borrowRateBps ≤ q.borrowRateBps := h.1.2
    rw [List.getLast_cons (List.cons_ne_nil q pts), ← ih h.2, List.map_cons, List.foldl_cons,
      max_eq_right hle]

/-- The largest rate is the one of the last point. -/
theorem maxBorrowRateBps_eq (h : curve.validate = .ok ()) :
    curve.maxBorrowRateBps = curve.last.borrowRateBps := by
  obtain ⟨heq, -, hlast⟩ := points_eq curve
  rw [BorrowRateCurve.maxBorrowRateBps, ← hlast (List.cons_ne_nil _ _),
    ← foldl_max_of_chain (validate_ok h).1]
  nth_rewrite 1 [← heq]
  rw [List.map_cons, List.foldl_cons, max_self]

theorem getBorrowRate_eq {p q : CurvePoint} (hlink : p.Link q)
    (hfind : Knots.enclosing CurvePoint.key (utilizationBps u) curve.points = some (p, q))
    (hp : p.key ≤ utilizationBps u) (hq : utilizationBps u ≤ q.key) :
    ∃ r, curve.getBorrowRate u = .ok r ∧ r.sf = segmentSf p q u := by
  obtain ⟨bps, hbps, hval⟩ := toBps_capped u
  have hsearch : (curve.points.zip curve.points.tail).find? (fun ends =>
      ends.1.utilizationRateBps ≤ bps ∧ bps ≤ ends.2.utilizationRateBps) = some (p, q) := by
    rw [← hfind, Knots.enclosing, ← hval]
    rfl
  have hstart : bps = p.utilizationRateBps ↔ utilizationBps u = p.key := by
    rw [← hval]
    exact Fin.ext_iff
  have hstop : bps = q.utilizationRateBps ↔ utilizationBps u = q.key := by
    rw [← hval]
    exact Fin.ext_iff
  simp only [BorrowRateCurve.getBorrowRate, bind_eq_ok]
  by_cases h₁ : utilizationBps u = p.key
  · obtain ⟨r, hr, hsf⟩ := fromBps_isOk p.borrowRateBps
    exact ⟨r, ⟨bps, hbps, by simp only [hsearch, if_pos (hstart.mpr h₁), hr]⟩,
      hsf.trans (if_pos h₁).symm⟩
  · by_cases h₂ : utilizationBps u = q.key
    · obtain ⟨r, hr, hsf⟩ := fromBps_isOk q.borrowRateBps
      refine ⟨r, ⟨bps, hbps, ?_⟩, ?_⟩
      · simp only [hsearch, if_neg (mt hstart.mp h₁), if_pos (hstop.mpr h₂), hr]
      · rw [hsf, segmentSf, if_neg h₁, if_pos h₂]
        rfl
    · obtain ⟨r, hr, hsf⟩ := CurveSegment.getBorrowRate_line hlink
        (lt_of_le_of_ne hp (Ne.symm h₁)) (lt_of_le_of_ne hq h₂)
      refine ⟨r, ⟨bps, hbps, ?_⟩, ?_⟩
      · simp only [hsearch, if_neg (mt hstart.mp h₁), if_neg (mt hstop.mp h₂), hr]
      · rw [hsf, segmentSf, if_neg h₁, if_neg h₂]

/-- On a curve that passed the check every utilization has a rate, even one above 100%. The
rate never falls as the utilization grows, and it lies between the rate of the first point and
the largest one. -/
theorem borrow_rate_rises (curve : BorrowRateCurve) (u v : Fraction)
    (hvalid : curve.validate = .ok ()) (huv : u ≤ v) :
    ∃ r s, curve.getBorrowRate u = .ok r ∧ curve.getBorrowRate v = .ok s ∧ r ≤ s ∧
      rateSf curve.first.borrowRateBps.val ≤ r.sf ∧ s.sf ≤ rateSf curve.maxBorrowRateBps.val := by
  obtain ⟨hchain, hfirst, hlast⟩ := validate_ok hvalid
  obtain ⟨heq, hne, hgetLast⟩ := points_eq curve
  have hlow (w : Fraction) : curve.first.key ≤ utilizationBps w := hfirst ▸ Nat.zero_le _
  have hhigh (w : Fraction) : utilizationBps w ≤
      ((curve.first :: curve.points.tail).getLast (List.cons_ne_nil _ _)).key := by
    rw [hgetLast, hlast]
    exact utilizationBps_le w
  have hrate (w : Fraction) : ∃ ends r,
      Knots.enclosing CurvePoint.key (utilizationBps w) (curve.first :: curve.points.tail) =
        some ends ∧
      curve.getBorrowRate w = .ok r ∧ r.sf = segmentSf ends.1 ends.2 w ∧
      curve.first.value ≤ r.sf ∧ r.sf ≤ curve.last.value := by
    obtain ⟨ends, hends, hlink, hp, hq, hmin, hmax⟩ :=
      segment_rising.bounds hchain hne (hlow w) (hhigh w)
    obtain ⟨r, hr, hsf⟩ := getBorrowRate_eq hlink (heq ▸ hends) hp hq
    rw [hgetLast] at hmax
    exact ⟨ends, r, hends, hr, hsf, hsf ▸ hmin, hsf ▸ hmax⟩
  obtain ⟨ends, r, hends, hr, hsf, hmin, -⟩ := hrate u
  obtain ⟨ends', s, hends', hs, hsf', -, hmax⟩ := hrate v
  rw [maxBorrowRateBps_eq hvalid]
  refine ⟨r, s, hr, hs, ?_, hmin, hmax⟩
  rw [Fraction.le_iff, hsf, hsf']
  exact segment_rising.monotone utilizationBps_mono hchain huv (hlow u) (hhigh v) hends hends'

/-- 1% when idle, 10% at 80% utilization, 50% at full utilization. -/
def sampleCurve : BorrowRateCurve where
  points := [⟨0, 100⟩, ⟨8000, 1000⟩] ++ List.replicate 9 ⟨10000, 5000⟩
  length_points := rfl

theorem borrow_rate_rises_sample :
    ∃ r s, sampleCurve.getBorrowRate ZERO = .ok r ∧ sampleCurve.getBorrowRate ONE = .ok s ∧
      r ≤ s ∧ rateSf sampleCurve.first.borrowRateBps.val ≤ r.sf ∧
      s.sf ≤ rateSf sampleCurve.maxBorrowRateBps.val :=
  borrow_rate_rises sampleCurve ZERO ONE rfl (by decide)

end Curves

section Serialization

variable {curve : BorrowRateCurve} {u : Fraction}

theorem getBorrowRate_congr {curve' : BorrowRateCurve}
    (h : Knots.enclosing CurvePoint.key (utilizationBps u) curve'.points =
      Knots.enclosing CurvePoint.key (utilizationBps u) curve.points) :
    curve'.getBorrowRate u = curve.getBorrowRate u := by
  obtain ⟨bps, hbps, hval⟩ := toBps_capped u
  rw [← hval] at h
  have hsearch : (curve'.points.zip curve'.points.tail).find? (fun ends =>
      ends.1.utilizationRateBps ≤ bps ∧ bps ≤ ends.2.utilizationRateBps) =
      (curve.points.zip curve.points.tail).find? (fun ends =>
        ends.1.utilizationRateBps ≤ bps ∧ bps ≤ ends.2.utilizationRateBps) := h
  simp only [BorrowRateCurve.getBorrowRate, hbps, bind, Except.bind, hsearch]

/-- The points kept end with the first one at full utilization. -/
theorem takeUntilEnd_spec {pts : List CurvePoint}
    (h : ∃ p ∈ pts, p.key = MAX_UTILIZATION_RATE_BPS) :
    ∃ kept stop rest, takeUntilEnd false pts = kept ++ [stop] ∧ pts = kept ++ stop :: rest ∧
      stop.key = MAX_UTILIZATION_RATE_BPS ∧ ∀ p ∈ kept, p.key ≠ MAX_UTILIZATION_RATE_BPS := by
  induction pts with
  | nil => simp at h
  | cons p pts ih =>
    by_cases hp : p.key = MAX_UTILIZATION_RATE_BPS
    · have hend : decide (p.utilizationRateBps.val = MAX_UTILIZATION_RATE_BPS) = true :=
        decide_eq_true hp
      exact ⟨[], p, pts, by simp [takeUntilEnd, hend], rfl, hp, by simp⟩
    · have hend : decide (p.utilizationRateBps.val = MAX_UTILIZATION_RATE_BPS) = false :=
        decide_eq_false hp
      have hlater : ∃ q ∈ pts, q.key = MAX_UTILIZATION_RATE_BPS := by
        obtain ⟨q, hq, hmax⟩ := h
        rcases List.mem_cons.mp hq with rfl | hq
        · exact absurd hmax hp
        · exact ⟨q, hq, hmax⟩
      obtain ⟨kept, stop, rest, htake, hsplit, hstop, hkept⟩ := ih hlater
      refine ⟨p :: kept, stop, rest, ?_, by rw [hsplit]; rfl, hstop, ?_⟩
      · rw [takeUntilEnd, hend, htake]
        rfl
      · simpa using ⟨hp, hkept⟩

theorem takeUntilEnd_append {kept more : List CurvePoint} {stop : CurvePoint}
    (hkept : ∀ p ∈ kept, p.key ≠ MAX_UTILIZATION_RATE_BPS)
    (hstop : stop.key = MAX_UTILIZATION_RATE_BPS) :
    takeUntilEnd false (kept ++ stop :: more) = kept ++ [stop] := by
  induction kept with
  | nil =>
    have hend : decide (stop.utilizationRateBps.val = MAX_UTILIZATION_RATE_BPS) = true :=
      decide_eq_true hstop
    simp [takeUntilEnd, hend]
  | cons p kept ih =>
    have hend : decide (p.utilizationRateBps.val = MAX_UTILIZATION_RATE_BPS) = false :=
      decide_eq_false (hkept p List.mem_cons_self)
    rw [List.cons_append, takeUntilEnd, hend, ih fun q hq => hkept q (List.mem_cons_of_mem p hq)]
    rfl

theorem fromPoints_eq_ok {pts : List CurvePoint} {stop : CurvePoint} (htwo : 2 ≤ pts.length)
    (h : pts.length ≤ 11) (hlast : pts.getLast? = some stop)
    (hstop : stop.key = MAX_UTILIZATION_RATE_BPS)
    (hvalid : (BorrowRateCurve.padded pts stop h).validate = .ok ()) :
    BorrowRateCurve.fromPoints pts = .ok (BorrowRateCurve.padded pts stop h) := by
  simp only [BorrowRateCurve.fromPoints, bind_eq_ok, require_eq_ok, dif_pos h, hlast]
  exact ⟨(), htwo, (), hstop, (), hvalid, rfl⟩

theorem padded_points {kept : List CurvePoint} {stop : CurvePoint}
    (h : (kept ++ [stop]).length ≤ 11) :
    (BorrowRateCurve.padded (kept ++ [stop]) stop h).points =
      kept ++ stop :: List.replicate (11 - (kept ++ [stop]).length) stop :=
  List.append_assoc kept [stop] _

theorem padded_last {pts : List CurvePoint} {stop : CurvePoint} (h : pts.length ≤ 11)
    (hlast : pts.getLast? = some stop) : (BorrowRateCurve.padded pts stop h).last = stop := by
  obtain ⟨-, -, hgetLast⟩ := points_eq (BorrowRateCurve.padded pts stop h)
  have hpoints : ∀ hne, (BorrowRateCurve.padded pts stop h).points.getLast hne = stop := by
    intro hne
    apply Option.some_injective
    rw [← List.getLast?_eq_some_getLast hne, BorrowRateCurve.padded, List.getLast?_append,
      List.getLast?_replicate]
    split
    · simpa using hlast
    · rfl
  rw [← hgetLast (List.cons_ne_nil _ _)]
  simpa only [(points_eq (BorrowRateCurve.padded pts stop h)).1] using hpoints _

/-- The points of a valid curve up to the end, padded again, are a valid curve. -/
theorem padded_valid {start stop : CurvePoint} {kept rest : List CurvePoint}
    (hvalid : curve.validate = .ok ()) (hsplit : curve.points = start :: kept ++ stop :: rest)
    (hstop : stop.key = MAX_UTILIZATION_RATE_BPS)
    (h : (start :: kept ++ [stop]).length ≤ 11) :
    (BorrowRateCurve.padded (start :: kept ++ [stop]) stop h).validate = .ok () := by
  obtain ⟨hchain, hfirst, -⟩ := validate_eq_ok.mp hvalid
  rw [hsplit, List.isChain_split] at hchain
  have hstart : curve.first = start := by simp [BorrowRateCurve.first, hsplit]
  have hpad : (stop :: List.replicate (11 - (start :: kept ++ [stop]).length) stop).IsChain
      CurvePoint.Step := by
    rw [← List.replicate_succ]
    exact List.isChain_replicate_of_rel _ (CurvePoint.step_self hstop)
  refine validate_eq_ok.mpr ⟨?_, ?_, ?_⟩
  · rw [padded_points, List.isChain_split]
    exact ⟨hchain.1, hpad⟩
  · rw [← hstart]
    exact hfirst
  · rw [padded_last h List.getLast?_concat]
    exact hstop

/-- A valid curve that is serialized and read back is a valid curve with the rates it had,
even when its points after the first at full utilization were lost. -/
theorem serialized_curve_keeps_rates (curve : BorrowRateCurve)
    (hvalid : curve.validate = .ok ()) :
    ∃ curve', BorrowRateCurve.fromPoints curve.serialize = .ok curve' ∧
      curve'.validate = .ok () ∧ curve'.serialize = curve.serialize ∧
      ∀ u, curve'.getBorrowRate u = curve.getBorrowRate u := by
  obtain ⟨hchain, hfirst, hlast⟩ := validate_ok hvalid
  obtain ⟨heq, -, hgetLast⟩ := points_eq curve
  have hmax : ∃ p ∈ curve.points, p.key = MAX_UTILIZATION_RATE_BPS := by
    refine ⟨curve.last, ?_, hlast⟩
    rw [← heq, ← hgetLast (List.cons_ne_nil _ _)]
    exact List.getLast_mem _
  obtain ⟨kept, stop, rest, htake, hsplit, hstop, hkept⟩ := takeUntilEnd_spec hmax
  have hserialize : curve.serialize = kept ++ [stop] := htake
  cases kept with
  | nil =>
    -- the first point is at no utilization, so it is not the one at full utilization
    have hstart : curve.first = stop := by simp [BorrowRateCurve.first, hsplit]
    rw [hstart, hstop] at hfirst
    exact absurd hfirst (by decide)
  | cons start kept =>
    have hlen := curve.length_points
    rw [hsplit] at hlen
    have hfits : (start :: kept ++ [stop]).length ≤ 11 := by
      simp only [List.length_append, List.length_cons, List.length_nil] at hlen ⊢
      omega
    have hvalid' := padded_valid hvalid hsplit hstop hfits
    refine ⟨_, ?_, hvalid', ?_, ?_⟩
    · rw [hserialize]
      exact fromPoints_eq_ok (by simp) hfits List.getLast?_concat hstop
        hvalid'
    · rw [hserialize, BorrowRateCurve.serialize, padded_points]
      exact takeUntilEnd_append hkept hstop
    · intro u
      -- both curves find the position among the points that were kept
      have hkeptChain : (start :: (kept ++ [stop])).IsChain CurvePoint.Link := by
        rw [heq, hsplit, List.isChain_split] at hchain
        exact hchain.1
      have hstart : curve.first = start := by simp [BorrowRateCurve.first, hsplit]
      have hend : (start :: (kept ++ [stop])).getLast (List.cons_ne_nil _ _) = stop :=
        List.getLast_append_singleton (l := start :: kept) ..
      obtain ⟨ends, hends, -⟩ := segment_rising.bounds hkeptChain (by simp)
        (x := u) (by rw [← hstart, hfirst]; exact Nat.zero_le _)
        (by rw [hend, hstop]; exact utilizationBps_le u)
      have hfind (more : List CurvePoint) : Knots.enclosing CurvePoint.key (utilizationBps u)
          (start :: kept ++ stop :: more) = some ends := by
        rw [List.append_cons]
        exact Knots.enclosing_append hends
      apply getBorrowRate_congr
      rw [padded_points, hsplit, hfind, hfind]

theorem serialized_curve_keeps_rates_sample :
    ∃ curve', BorrowRateCurve.fromPoints sampleCurve.serialize = .ok curve' ∧
      curve'.validate = .ok () ∧ curve'.serialize = sampleCurve.serialize ∧
      ∀ u, curve'.getBorrowRate u = sampleCurve.getBorrowRate u :=
  serialized_curve_keeps_rates sampleCurve rfl

end Serialization

end SolanaAuditor.Klend
