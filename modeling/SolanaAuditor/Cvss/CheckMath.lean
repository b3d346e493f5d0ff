/- SolanaAuditor/Cvss/CheckMath
   digest: The tolerance band between recompute_cvss and check_cvss_math. -/

import SolanaAuditor.Cvss.Repair

set_option autoImplicit false
set_option relaxedAutoImplicit false

namespace SolanaAuditor.Cvss

open SolanaAuditor.Lib

theorem SeverityCounts.checkCvssMath_eq_zero (findings : List PyDict) :
    checkCvssMath findings = .ok 0 ↔ ∀ f ∈ findings, checkFinding f = .ok [] := by
  have hloop : ∀ fs : List PyDict, checkLoop fs = .ok [] ↔ ∀ f ∈ fs, checkFinding f = .ok [] := by
    intro fs
    induction fs with
    | nil => simp [checkLoop, pure, Except.pure]
    | cons f fs ih =>
      rw [List.forall_mem_cons, ← ih]
      cases hf : checkFinding f with
      | error e => simp [checkLoop, hf, bind, Except.bind]
      | ok rows =>
        cases hfs : checkLoop fs with
        | error e => simp [checkLoop, hf, hfs, bind, Except.bind]
        | ok rest => simp [checkLoop, hf, hfs, bind, Except.bind, pure, Except.pure]
  rw [← hloop]
  cases hl : checkLoop findings with
  | error e => simp [checkCvssMath, hl, bind, Except.bind]
  | ok rows => cases rows <;> simp [checkCvssMath, hl, bind, Except.bind, pure, Except.pure]

/-- A finding without a vector, or with one that severity_counts.py scores. -/
def Scorable (f : PyDict) : Prop :=
  Dict.get? f "cvss_vector" = none ∨ ∃ score, scored f = some score

/-- A stored integer has a float. -/
def HasFloat (f : PyDict) : Prop := ∀ n, f.get "cvss" = .int n → n.natAbs < floatLimit

/-- The stored score has a float, and lies outside the band of those that recompute_cvss
keeps and check_cvss_math rejects. -/
def OutsideBand (f : PyDict) : Prop :=
  ∀ score, scored f = some score →
    HasFloat f ∧ ∀ x, toFloat (f.get "cvss") = .ok (.finite x) →
      |x - score| ≤ SeverityCounts.cvssScoreTolerance ∨ Triage.cvssRecomputeTolerance < |x - score|

/-- recompute_cvss returns, its result passes check_cvss_math, and a second run reports no
mismatch and changes nothing. -/
def Repaired (findings : List PyDict) : Prop :=
  ∃ findings' mismatches recomputed,
    Triage.recompute findings = .ok (findings', mismatches, recomputed) ∧
    SeverityCounts.checkCvssMath findings' = .ok 0 ∧
    ∃ recomputed', Triage.recompute findings' = .ok (findings', 0, recomputed')

section Turn

variable {f : PyDict} {score : ℚ}

theorem get?_of_get {k : String} {v : Json} (h : f.get k = v) (hv : v ≠ .null) :
    Dict.get? f k = some v := by
  cases hd : Dict.get? f k with
  | none =>
    rw [PyDict.get, hd] at h
    exact absurd h.symm hv
  | some w =>
    rw [PyDict.get, hd] at h
    exact congrArg some h

theorem get_set_self (k : String) (v : Json) : PyDict.get (Dict.set f k v) k = v := by
  simp [PyDict.get]

theorem scored_set_cvss (v : Json) : scored (Dict.set f "cvss" v) = scored f := by
  have h : PyDict.get (Dict.set f "cvss" v) "cvss_vector" = f.get "cvss_vector" := by
    simp [PyDict.get, Dict.get?_set_of_ne f v (by decide : "cvss_vector" ≠ "cvss")]
  simp [scored, h]

theorem farFrom_self {tolerance : ℚ} (h : 0 ≤ tolerance) :
    farFrom (.finite score) score tolerance = false := by
  simp [farFrom, h]

theorem checkFinding_scored {x : FloatValue} (hs : scored f = some score)
    (hx : toFloat (f.get "cvss") = .ok x) :
    SeverityCounts.checkFinding f = .ok (
      if farFrom x score SeverityCounts.cvssScoreTolerance then
        [.score (f.get "id") (f.get "cvss") score] else []) := by
  obtain ⟨v, hv, hscore⟩ := scored_eq_some.mp hs
  have hvec := get?_of_get hv (by simp)
  have hne : v ≠ "" := by
    rintro rfl
    have hnone : SeverityCounts.computeCvssScore "" = none := by decide
    rw [hnone] at hscore
    simp at hscore
  cases hc : f.get "cvss" with
  | null =>
    rw [hc] at hx
    simp [toFloat] at hx
  | bool | int | float | str | arr | obj =>
    rw [hc] at hx
    cases hfar : farFrom x score SeverityCounts.cvssScoreTolerance <;>
      simp [SeverityCounts.checkFinding, hvec, truthy, hne, hc, hscore, hx, hfar, bind,
        Except.bind, pure, Except.pure]

/-- What one turn makes of a finding with a score. -/
def turned (f : PyDict) (score : ℚ) : PyDict :=
  if isNumber (f.get "cvss") = true ∧ mismatched f = false then f
  else Dict.set f "cvss" (.float (.finite score))

/-- A turn leaves the finding alone and counts no mismatch. -/
def Settled (f : PyDict) : Prop :=
  ∃ counted, Triage.recomputeFinding (some SeverityCounts.computeCvssScore) f =
    .ok (f, false, counted)

/-- A finding set to its score passes the check and is left alone by a second turn. -/
theorem settled_of_set (hs : scored f = some score) :
    SeverityCounts.checkFinding (Dict.set f "cvss" (.float (.finite score))) = .ok [] ∧
      Settled (Dict.set f "cvss" (.float (.finite score))) := by
  have hs' : scored (Dict.set f "cvss" (.float (.finite score))) = some score := by
    rw [scored_set_cvss, hs]
  have hget := get_set_self (f := f) "cvss" (.float (.finite score))
  have hm : mismatched (Dict.set f "cvss" (.float (.finite score))) = false := by
    have hself : farFrom (.finite score) score Triage.cvssRecomputeTolerance = false :=
      farFrom_self (by norm_num [Triage.cvssRecomputeTolerance])
    simp [mismatched, hs', hget, toFloat, hself]
  constructor
  · rw [checkFinding_scored hs' (by rw [hget]; rfl),
      farFrom_self (by norm_num [SeverityCounts.cvssScoreTolerance])]
    rfl
  · refine ⟨true, ?_⟩
    rw [recomputeFinding_scored hs' (fun n hn => by simp [hget] at hn), hm, hget]
    rfl

/-- The check misses what the turn keeps in the band only. -/
theorem farFrom_tolerances {x : FloatValue}
    (h : farFrom x score Triage.cvssRecomputeTolerance = false) :
    farFrom x score SeverityCounts.cvssScoreTolerance = false ↔
      ∀ q, x = .finite q →
        |q - score| ≤ SeverityCounts.cvssScoreTolerance ∨
          Triage.cvssRecomputeTolerance < |q - score| := by
  cases x with
  | finite q =>
    have hnear : |q - score| ≤ Triage.cvssRecomputeTolerance := by simpa [farFrom] using h
    simp [farFrom, not_lt.mpr hnear]
  | posInf | negInf => simp [farFrom] at h
  | nan => simp [farFrom]

/-- A turn on a finding with a score settles it, and the check passes outside the band only. -/
theorem settled_of_scored (hs : scored f = some score) (hrange : HasFloat f) :
    Settled (turned f score) ∧
    (SeverityCounts.checkFinding (turned f score) = .ok [] ↔ OutsideBand f) := by
  by_cases hkept : isNumber (f.get "cvss") = true ∧ mismatched f = false
  · obtain ⟨hn, hm⟩ := hkept
    have hturned : turned f score = f := if_pos ⟨hn, hm⟩
    obtain ⟨x, hx⟩ := toFloat_of_isNumber hn hrange
    have hnear : farFrom x score Triage.cvssRecomputeTolerance = false := by
      simpa [mismatched, hs, hx] using hm
    rw [hturned]
    constructor
    · refine ⟨true, ?_⟩
      rw [recomputeFinding_scored hs hrange, if_pos ⟨hn, hm⟩, hm]
    · have hband : OutsideBand f ↔ farFrom x score SeverityCounts.cvssScoreTolerance = false := by
        rw [farFrom_tolerances hnear]
        simp [OutsideBand, hs, hx, hrange]
      rw [hband, checkFinding_scored hs hx]
      cases farFrom x score SeverityCounts.cvssScoreTolerance <;> simp
  · have hturned : turned f score = Dict.set f "cvss" (.float (.finite score)) := if_neg hkept
    rw [hturned]
    refine ⟨(settled_of_set hs).2, fun _ => ?_, fun _ => (settled_of_set hs).1⟩
    intro score' hs'
    obtain rfl : score = score' := Option.some.inj (hs.symm.trans hs')
    refine ⟨hrange, fun x hx => Or.inr ?_⟩
    have hn : isNumber (f.get "cvss") = true := by
      by_contra hn
      rw [toFloat_of_not_isNumber (Bool.eq_false_iff.mpr hn)] at hx
      simp at hx
    have hm : mismatched f = true := by
      by_contra hm
      exact hkept ⟨hn, Bool.eq_false_iff.mpr hm⟩
    simpa [mismatched, hs, hx, farFrom] using hm

theorem settled_of_noVector (h : Dict.get? f "cvss_vector" = none) :
    scored f = none ∧ SeverityCounts.checkFinding f = .ok [] ∧
      Triage.recomputeFinding (some SeverityCounts.computeCvssScore) f = .ok (f, false, false) := by
  have hget : f.get "cvss_vector" = .null := by simp [PyDict.get, h]
  have hs : scored f = none := by simp [scored, hget]
  refine ⟨hs, ?_, recomputeFinding_unscored hs fun v hv => by simp [hget] at hv⟩
  simp [SeverityCounts.checkFinding, h, truthy, pure, Except.pure]

/-- A turn that succeeds on a scorable finding leaves a settled one, which passes the check
exactly outside the band. -/
theorem Scorable.turn (hf : Scorable f) {o : PyDict × Bool × Bool}
    (ho : Triage.recomputeFinding (some SeverityCounts.computeCvssScore) f = .ok o) :
    Settled o.1 ∧ (SeverityCounts.checkFinding o.1 = .ok [] ↔ OutsideBand f) := by
  rcases hf with hnone | ⟨score, hs⟩
  · obtain ⟨hs, hcheck, hturn⟩ := settled_of_noVector hnone
    obtain rfl := Except.ok.inj (hturn.symm.trans ho)
    refine ⟨⟨false, hturn⟩, fun _ => ?_, fun _ => hcheck⟩
    intro score hscore
    simp [hs] at hscore
  · have hrange : HasFloat f := by
      intro n hn
      by_contra hover
      obtain ⟨v, hv, hscore⟩ := scored_eq_some.mp hs
      have hone := Triage.recomputeOne_of_score hscore
      simp [recomputeFinding_overflow hv hone hn hover] at ho
    obtain rfl := Except.ok.inj ((recomputeFinding_scored hs hrange).symm.trans ho)
    exact settled_of_scored hs hrange

theorem Scorable.exists_turn (hf : Scorable f) (hband : OutsideBand f) :
    ∃ o, Triage.recomputeFinding (some SeverityCounts.computeCvssScore) f = .ok o := by
  rcases hf with hnone | ⟨score, hs⟩
  · exact ⟨_, (settled_of_noVector hnone).2.2⟩
  · exact ⟨_, recomputeFinding_scored hs (hband score hs).1⟩

end Turn

theorem recompute_settled {findings : List PyDict} (h : ∀ f ∈ findings, Settled f) :
    ∃ recomputed, Triage.recompute findings = .ok (findings, 0, recomputed) := by
  have houts : ∃ outs, Triage.Turns findings outs ∧
      outs.map Prod.fst = findings ∧ outs.countP (fun o => o.2.1) = 0 := by
    induction findings with
    | nil => exact ⟨[], .nil, rfl, rfl⟩
    | cons f findings ih =>
      rw [List.forall_mem_cons] at h
      obtain ⟨counted, hf⟩ := h.1
      obtain ⟨outs, hturns, hmap, hcount⟩ := ih h.2
      exact ⟨(f, false, counted) :: outs, .cons hf hturns, by simp [hmap], by simpa using hcount⟩
  obtain ⟨outs, hturns, hmap, hcount⟩ := houts
  have hok := Triage.recomputeLoop_ok hturns 0 0
  rw [hmap, hcount] at hok
  exact ⟨_, hok⟩

/-- The turns over scorable findings settle them, and the check passes outside the band only. -/
theorem settled_of_turns {findings : List PyDict} {outs : List (PyDict × Bool × Bool)}
    (hturns : Triage.Turns findings outs) (h : ∀ f ∈ findings, Scorable f) :
    (∀ o ∈ outs, Settled o.1) ∧
      ((∀ o ∈ outs, SeverityCounts.checkFinding o.1 = .ok []) ↔ ∀ f ∈ findings, OutsideBand f) := by
  induction hturns with
  | nil => simp
  | @cons f o findings outs hf _ ih =>
    rw [List.forall_mem_cons] at h
    obtain ⟨hsettled, hcheck⟩ := h.1.turn hf
    obtain ⟨hsettleds, hchecks⟩ := ih h.2
    refine ⟨List.forall_mem_cons.mpr ⟨hsettled, hsettleds⟩, ?_⟩
    rw [List.forall_mem_cons, List.forall_mem_cons, hcheck, hchecks]

/-- Over scorable findings the scores are repaired exactly outside the band. -/
theorem recompute_repairs_iff (findings : List PyDict) (h : ∀ f ∈ findings, Scorable f) :
    Repaired findings ↔ ∀ f ∈ findings, OutsideBand f := by
  constructor
  · rintro ⟨findings', mismatches, recomputed, hrun, hcheck, -⟩
    obtain ⟨outs, hturns⟩ := Triage.turns_of_recomputeLoop hrun
    have hfst : findings' = outs.map Prod.fst := by
      have hok := Triage.recomputeLoop_ok hturns 0 0
      exact (congrArg Prod.fst (Except.ok.inj (hok.symm.trans hrun))).symm
    rw [SeverityCounts.checkCvssMath_eq_zero, hfst, List.forall_mem_map] at hcheck
    exact (settled_of_turns hturns h).2.mp hcheck
  · intro hband
    obtain ⟨outs, hturns⟩ := Lists.exists_forall₂_iff.mpr fun f hf => (h f hf).exists_turn (hband f hf)
    obtain ⟨hsettled, hcheck⟩ := settled_of_turns hturns h
    refine ⟨outs.map Prod.fst, _, _, Triage.recomputeLoop_ok hturns 0 0, ?_, ?_⟩
    · rw [SeverityCounts.checkCvssMath_eq_zero, List.forall_mem_map]
      exact hcheck.mpr hband
    · exact recompute_settled (List.forall_mem_map.mpr hsettled)

def fullImpactFinding (cvss : ℚ) : PyDict :=
  [("id", .str "CRIT-01"), ("cvss", .float (.finite cvss)), ("cvss_vector", .str fullImpact)]

theorem scored_fullImpactFinding (cvss : ℚ) : scored (fullImpactFinding cvss) = some (98 / 10) := by
  have hscore : SeverityCounts.computeCvssScore fullImpact = some (98 / 10) := by decide +kernel
  simpa [scored, fullImpactFinding, PyDict.get] using hscore

theorem scorable_fullImpactFinding (cvss : ℚ) : Scorable (fullImpactFinding cvss) :=
  Or.inr ⟨_, scored_fullImpactFinding cvss⟩

theorem recompute_repairs_iff_sample : Repaired [fullImpactFinding 5] := by
  refine (recompute_repairs_iff [fullImpactFinding 5] ?_).mpr ?_
  · simpa using scorable_fullImpactFinding 5
  · intro f hf score hs
    rw [List.mem_singleton] at hf
    subst hf
    rw [scored_fullImpactFinding, Option.some.injEq] at hs
    subst hs
    refine ⟨fun n hn => by simp [fullImpactFinding, PyDict.get] at hn, fun x hx => Or.inr ?_⟩
    have hx : (5 : ℚ) = x := by simpa [fullImpactFinding, PyDict.get, toFloat] using hx
    subst hx
    norm_num [Triage.cvssRecomputeTolerance]

/-- A stored 9.72 for a vector of 9.8 is kept by the repair and rejected by the check. -/
theorem recompute_keeps_score_in_band :
    (∀ f ∈ [fullImpactFinding (972 / 100)], Scorable f) ∧
      ¬ Repaired [fullImpactFinding (972 / 100)] ∧
      Triage.recompute [fullImpactFinding (972 / 100)] =
        .ok ([fullImpactFinding (972 / 100)], 0, 1) ∧
      SeverityCounts.checkCvssMath [fullImpactFinding (972 / 100)] = .ok 1 := by
  have hs := scored_fullImpactFinding (972 / 100)
  have hget : (fullImpactFinding (972 / 100)).get "cvss" = .float (.finite (972 / 100)) := rfl
  have hrange : HasFloat (fullImpactFinding (972 / 100)) := fun n hn => by simp [hget] at hn
  have hm : mismatched (fullImpactFinding (972 / 100)) = false := by
    have hnear : farFrom (.finite (972 / 100)) (98 / 10) Triage.cvssRecomputeTolerance = false := by
      decide +kernel
    simpa [mismatched, hs, hget, toFloat] using hnear
  have hturn := recomputeFinding_scored hs hrange
  rw [if_pos ⟨rfl, hm⟩, hm] at hturn
  have hrun : Triage.recompute [fullImpactFinding (972 / 100)] =
      .ok ([fullImpactFinding (972 / 100)], 0, 1) :=
    Triage.recomputeLoop_ok (.cons hturn .nil) 0 0
  have hfar : farFrom (.finite (972 / 100)) (98 / 10) SeverityCounts.cvssScoreTolerance = true := by
    decide +kernel
  have hcheck : SeverityCounts.checkCvssMath [fullImpactFinding (972 / 100)] = .ok 1 := by
    have hrow := checkFinding_scored (x := .finite (972 / 100)) hs rfl
    rw [if_pos hfar] at hrow
    simp [SeverityCounts.checkCvssMath, SeverityCounts.checkLoop, hrow, bind, Except.bind, pure,
      Except.pure]
  refine ⟨by simpa using scorable_fullImpactFinding (972 / 100), ?_, hrun, hcheck⟩
  rintro ⟨findings', mismatches, recomputed, hrun', hcheck', -⟩
  have hsame := Except.ok.inj (hrun.symm.trans hrun')
  rw [← (Prod.mk.inj hsame).1, hcheck] at hcheck'
  simp at hcheck'

end SolanaAuditor.Cvss
