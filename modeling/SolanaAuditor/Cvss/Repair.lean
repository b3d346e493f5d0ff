/- SolanaAuditor/Cvss/Repair
   digest: What recompute_cvss changes, and when it keeps the rejected findings. -/

import SolanaAuditor.Cvss.Recompute
import SolanaAuditor.Lib.Lists

set_option autoImplicit false
set_option relaxedAutoImplicit false

namespace SolanaAuditor.Cvss

open SolanaAuditor.Lib

/-- The score that the helper module gives the vector of a finding, if it has one. -/
def scored (finding : PyDict) : Option ℚ :=
  match finding.get "cvss_vector" with
  | .str v => SeverityCounts.computeCvssScore v
  | _ => none

def Rejected (finding : PyDict) : Prop :=
  ∃ v, finding.get "cvss_vector" = .str v ∧ SeverityCounts.computeCvssScore v = none

/-- The stored score is a number too far from the helper's score. -/
def mismatched (finding : PyDict) : Bool :=
  match scored finding, toFloat (finding.get "cvss") with
  | some score, .ok stored => farFrom stored score Triage.cvssRecomputeTolerance
  | _, _ => false

namespace Triage

/-- `recompute_cvss` with the helper module available. -/
def recompute (findings : List PyDict) : Py (List PyDict × Nat × Nat) :=
  recomputeCvss (some SeverityCounts.computeCvssScore) findings

theorem recomputeLoop_ok {helper : Option (String → Option ℚ)} {findings : List PyDict}
    {outs : List (PyDict × Bool × Bool)}
    (h : List.Forall₂ (fun f o => recomputeFinding helper f = .ok o) findings outs)
    (mismatches recomputed : Nat) :
    recomputeLoop helper findings mismatches recomputed =
      .ok (outs.map Prod.fst, mismatches + outs.countP (fun o => o.2.1),
        recomputed + outs.countP (fun o => o.2.2)) := by
  induction h generalizing mismatches recomputed with
  | nil => rfl
  | @cons f o findings outs hf _ ih =>
    obtain ⟨f', isMismatch, isRecomputed⟩ := o
    simp only [recomputeLoop, hf, ih, bind, Except.bind, pure, Except.pure, List.map_cons,
      List.countP_cons, Except.ok.injEq, Prod.mk.injEq, true_and]
    cases isMismatch <;> cases isRecomputed <;> simp <;> omega

theorem turns_of_recomputeLoop {helper : Option (String → Option ℚ)} {findings : List PyDict}
    {mismatches recomputed : Nat} {result : List PyDict × Nat × Nat}
    (h : recomputeLoop helper findings mismatches recomputed = .ok result) :
    ∃ outs : List (PyDict × Bool × Bool),
      List.Forall₂ (fun f o => recomputeFinding helper f = .ok o) findings outs := by
  induction findings generalizing mismatches recomputed result with
  | nil => exact ⟨[], .nil⟩
  | cons f findings ih =>
    cases hf : recomputeFinding helper f with
    | error e => simp [recomputeLoop, hf, bind, Except.bind] at h
    | ok o =>
      simp only [recomputeLoop, hf, bind, Except.bind] at h
      split at h
      · simp at h
      · next hrest =>
        obtain ⟨outs, houts⟩ := ih hrest
        exact ⟨o :: outs, .cons hf houts⟩

/-- The score of the helper module comes first. -/
theorem recomputeOne_of_score {v : String} {score : ℚ}
    (h : SeverityCounts.computeCvssScore v = some score) :
    recomputeOne v (some SeverityCounts.computeCvssScore) = some score := by
  simp [recomputeOne, h]

/-- What the turns of `recompute_cvss` return, one for each finding. -/
abbrev Turns (findings : List PyDict) (outs : List (PyDict × Bool × Bool)) : Prop :=
  List.Forall₂ (fun f o => recomputeFinding (some SeverityCounts.computeCvssScore) f = .ok o)
    findings outs

end Triage

section Turn

variable {f : PyDict}

theorem recomputeFinding_scored {score : ℚ} (hs : scored f = some score)
    (hrange : ∀ n, f.get "cvss" = .int n → n.natAbs < floatLimit) :
    Triage.recomputeFinding (some SeverityCounts.computeCvssScore) f =
      .ok (if isNumber (f.get "cvss") = true ∧ mismatched f = false then f
        else Dict.set f "cvss" (.float (.finite score)), mismatched f, true) := by
  have hone : ∃ v, f.get "cvss_vector" = .str v ∧
      SeverityCounts.computeCvssScore v = some score := by
    unfold scored at hs
    split at hs
    · next v hv => exact ⟨v, hv, hs⟩
    · simp at hs
  obtain ⟨v, hv, hscore⟩ := hone
  simp only [Triage.recomputeFinding, hv, Triage.recomputeOne, Option.bind_some, hscore]
  cases hn : isNumber (f.get "cvss") with
  | false => simp [mismatched, hs, toFloat_of_not_isNumber hn, pure, Except.pure]
  | true =>
    obtain ⟨x, hx⟩ := toFloat_of_isNumber hn hrange
    cases hfar : farFrom x score Triage.cvssRecomputeTolerance <;>
      simp [mismatched, hs, hx, hfar, bind, Except.bind, pure, Except.pure]

theorem recomputeFinding_overflow {score : ℚ} {v : String} {n : Int}
    (hv : f.get "cvss_vector" = .str v)
    (hs : Triage.recomputeOne v (some SeverityCounts.computeCvssScore) = some score)
    (hn : f.get "cvss" = .int n) (hover : ¬ n.natAbs < floatLimit) :
    Triage.recomputeFinding (some SeverityCounts.computeCvssScore) f = .error .overflowError := by
  simp [Triage.recomputeFinding, hv, hs, hn, isNumber, toFloat_overflow hover, bind, Except.bind]

/-- A turn that got a score counts the finding as recomputed, or raises. -/
theorem recomputeFinding_counts {score : ℚ} {v : String} {o : PyDict × Bool × Bool}
    (hv : f.get "cvss_vector" = .str v)
    (hs : Triage.recomputeOne v (some SeverityCounts.computeCvssScore) = some score)
    (ho : Triage.recomputeFinding (some SeverityCounts.computeCvssScore) f = .ok o) :
    o.2.2 = true := by
  simp only [Triage.recomputeFinding, hv, hs, bind, Except.bind, pure, Except.pure] at ho
  split at ho
  · rw [← Except.ok.inj ho]
  · split at ho
    · simp at ho
    · split at ho <;> rw [← Except.ok.inj ho]

theorem recomputeFinding_unscored (hs : scored f = none)
    (hnone : ∀ v, f.get "cvss_vector" = .str v → Triage.scoreOf v = none) :
    Triage.recomputeFinding (some SeverityCounts.computeCvssScore) f = .ok (f, false, false) := by
  unfold scored at hs
  split at hs
  · next v hv =>
    simp [Triage.recomputeFinding, hv, Triage.recomputeOne, hs, hnone v hv, pure, Except.pure]
  · next hother =>
    unfold Triage.recomputeFinding
    split
    · next v hv => exact absurd hv (hother v)
    · rfl

end Turn

/-- A finding whose vector, if it is a string, is no rejected vector that the parser of
triage-findings scores all the same, and whose stored integer has a float if it is needed. -/
def Repairable (finding : PyDict) : Prop :=
  ∀ v, finding.get "cvss_vector" = .str v →
    (Accepted v ∨ hasPrefix v = false ∨ ¬ PrivilegeKnown v) ∧
      (Accepted v → ∀ n, finding.get "cvss" = .int n → n.natAbs < floatLimit)

structure Kept (f f' : PyDict) : Prop where
  rejected : Rejected f → Dict.get? f' "cvss" = Dict.get? f "cvss"
  others : ∀ k, k ≠ "cvss" → Dict.get? f' k = Dict.get? f k

/-- recompute_cvss returns, keeps the score of every finding whose vector the helper rejects
and every other field of every finding, and counts the findings that the helper scores. -/
def KeepsRejected (findings : List PyDict) (result : Py (List PyDict × Nat × Nat)) : Prop :=
  ∃ findings', result =
      .ok (findings', findings.countP mismatched, findings.countP (fun f => (scored f).isSome)) ∧
    List.Forall₂ Kept findings findings'

theorem scored_eq_some {f : PyDict} {score : ℚ} :
    scored f = some score ↔ ∃ v, f.get "cvss_vector" = .str v ∧
      SeverityCounts.computeCvssScore v = some score := by
  unfold scored
  split
  · next v hv => simp [hv]
  · next hother => simpa using fun v hv => absurd hv (hother v)

theorem Repairable.turn {f : PyDict} (h : Repairable f) :
    ∃ f', Triage.recomputeFinding (some SeverityCounts.computeCvssScore) f =
      .ok (f', mismatched f, (scored f).isSome) ∧ Kept f f' := by
  cases hs : scored f with
  | some score =>
    obtain ⟨v, hv, hscore⟩ := scored_eq_some.mp hs
    have hacc : Accepted v := (SeverityCounts.exists_score_iff v).mp ⟨score, hscore⟩
    refine ⟨_, recomputeFinding_scored hs ((h v hv).2 hacc), ?_, ?_⟩
    · rintro ⟨w, hw, hnone⟩
      rw [hv, Json.str.injEq] at hw
      subst hw
      simp [hscore] at hnone
    · intro k hk
      split_ifs
      · rfl
      · exact Dict.get?_set_of_ne f _ hk
  | none =>
    refine ⟨f, ?_, fun _ => rfl, fun _ _ => rfl⟩
    have hm : mismatched f = false := by simp [mismatched, hs]
    rw [hm]
    refine recomputeFinding_unscored hs fun v hv => ?_
    have hrej : ¬ Accepted v := by
      intro hacc
      obtain ⟨score, hscore⟩ := (SeverityCounts.exists_score_iff v).mpr hacc
      simp [scored, hv, hscore] at hs
    rw [Triage.scoreOf_eq, if_neg]
    rintro ⟨hp, hk⟩
    rcases (h v hv).1 with h' | h' | h'
    · exact hrej h'
    · simp [hp] at h'
    · exact h' hk

/-- A turn that succeeds and counts only a scored finding was on a repairable one. -/
theorem repairable_of_turn {f : PyDict} {o : PyDict × Bool × Bool}
    (ho : Triage.recomputeFinding (some SeverityCounts.computeCvssScore) f = .ok o)
    (hc : o.2.2 = true → (scored f).isSome = true) : Repairable f := by
  intro v hv
  constructor
  · by_contra hbad
    simp only [not_or, Bool.not_eq_false, not_not] at hbad
    obtain ⟨hrej, hp, hk⟩ := hbad
    have hnone : SeverityCounts.computeCvssScore v = none :=
      Option.eq_none_iff_forall_ne_some.mpr fun s hs =>
        hrej ((SeverityCounts.exists_score_iff v).mp ⟨s, hs⟩)
    have hzero : Triage.recomputeOne v (some SeverityCounts.computeCvssScore) = some 0 := by
      simp [Triage.recomputeOne, hnone, Triage.scoreOf_eq, hp, hk]
    have hsome := hc (recomputeFinding_counts hv hzero ho)
    simp [scored, hv, hnone] at hsome
  · intro hacc n hn
    by_contra hover
    obtain ⟨score, hscore⟩ := (SeverityCounts.exists_score_iff v).mpr hacc
    have hone := Triage.recomputeOne_of_score hscore
    simp [recomputeFinding_overflow hv hone hn hover] at ho

/-- Equal counts over two related lists leave no pair with only the second one counted. -/
theorem forall₂_countP {α β : Type} {R : α → β → Prop} {p : α → Bool} {q : β → Bool}
    (hpq : ∀ a b, R a b → p a = true → q b = true) {l : List α} {m : List β}
    (h : List.Forall₂ R l m) :
    l.countP p ≤ m.countP q ∧
      (m.countP q = l.countP p → ∀ a ∈ l, ∃ b, R a b ∧ (q b = true → p a = true)) := by
  induction h with
  | nil => simp
  | @cons a b l m hab _ ih =>
    obtain ⟨hle, hall⟩ := ih
    have hstep := hpq a b hab
    simp only [List.countP_cons, List.forall_mem_cons]
    cases hpa : p a <;> cases hqb : q b
    · simp only [Bool.false_eq_true, if_false, Nat.add_zero]
      exact ⟨hle, fun he => ⟨⟨b, hab, by simp [hqb]⟩, hall he⟩⟩
    · simp only [Bool.false_eq_true, if_false, if_true]
      exact ⟨by omega, fun he => by omega⟩
    · exact absurd (hstep hpa) (by simp [hqb])
    · simp only [if_true]
      exact ⟨by omega, fun he => ⟨⟨b, hab, fun _ => trivial⟩, hall (by omega)⟩⟩

/-- Every turn over repairable findings succeeds, keeps its finding, and counts it rightly. -/
theorem turns_of_repairable {findings : List PyDict} (h : ∀ f ∈ findings, Repairable f) :
    ∃ outs, Triage.Turns findings outs ∧
      List.Forall₂ Kept findings (outs.map Prod.fst) ∧
      outs.countP (fun o => o.2.1) = findings.countP mismatched ∧
      outs.countP (fun o => o.2.2) = findings.countP (fun f => (scored f).isSome) := by
  induction findings with
  | nil => exact ⟨[], .nil, .nil, rfl, rfl⟩
  | cons f findings ih =>
    obtain ⟨f', hturn, hkept⟩ := (h f (by simp)).turn
    obtain ⟨outs, hturns, hkepts, hm, hr⟩ := ih fun g hg => h g (List.mem_cons_of_mem f hg)
    refine ⟨(f', mismatched f, (scored f).isSome) :: outs, .cons hturn hturns,
      .cons hkept hkepts, ?_, ?_⟩
    · rw [List.countP_cons, List.countP_cons, hm]
    · rw [List.countP_cons, List.countP_cons, hr]

/-- recompute_cvss keeps what it must exactly when every finding is repairable. -/
theorem recompute_keeps_rejected_iff (findings : List PyDict) :
    KeepsRejected findings (Triage.recompute findings) ↔ ∀ f ∈ findings, Repairable f := by
  constructor
  · rintro ⟨findings', hrun, -⟩
    obtain ⟨outs, hturns⟩ := Triage.turns_of_recomputeLoop hrun
    have hok := Triage.recomputeLoop_ok hturns 0 0
    have hcount : outs.countP (fun o => o.2.2) = findings.countP (fun f => (scored f).isSome) := by
      have h := Except.ok.inj (hok.symm.trans hrun)
      simpa using congrArg (fun r => r.2.2) h
    have hcounted : ∀ f o,
        Triage.recomputeFinding (some SeverityCounts.computeCvssScore) f = .ok o →
        (scored f).isSome = true → o.2.2 = true := by
      intro f o ho hs
      obtain ⟨score, hs⟩ := Option.isSome_iff_exists.mp hs
      obtain ⟨v, hv, hscore⟩ := scored_eq_some.mp hs
      exact recomputeFinding_counts hv (Triage.recomputeOne_of_score hscore) ho
    intro f hf
    obtain ⟨o, ho, hc⟩ := (forall₂_countP hcounted hturns).2 hcount f hf
    exact repairable_of_turn ho hc
  · intro h
    obtain ⟨outs, hturns, hkept, hm, hr⟩ := turns_of_repairable h
    refine ⟨outs.map Prod.fst, ?_, hkept⟩
    rw [Triage.recompute, Triage.recomputeCvss, Triage.recomputeLoop_ok hturns, hm, hr, Nat.zero_add,
      Nat.zero_add]

def truncatedVector : PyDict :=
  [("id", .str "CRIT-01"), ("cvss", .float (.finite (98 / 10))),
    ("cvss_vector", .str "CVSS:3.1/PR:N")]

/-- The score of a vector without all metrics but one falls to 0, counted as a mismatch. -/
theorem recompute_rescores_truncated_vector :
    ¬ KeepsRejected [truncatedVector] (Triage.recompute [truncatedVector]) ∧
      Triage.recompute [truncatedVector] =
        .ok ([Dict.set truncatedVector "cvss" (.float (.finite 0))], 1, 1) := by
  have hrun : Triage.recompute [truncatedVector] =
      .ok ([Dict.set truncatedVector "cvss" (.float (.finite 0))], 1, 1) := by
    have hzero : Triage.recomputeOne "CVSS:3.1/PR:N" (some SeverityCounts.computeCvssScore) =
        some 0 := by decide +kernel
    have hfar : farFrom (.finite (98 / 10)) 0 Triage.cvssRecomputeTolerance = true := by
      decide +kernel
    simp [Triage.recompute, Triage.recomputeCvss, Triage.recomputeLoop, Triage.recomputeFinding,
      truncatedVector, PyDict.get, hzero, isNumber, toFloat, hfar, bind, Except.bind, pure,
      Except.pure]
  refine ⟨?_, hrun⟩
  rintro ⟨findings', h, -⟩
  have hcount : [truncatedVector].countP mismatched = 0 := by decide +kernel
  rw [hrun, hcount] at h
  simp at h

end SolanaAuditor.Cvss
