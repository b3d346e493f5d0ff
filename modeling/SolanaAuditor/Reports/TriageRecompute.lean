/- SolanaAuditor/Reports/TriageRecompute
   digest: The findings that triage reads after recompute_cvss. -/

import SolanaAuditor.Cvss.Repair
import SolanaAuditor.Reports.TriageRows

set_option autoImplicit false
set_option relaxedAutoImplicit false

namespace SolanaAuditor.Reports.Triage

open SolanaAuditor.Lib

section Turn

variable (helper : Option (String → Option ℚ))

/-- The score that `recompute_cvss` finds for a finding. -/
def foundScore (f : PyDict) : Option ℚ :=
  match f.get "cvss_vector" with
  | .str vector => Cvss.Triage.recomputeOne vector helper
  | _ => none

/-- The finding with the score, unless it has one near it. -/
def rescored (f : PyDict) : PyDict :=
  match foundScore helper f with
  | none => f
  | some score =>
      match toFloat (f.get "cvss") with
      | .ok stored =>
          if farFrom stored score Cvss.Triage.cvssRecomputeTolerance then
            Dict.set f "cvss" (.float (.finite score))
          else f
      | .error _ => Dict.set f "cvss" (.float (.finite score))

/-- The finding as triage reads it. -/
def settled (recompute : Bool) (f : PyDict) : PyDict := if recompute then rescored helper f else f

/-- An integer cvss that is compared with a score has a float. -/
def Rescorable (f : PyDict) : Prop := (foundScore helper f).isSome = true → HasFloat f

variable {helper}

theorem hasFloat_iff {f : PyDict} :
    HasFloat f ↔ isNumber (f.get "cvss") = true → ∃ x, toFloat (f.get "cvss") = .ok x := by
  rw [HasFloat, toFloat_returns]
  constructor
  · intro h hnumber
    exact ⟨hnumber, h⟩
  · intro h n hn
    exact (h (by rw [hn]; rfl)).2 n hn

theorem recomputeFinding_ok {f : PyDict} {o : PyDict × Bool × Bool}
    (h : Cvss.Triage.recomputeFinding helper f = .ok o) :
    Rescorable helper f ∧ o.1 = rescored helper f := by
  unfold Cvss.Triage.recomputeFinding at h
  cases hvector : f.get "cvss_vector" with
  | str vector =>
    cases hone : Cvss.Triage.recomputeOne vector helper with
    | none =>
      simp only [hvector, hone] at h
      obtain rfl := Except.ok.inj h
      simp [Rescorable, rescored, foundScore, hvector, hone]
    | some score =>
      simp only [hvector, hone] at h
      cases hnumber : isNumber (f.get "cvss") with
      | false =>
        simp only [hnumber, Bool.not_false, if_true] at h
        obtain rfl := Except.ok.inj h
        have hfloat : HasFloat f := hasFloat_iff.mpr (by simp [hnumber])
        exact ⟨fun _ => hfloat, by
          simp only [rescored, foundScore, hvector, hone, toFloat_of_not_isNumber hnumber]⟩
      | true =>
        simp only [hnumber, Bool.not_true, Bool.false_eq_true, if_false, Py.bind_eq_ok] at h
        obtain ⟨stored, hstored, h⟩ := h
        have hfloat : HasFloat f := hasFloat_iff.mpr fun _ => ⟨stored, hstored⟩
        refine ⟨fun _ => hfloat, ?_⟩
        simp only [rescored, foundScore, hvector, hone, hstored]
        split_ifs at h ⊢ <;> exact (congrArg Prod.fst (Except.ok.inj h)).symm
  | null | bool | int | float | arr | obj =>
    simp only [hvector] at h
    obtain rfl := Except.ok.inj h
    simp [Rescorable, rescored, foundScore, hvector]

theorem recomputeFinding_returns {f : PyDict} (h : Rescorable helper f) :
    ∃ o, Cvss.Triage.recomputeFinding helper f = .ok o := by
  unfold Cvss.Triage.recomputeFinding
  cases hvector : f.get "cvss_vector" with
  | str vector =>
    cases hone : Cvss.Triage.recomputeOne vector helper with
    | none => exact ⟨(f, false, false), by simp only [hone]; rfl⟩
    | some score =>
      cases hnumber : isNumber (f.get "cvss") with
      | false => exact ⟨_, by simp only [hone, hnumber, Bool.not_false, if_true]; rfl⟩
      | true =>
        have hfloat : HasFloat f := h (by simp [foundScore, hvector, hone])
        obtain ⟨stored, hstored⟩ := hasFloat_iff.mp hfloat hnumber
        simp only [hone, hnumber, hstored, bind, Except.bind, Bool.not_true, Bool.false_eq_true,
          if_false]
        split_ifs
        · exact ⟨_, rfl⟩
        · exact ⟨_, rfl⟩
  | null | bool | int | float | arr | obj => exact ⟨_, rfl⟩

/-- Only the score of a finding changes. -/
theorem get?_rescored {f : PyDict} {k : String} (hk : k ≠ "cvss") :
    Dict.get? (rescored helper f) k = Dict.get? f k := by
  unfold rescored
  split
  · rfl
  · split
    · split_ifs
      · exact Dict.get?_set_of_ne f _ hk
      · rfl
    · exact Dict.get?_set_of_ne f _ hk

variable (helper) in
/-- The score is the stored one, or a float. -/
theorem cvss_rescored (f : PyDict) :
    (rescored helper f).get "cvss" = f.get "cvss" ∨
      ∃ score, foundScore helper f = some score ∧
        (rescored helper f).get "cvss" = .float (.finite score) := by
  have hset : ∀ score, PyDict.get (Dict.set f "cvss" (.float (.finite score))) "cvss" =
      .float (.finite score) := by
    intro score
    rw [PyDict.get, Dict.get?_set_self, Option.getD_some]
  unfold rescored
  split
  · exact .inl rfl
  · next score hscore =>
    split
    · split_ifs
      · exact .inr ⟨score, hscore, hset score⟩
      · exact .inl rfl
    · exact .inr ⟨score, hscore, hset score⟩

variable {recompute : Bool} {f : PyDict}

theorem get?_settled {k : String} (hk : k ≠ "cvss") :
    Dict.get? (settled helper recompute f) k = Dict.get? f k := by
  unfold settled
  split_ifs
  · exact get?_rescored hk
  · rfl

theorem field_settled {k : String} (default : Json) (hk : k ≠ "cvss") :
    field (settled helper recompute f) k default = field f k default := by
  rw [field, get?_settled hk, field]

theorem located_settled : Located (settled helper recompute f) ↔ Located f := by
  unfold Located PyDict.get
  rw [get?_settled (by decide)]

theorem finiteCvss_settled (h : FiniteCvss f) : FiniteCvss (settled helper recompute f) := by
  unfold settled
  split_ifs
  · rcases cvss_rescored helper f with hsame | ⟨score, -, hscore⟩
    · unfold FiniteCvss
      rw [hsame]
      exact h
    · exact .inr (.inr ⟨score, hscore⟩)
  · exact h

theorem hasFloat_settled (h : recompute = true → Rescorable helper f) :
    HasFloat (settled helper recompute f) ↔ HasFloat f := by
  unfold settled
  split_ifs with hrecompute
  · rcases cvss_rescored helper f with hsame | ⟨score, hfound, hscore⟩
    · unfold HasFloat
      rw [hsame]
    · refine iff_of_true (fun n hn => ?_) (h hrecompute (by simp [hfound]))
      simp [hscore] at hn
  · rfl

end Turn

section Runs

variable {text : PyText} {parseFloat : String → Option FloatValue}
  {helper : Option (String → Option ℚ)} {findings : List PyDict} {recompute : Bool}
  {minSeverity statusFilter : Option String}

theorem kept_settled :
    kept text minSeverity statusFilter (findings.map (settled helper recompute)) =
      (kept text minSeverity statusFilter findings).map (settled helper recompute) := by
  have hseverity : ∀ f, passesSeverity text minSeverity (settled helper recompute f) =
      passesSeverity text minSeverity f := by
    intro f
    have hrank : filteredRank text (settled helper recompute f) = filteredRank text f := by
      rw [filteredRank, field_settled _ (by decide), filteredRank]
    cases minSeverity <;> simp only [passesSeverity, hrank]
  have hstatus : ∀ f, passesStatus text statusFilter (settled helper recompute f) =
      passesStatus text statusFilter f := by
    intro f
    have hsame : filteredStatus text (settled helper recompute f) = filteredStatus text f := by
      rw [filteredStatus, field_settled _ (by decide), filteredStatus]
    cases statusFilter <;> simp only [passesStatus, hsame]
  simp only [kept, List.filter_map, Function.comp_def, hseverity, hstatus]

theorem recomputed_ok {findings' : List PyDict} {mismatches count : Nat}
    (h : recomputed helper recompute findings = .ok (findings', mismatches, count)) :
    (recompute = true → ∀ f ∈ findings, Rescorable helper f) ∧
      findings' = findings.map (settled helper recompute) := by
  cases recompute with
  | false =>
    obtain rfl := congrArg Prod.fst (Except.ok.inj h)
    exact ⟨by simp, (List.map_id' findings).symm⟩
  | true =>
    have hrun : Cvss.Triage.recomputeLoop helper findings 0 0 = .ok (findings', mismatches, count) :=
      h
    obtain ⟨outs, houts⟩ := Cvss.Triage.turns_of_recomputeLoop hrun
    have hmap := congrArg Prod.fst (Except.ok.inj
      ((Cvss.Triage.recomputeLoop_ok houts 0 0).symm.trans hrun))
    dsimp only at hmap
    subst hmap
    clear h hrun
    induction houts with
    | nil => simp
    | cons hturn _ ih =>
      obtain ⟨hrescorable, hrescored⟩ := recomputeFinding_ok hturn
      obtain ⟨hall, hmap⟩ := ih
      refine ⟨fun hrecompute => List.forall_mem_cons.mpr ⟨hrescorable, hall hrecompute⟩, ?_⟩
      rw [List.map_cons, List.map_cons, hmap, hrescored]
      rfl

theorem recomputed_returns (h : recompute = true → ∀ f ∈ findings, Rescorable helper f) :
    ∃ mismatches count, recomputed helper recompute findings =
      .ok (findings.map (settled helper recompute), mismatches, count) := by
  have hreturns : ∃ result, recomputed helper recompute findings = .ok result := by
    cases recompute with
    | false => exact ⟨_, rfl⟩
    | true =>
      obtain ⟨outs, houts⟩ := Lists.exists_forall₂_iff.mpr fun f hf =>
        recomputeFinding_returns (h rfl f hf)
      exact ⟨_, Cvss.Triage.recomputeLoop_ok houts 0 0⟩
  obtain ⟨⟨findings', mismatches, count⟩, hresult⟩ := hreturns
  refine ⟨mismatches, count, ?_⟩
  rw [← (recomputed_ok hresult).2, hresult]

/-- What triage returns comes from the settled findings that pass. -/
theorem triage_settled_ok {result : TriageReport × Nat × Nat}
    (h : triage text parseFloat helper findings minSeverity statusFilter recompute = .ok result) :
    (recompute = true → ∀ f ∈ findings, Rescorable helper f) ∧
      ∃ mismatches count rows,
        enrichAll text parseFloat ((kept text minSeverity statusFilter findings).map
          (settled helper recompute)) = .ok rows ∧
        result.1 = reportOf text (sortRows text rows) mismatches count := by
  obtain ⟨findings', mismatches, count, rows, hrecomputed, hrows, rfl⟩ := triage_ok_iff.mp h
  obtain ⟨hrescorable, rfl⟩ := recomputed_ok hrecomputed
  rw [kept_settled] at hrows
  exact ⟨hrescorable, mismatches, count, rows, hrows, rfl⟩

theorem triage_settled_returns {rows : List TriageEntry}
    (h : recompute = true → ∀ f ∈ findings, Rescorable helper f)
    (hrows : enrichAll text parseFloat ((kept text minSeverity statusFilter findings).map
      (settled helper recompute)) = .ok rows) :
    ∃ result mismatches count,
      triage text parseFloat helper findings minSeverity statusFilter recompute = .ok result ∧
        result.1 = reportOf text (sortRows text rows) mismatches count := by
  obtain ⟨mismatches, count, hrecomputed⟩ := recomputed_returns h
  rw [← kept_settled] at hrows
  exact ⟨_, mismatches, count,
    triage_ok_iff.mpr ⟨_, mismatches, count, rows, hrecomputed, hrows, rfl⟩, rfl⟩

variable (text parseFloat) in
theorem enrichAll_settled (hcvss : ∀ f ∈ findings, FiniteCvss f)
    (hrescorable : recompute = true → ∀ f ∈ findings, Rescorable helper f)
    (h : ∀ f ∈ findings, Located f ∧ HasFloat f) :
    enrichAll text parseFloat (findings.map (settled helper recompute)) =
      .ok ((findings.map (settled helper recompute)).map (rowFor text)) := by
  refine enrichAll_eq ?_ ?_
  · rw [List.forall_mem_map]
    exact fun f hf => finiteCvss_settled (hcvss f hf)
  · rw [List.forall_mem_map]
    intro f hf
    obtain ⟨hlocated, hfloat⟩ := h f hf
    exact ⟨located_settled.mpr hlocated,
      (hasFloat_settled fun hr => hrescorable hr f hf).mpr hfloat⟩

variable (text parseFloat) in
theorem settled_returns_iff (hcvss : ∀ f ∈ findings, FiniteCvss f)
    (hrescorable : recompute = true → ∀ f ∈ findings, Rescorable helper f) :
    (∃ rows, enrichAll text parseFloat (findings.map (settled helper recompute)) = .ok rows) ↔
      ∀ f ∈ findings, Located f ∧ HasFloat f := by
  have hfinite : ∀ f ∈ findings.map (settled helper recompute), FiniteCvss f := by
    rw [List.forall_mem_map]
    exact fun f hf => finiteCvss_settled (hcvss f hf)
  rw [enrichAll_returns_iff text parseFloat hfinite, List.forall_mem_map]
  refine forall₂_congr fun f hf => ?_
  rw [located_settled, hasFloat_settled fun hr => hrescorable hr f hf]

end Runs

end SolanaAuditor.Reports.Triage
