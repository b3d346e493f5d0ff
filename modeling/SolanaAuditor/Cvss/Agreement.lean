/- SolanaAuditor/Cvss/Agreement
   digest: Where the scores of triage-findings.py and severity_counts.py agree. -/

import SolanaAuditor.Cvss.Components
import SolanaAuditor.Cvss.Triage

set_option autoImplicit false
set_option relaxedAutoImplicit false

namespace SolanaAuditor.Cvss

open SolanaAuditor.Lib SolanaAuditor.Lib.Decimal

/-- The privilege value that the parser of triage-findings takes from a part. -/
def privilegeOf : List Char → Option String
  | 'P' :: 'R' :: ':' :: rest => some (String.ofList rest)
  | 'P' :: 'R' :: c :: _ => if c ∈ ['N', 'L', 'H'] then some (String.ofList [c]) else none
  | _ => none

/-- The last of them, or the default `N`, is `N`, `L` or `H`. -/
def PrivilegeKnown (v : String) : Prop :=
  ((parts v).filterMap privilegeOf).getLast?.getD "N" ∈ ["N", "L", "H"]

namespace Triage

/-- What the parser never touches, and what it keeps valid. -/
structure Untouched (m : CvssMetric) : Prop where
  impact : m.C = "N" ∧ m.I = "N" ∧ m.A = "N"
  access : (∃ q, Dict.get? avTable m.AV = some q) ∧ (∃ q, Dict.get? acTable m.AC = some q) ∧
    ∃ q, Dict.get? uiTable m.UI = some q

theorem key_cases {k₀ k₁ : Char} {table : Table}
    (h : Dict.get? cvssValues (String.ofList [k₀, k₁]) = some table) :
    (k₀ = 'A' ∧ k₁ = 'V' ∧ table = avTable) ∨ (k₀ = 'A' ∧ k₁ = 'C' ∧ table = acTable) ∨
      (k₀ = 'U' ∧ k₁ = 'I' ∧ table = uiTable) ∨ (k₀ = 'P' ∧ k₁ = 'R' ∧ table = prTable) := by
  have hmem := Dict.mem_of_get? h
  have hkey : ∀ k : String, String.ofList [k₀, k₁] = k → [k₀, k₁] = k.toList := by
    rintro k rfl
    simp
  simp only [cvssValues, List.mem_cons, Prod.mk.injEq, List.not_mem_nil, or_false] at hmem
  rcases hmem with ⟨hk, ht⟩ | ⟨hk, ht⟩ | ⟨hk, ht⟩ | ⟨hk, ht⟩ | ⟨hk, -⟩ | ⟨hk, -⟩ | ⟨hk, -⟩ <;>
    have hk := hkey _ hk <;> simp at hk
  all_goals simp [hk, ht]

theorem privilegeOf_third {k₀ k₁ v : Char} {rest : List Char}
    (h : k₀ = 'P' → k₁ = 'R' → v = ':' → False) :
    privilegeOf (k₀ :: k₁ :: v :: rest) =
      if k₀ = 'P' ∧ k₁ = 'R' ∧ v ∈ ['N', 'L', 'H'] then some (String.ofList [v]) else none := by
  unfold privilegeOf
  split
  · simp_all
  · simp_all
  · next hother => rw [if_neg fun hpr => hother v rest (by rw [hpr.1, hpr.2.1])]

/-- The privilege table knows the third character exactly when it is `N`, `L` or `H`. -/
theorem prTable_third (v : Char) :
    (Dict.get? prTable (String.ofList [v])).isSome = true ↔ v ∈ ['N', 'L', 'H'] := by
  have hkey : ∀ c : Char, String.ofList [v] = String.ofList [c] ↔ v = c := by
    intro c
    exact ⟨fun h => by simpa using congrArg String.toList h, fun h => by rw [h]⟩
  rw [Dict.get?_isSome_iff]
  simpa [prTable] using or_congr (hkey 'N') (or_congr (hkey 'L') (hkey 'H'))

/-- One part sets the privilege, or nothing that the score depends on. -/
theorem parsePart_spec {m : CvssMetric} (h : Untouched m) (part : List Char) :
    Untouched (parsePart m part) ∧ (parsePart m part).PR = (privilegeOf part).getD m.PR := by
  fun_cases parsePart m part with
  | case1 rest => exact ⟨⟨h.impact, h.access⟩, by simp [privilegeOf]⟩
  | case2 rest => exact ⟨⟨h.impact, h.access⟩, by simp [privilegeOf]⟩
  | case3 k₀ k₁ v rest _ hcolon _ key hkey =>
    refine ⟨h, ?_⟩
    rw [privilegeOf_third hcolon, if_neg]
    · rfl
    · rintro ⟨rfl, rfl, -⟩
      exact absurd hkey (by decide)
  | case4 k₀ k₁ v rest _ hcolon _ key val table hkey hval =>
    obtain ⟨q, hq⟩ := Option.isSome_iff_exists.mp hval
    rw [privilegeOf_third hcolon]
    rcases key_cases hkey with ⟨rfl, rfl, rfl⟩ | ⟨rfl, rfl, rfl⟩ | ⟨rfl, rfl, rfl⟩ |
      ⟨rfl, rfl, rfl⟩
    · exact ⟨⟨h.impact, ⟨q, hq⟩, h.access.2⟩, rfl⟩
    · exact ⟨⟨h.impact, h.access.1, ⟨q, hq⟩, h.access.2.2⟩, rfl⟩
    · exact ⟨⟨h.impact, h.access.1, h.access.2.1, ⟨q, hq⟩⟩, rfl⟩
    · refine ⟨⟨h.impact, h.access⟩, ?_⟩
      rw [if_pos ⟨rfl, rfl, (prTable_third v).mp hval⟩]
      rfl
  | case5 k₀ k₁ v rest _ hcolon _ key val table hkey hval =>
    refine ⟨h, ?_⟩
    rw [privilegeOf_third hcolon, if_neg]
    · rfl
    · rintro ⟨rfl, rfl, hv⟩
      have htable : table = prTable := by simpa using key_cases hkey
      subst htable
      exact hval ((prTable_third v).mpr hv)
  | case6 k₀ k₁ v rest _ hcolon hv =>
    refine ⟨h, ?_⟩
    rw [privilegeOf_third hcolon, if_neg]
    · rfl
    · rintro ⟨-, -, hmem⟩
      exact hv (List.mem_append_left ['A', 'R', 'P', 'C'] hmem)
  | case7 part hS hPR hthird =>
    refine ⟨h, ?_⟩
    have hnone : privilegeOf part = none := by
      unfold privilegeOf
      split
      · exact (hPR _ rfl).elim
      · exact (hthird _ _ _ _ rfl).elim
      · rfl
    rw [hnone]
    rfl

/-- All parts set the privilege to the last value that one of them gives. -/
theorem foldl_parsePart (ps : List (List Char)) {m : CvssMetric} (h : Untouched m) :
    Untouched (ps.foldl parsePart m) ∧
      (ps.foldl parsePart m).PR = (ps.filterMap privilegeOf).getLast?.getD m.PR := by
  induction ps generalizing m with
  | nil => exact ⟨h, rfl⟩
  | cons part ps ih =>
    obtain ⟨hu, hpr⟩ := parsePart_spec h part
    obtain ⟨hu', hpr'⟩ := ih hu
    refine ⟨hu', ?_⟩
    rw [List.foldl_cons, hpr', hpr]
    cases hq : privilegeOf part with
    | none => rw [List.filterMap_cons_none hq]; rfl
    | some y => rw [List.filterMap_cons_some hq, List.getLast?_cons]; rfl

theorem untouched_default : Untouched {} :=
  ⟨⟨rfl, rfl, rfl⟩, ⟨85 / 100, rfl⟩, ⟨77 / 100, rfl⟩, ⟨85 / 100, rfl⟩⟩

/-- The impact metrics stay `N`, so the score is 0 or there is none. -/
theorem computeCvssScore_untouched {m : CvssMetric} (h : Untouched m) :
    computeCvssScore m = if m.PR ∈ ["N", "L", "H"] then some 0 else none := by
  obtain ⟨⟨hc, hi, ha⟩, ⟨av, hav⟩, ⟨ac, hac⟩, ⟨ui, hui⟩⟩ := h
  have hN : Dict.get? impactTable "N" = some 0 := rfl
  have hkeys : (Dict.get? prTable m.PR).isSome = true ↔ m.PR ∈ ["N", "L", "H"] :=
    Dict.get?_isSome_iff
  have hzero : impactSubScore 0 0 0 = 0 := by norm_num [impactSubScore]
  cases hpr : Dict.get? prTable m.PR with
  | none =>
    rw [hpr] at hkeys
    rw [if_neg (fun hm => by simpa using hkeys.mpr hm)]
    simp [computeCvssScore, hav, hac, hui, hpr]
  | some pr =>
    rw [if_pos (hkeys.mp (by rw [hpr]; rfl))]
    simp [computeCvssScore, hav, hac, hui, hpr, hc, hi, ha, hN, baseScore, hzero, roundTenth_zero]

end Triage

instance (v : String) : Decidable (PrivilegeKnown v) := inferInstanceAs (Decidable (_ ∈ _))

/-- triage-findings by itself gives every vector with the prefix and a known privilege the
score 0, and no other vector a score. -/
theorem Triage.scoreOf_eq (v : String) :
    Triage.scoreOf v = if hasPrefix v = true ∧ PrivilegeKnown v then some 0 else none := by
  obtain ⟨hu, hpr⟩ := Triage.foldl_parsePart (parts v) Triage.untouched_default
  by_cases hp : hasPrefix v = true
  · simp only [Triage.scoreOf, Triage.parseCvssVector, hp, if_true, Option.bind_some, true_and,
      Triage.computeCvssScore_untouched hu, hpr]
    rfl
  · simp [Triage.scoreOf, Triage.parseCvssVector, hp]

theorem component_eq {part : List Char} {k x : String} (h : component part = some (k, x)) :
    part = k.toList ++ ':' :: x.toList := by
  have hsplit : [':'].intercalate (part.splitOn ':') = part := List.intercalate_splitOn ':'
  unfold component at h
  split at h
  · next k' x' heq =>
    rw [Option.some.injEq, Prod.mk.injEq] at h
    rw [heq] at hsplit
    simpa [← h.1, ← h.2, List.intercalate] using hsplit.symm
  · simp at h

/-- A `PR` component gives its value; any other component gives `N`, `L`, `H` or nothing. -/
theorem privilegeOf_component {part : List Char} {k x : String}
    (h : component part = some (k, x)) :
    (k = "PR" ∧ privilegeOf part = some x) ∨
      (k ≠ "PR" ∧ ∀ y, privilegeOf part = some y → y ∈ ["N", "L", "H"]) := by
  by_cases hk : k = "PR"
  · subst hk
    rw [component_eq h]
    exact Or.inl ⟨rfl, by simp [privilegeOf]⟩
  · refine Or.inr ⟨hk, fun y hy => ?_⟩
    unfold privilegeOf at hy
    split at hy
    · next rest =>
      have hsplit : ('P' :: 'R' :: ':' :: rest).splitOn ':' = ['P', 'R'] :: rest.splitOn ':' :=
        List.splitOn_append_cons_self_of_not_mem (by decide : ':' ∉ ['P', 'R']) rest
      rw [component, hsplit] at h
      split at h
      · next k' x' heq =>
        rw [Option.some.injEq, Prod.mk.injEq] at h
        exact absurd (h.1.symm.trans (congrArg String.ofList (List.cons.inj heq).1.symm)) hk
      · simp at h
    · next c rest =>
      split_ifs at hy with hc
      rw [Option.some.injEq] at hy
      subst hy
      simp only [List.mem_cons, List.not_mem_nil, or_false] at hc
      rcases hc with rfl | rfl | rfl <;> decide
    · simp at hy

/-- Both parsers see the last `PR:` component of a vector, unless a later part that is no
`PR:` component sets the privilege; then it sets it to `N`, `L` or `H`. -/
theorem privilegeKnown_of_components {v : String}
    (hcomp : ∀ part ∈ parts v, (component part).isSome = true)
    (hpr : ∃ x ∈ ["N", "L", "H"], lastValue v "PR" = some x) : PrivilegeKnown v := by
  suffices h : ∀ ps : List (List Char), (∀ part ∈ ps, (component part).isSome = true) →
      (∀ x, ((ps.filterMap component).filter (fun e => decide (e.1 = "PR"))).getLast?.map
        Prod.snd = some x → x ∈ ["N", "L", "H"]) →
      (ps.filterMap privilegeOf).getLast?.getD "N" ∈ ["N", "L", "H"] by
    obtain ⟨x, hx, hlast⟩ := hpr
    refine h (parts v) hcomp fun y hy => ?_
    have hxy : x = y := Option.some.inj (hlast.symm.trans hy)
    exact hxy ▸ hx
  intro ps
  induction ps using List.reverseRecOn with
  | nil => intro _ _; decide
  | append_singleton ps part ih =>
    intro hcomp hlast
    obtain ⟨⟨k, x⟩, hc⟩ := Option.isSome_iff_exists.mp (hcomp part (by simp))
    rw [List.filterMap_append] at hlast ⊢
    rcases privilegeOf_component hc with ⟨rfl, hp⟩ | ⟨hk, hp⟩
    · rw [List.filterMap_cons_some hp, List.filterMap_nil, List.getLast?_concat]
      rw [List.filterMap_cons_some hc] at hlast
      exact hlast x (by simp)
    · rw [List.filterMap_cons_some hc] at hlast
      cases hq : privilegeOf part with
      | some y =>
        rw [List.filterMap_cons_some hq, List.filterMap_nil, List.getLast?_concat]
        exact hp y hq
      | none =>
        rw [List.filterMap_cons_none hq, List.filterMap_nil, List.append_nil]
        refine ih (fun p hpmem => hcomp p (List.mem_append_left _ hpmem)) fun z hz => hlast z ?_
        rw [List.filter_append, List.filter_cons_of_neg (by simpa using hk)]
        simpa using hz

theorem Accepted.privilegeKnown {v : String} (h : Accepted v) : PrivilegeKnown v :=
  privilegeKnown_of_components h.2.1 (h.2.2 ("PR", ["N", "L", "H"]) (by simp [metrics]))

/-- The two scripts agree on a vector exactly when it lacks the prefix, or is accepted and
has no impact, or is rejected and its last privilege value is not `N`, `L` or `H`. -/
theorem scores_agree_iff (v : String) :
    Triage.scoreOf v = SeverityCounts.computeCvssScore v ↔
      hasPrefix v = false ∨ (Accepted v ∧ NoImpact v) ∨ (¬ Accepted v ∧ ¬ PrivilegeKnown v) := by
  rw [Triage.scoreOf_eq]
  by_cases hacc : Accepted v
  · obtain ⟨s, hs⟩ := (SeverityCounts.exists_score_iff v).mpr hacc
    rw [hs, if_pos ⟨hacc.1, hacc.privilegeKnown⟩, Option.some.injEq, eq_comm,
      SeverityCounts.score_eq_zero_iff hs]
    simp [hacc, hacc.1]
  · have hnone : SeverityCounts.computeCvssScore v = none :=
      Option.eq_none_iff_forall_ne_some.mpr fun s hs =>
        hacc ((SeverityCounts.exists_score_iff v).mp ⟨s, hs⟩)
    cases hp : hasPrefix v <;> by_cases hk : PrivilegeKnown v <;> simp [hnone, hacc, hk]

def fullImpact : String := "CVSS:3.1/AV:N/AC:L/PR:N/UI:N/S:U/C:H/I:H/A:H"

/-- Full impact over the network: 0 by the one script, 9.8 by the other. -/
theorem scores_differ_on_full_impact :
    Triage.scoreOf fullImpact ≠ SeverityCounts.computeCvssScore fullImpact ∧
      Triage.scoreOf fullImpact = some 0 ∧
      SeverityCounts.computeCvssScore fullImpact = some (98 / 10) := by
  refine ⟨?_, ?_, ?_⟩ <;> decide +kernel

end SolanaAuditor.Cvss
