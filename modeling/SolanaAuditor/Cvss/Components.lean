/- SolanaAuditor/Cvss/Components
   digest: The components of a vector, and the vectors that severity_counts.py scores. -/

import SolanaAuditor.Cvss.SeverityCounts

set_option autoImplicit false
set_option relaxedAutoImplicit false

namespace SolanaAuditor.Cvss

open SolanaAuditor.Lib SolanaAuditor.Lib.Decimal

/-- A part with exactly one colon: a key and a value. -/
def component (part : List Char) : Option (String × String) :=
  match part.splitOn ':' with
  | [k, v] => some (String.ofList k, String.ofList v)
  | _ => none

/-- The last value that the components of a vector give to a key. -/
def lastValue (v key : String) : Option String :=
  (((parts v).filterMap component).filter (fun e => decide (e.1 = key))).getLast?.map Prod.snd

def metrics : List (String × List String) :=
  [("AV", ["N", "A", "L", "P"]), ("AC", ["L", "H"]), ("UI", ["N", "R"]), ("PR", ["N", "L", "H"]),
    ("C", ["H", "L", "N"]), ("I", ["H", "L", "N"]), ("A", ["H", "L", "N"])]

/-- The vector has the prefix, consists of components, and gives each mandatory metric one
of its values. -/
def Accepted (v : String) : Prop :=
  hasPrefix v = true ∧ (∀ part ∈ parts v, (component part).isSome = true) ∧
    ∀ m ∈ metrics, ∃ x ∈ m.2, lastValue v m.1 = some x

def NoImpact (v : String) : Prop :=
  lastValue v "C" = some "N" ∧ lastValue v "I" = some "N" ∧ lastValue v "A" = some "N"

namespace SeverityCounts

theorem parseParts_eq (out : List (String × String)) (ps : List (List Char)) :
    parseParts out ps =
      if ∀ part ∈ ps, (component part).isSome = true then
        some ((ps.filterMap component).foldl (fun d e => Dict.set d e.1 e.2) out)
      else none := by
  induction ps generalizing out with
  | nil => simp [parseParts]
  | cons part ps ih =>
    cases hc : component part with
    | none =>
      have hnone : parseParts out (part :: ps) = none := by
        simp only [parseParts]
        unfold component at hc
        split at hc <;> simp_all
      simp [hnone, hc]
    | some e =>
      have hstep : parseParts out (part :: ps) = parseParts (Dict.set out e.1 e.2) ps := by
        simp only [parseParts]
        unfold component at hc
        split at hc
        · rw [Option.some.injEq] at hc
          subst hc
          simp_all
        · simp at hc
      rw [hstep, ih]
      simp [hc]

theorem parseCvssVector_eq_some {v : String} {m : List (String × String)}
    (h : parseCvssVector v = some m) :
    hasPrefix v = true ∧ (∀ part ∈ parts v, (component part).isSome = true) ∧
      ∀ key, Dict.get? m key = lastValue v key := by
  rw [parseCvssVector, parseParts_eq] at h
  split_ifs at h with hp hc
  rw [Option.some.injEq] at h
  subst h
  exact ⟨hp, hc, fun key => by rw [Dict.get?_foldl_set]; simp [lastValue]⟩

theorem exists_parseCvssVector {v : String} (hp : hasPrefix v = true)
    (hc : ∀ part ∈ parts v, (component part).isSome = true) :
    ∃ m, parseCvssVector v = some m := by
  rw [parseCvssVector, if_pos hp, parseParts_eq, if_pos hc]
  exact ⟨_, rfl⟩

/-- Whatever the scope, the privilege table has the same keys. -/
theorem prTable_keys (scope : String) : (prTable scope).map Prod.fst = ["N", "L", "H"] := by
  by_cases h : scope = "U" <;> simp [prTable, h]

/-- A metric is found in its table exactly when its last value is one of the table's keys. -/
theorem lookup_isSome_iff (table : Table) {values : List String}
    (hkeys : table.map Prod.fst = values) {m : List (String × String)} {key : String} :
    (∃ q, lookup table m key = some q) ↔ ∃ x ∈ values, Dict.get? m key = some x := by
  subst hkeys
  constructor
  · rintro ⟨q, hq⟩
    obtain ⟨x, hx, hq⟩ := Option.bind_eq_some_iff.mp hq
    exact ⟨x, Dict.get?_isSome_iff.mp (by rw [hq]; rfl), hx⟩
  · rintro ⟨x, hx, hm⟩
    obtain ⟨q, hq⟩ := Option.isSome_iff_exists.mp (Dict.get?_isSome_iff.mpr hx)
    exact ⟨q, by rw [lookup, hm]; exact hq⟩

theorem computeCvssScore_eq_some {v : String} {s : ℚ} :
    computeCvssScore v = some s ↔ ∃ m av ac ui pr c i a, parseCvssVector v = some m ∧
      lookup avTable m "AV" = some av ∧ lookup acTable m "AC" = some ac ∧
      lookup uiTable m "UI" = some ui ∧
      lookup (prTable ((Dict.get? m "S").getD "U")) m "PR" = some pr ∧
      lookup impactTable m "C" = some c ∧ lookup impactTable m "I" = some i ∧
      lookup impactTable m "A" = some a ∧
      baseScore ((Dict.get? m "S").getD "U") av ac pr ui c i a = s := by
  constructor
  · intro h
    obtain ⟨m, hm, h⟩ := Option.bind_eq_some_iff.mp h
    obtain ⟨av, hav, h⟩ := Option.bind_eq_some_iff.mp h
    obtain ⟨ac, hac, h⟩ := Option.bind_eq_some_iff.mp h
    obtain ⟨ui, hui, h⟩ := Option.bind_eq_some_iff.mp h
    obtain ⟨pr, hpr, h⟩ := Option.bind_eq_some_iff.mp h
    obtain ⟨c, hc, h⟩ := Option.bind_eq_some_iff.mp h
    obtain ⟨i, hi, h⟩ := Option.bind_eq_some_iff.mp h
    obtain ⟨a, ha, h⟩ := Option.bind_eq_some_iff.mp h
    exact ⟨m, av, ac, ui, pr, c, i, a, hm, hav, hac, hui, hpr, hc, hi, ha, Option.some.inj h⟩
  · rintro ⟨m, av, ac, ui, pr, c, i, a, hm, hav, hac, hui, hpr, hc, hi, ha, rfl⟩
    simp [computeCvssScore, hm, hav, hac, hui, hpr, hc, hi, ha]

/-- The vectors with a score are the accepted ones. -/
theorem exists_score_iff (v : String) : (∃ s, computeCvssScore v = some s) ↔ Accepted v := by
  constructor
  · rintro ⟨s, hs⟩
    obtain ⟨m, av, ac, ui, pr, c, i, a, hm, hav, hac, hui, hpr, hc, hi, ha, -⟩ :=
      computeCvssScore_eq_some.mp hs
    obtain ⟨hp, hcomp, hlast⟩ := parseCvssVector_eq_some hm
    refine ⟨hp, hcomp, ?_⟩
    simp only [metrics, List.forall_mem_cons, List.not_mem_nil,
      IsEmpty.forall_iff, implies_true, and_true, ← hlast]
    exact ⟨(lookup_isSome_iff _ rfl).mp ⟨av, hav⟩, (lookup_isSome_iff _ rfl).mp ⟨ac, hac⟩,
      (lookup_isSome_iff _ rfl).mp ⟨ui, hui⟩, (lookup_isSome_iff _ (prTable_keys _)).mp ⟨pr, hpr⟩,
      (lookup_isSome_iff _ rfl).mp ⟨c, hc⟩, (lookup_isSome_iff _ rfl).mp ⟨i, hi⟩,
      (lookup_isSome_iff _ rfl).mp ⟨a, ha⟩⟩
  · rintro ⟨hp, hcomp, hvalues⟩
    obtain ⟨m, hm⟩ := exists_parseCvssVector hp hcomp
    obtain ⟨-, -, hlast⟩ := parseCvssVector_eq_some hm
    simp only [metrics, List.forall_mem_cons, List.not_mem_nil,
      IsEmpty.forall_iff, implies_true, and_true, ← hlast] at hvalues
    obtain ⟨hav, hac, hui, hpr, hc, hi, ha⟩ := hvalues
    obtain ⟨av, hav⟩ := (lookup_isSome_iff avTable rfl).mpr hav
    obtain ⟨ac, hac⟩ := (lookup_isSome_iff acTable rfl).mpr hac
    obtain ⟨ui, hui⟩ := (lookup_isSome_iff uiTable rfl).mpr hui
    obtain ⟨pr, hpr⟩ := (lookup_isSome_iff _ (prTable_keys ((Dict.get? m "S").getD "U"))).mpr hpr
    obtain ⟨c, hc⟩ := (lookup_isSome_iff impactTable rfl).mpr hc
    obtain ⟨i, hi⟩ := (lookup_isSome_iff impactTable rfl).mpr hi
    obtain ⟨a, ha⟩ := (lookup_isSome_iff impactTable rfl).mpr ha
    exact ⟨_, computeCvssScore_eq_some.mpr
      ⟨m, av, ac, ui, pr, c, i, a, hm, hav, hac, hui, hpr, hc, hi, ha, rfl⟩⟩

theorem mem_of_lookup {table : Table} {m : List (String × String)} {key : String} {q : ℚ}
    (h : lookup table m key = some q) : ∃ x, Dict.get? m key = some x ∧ (x, q) ∈ table := by
  obtain ⟨x, hx, hq⟩ := Option.bind_eq_some_iff.mp h
  exact ⟨x, hx, Dict.mem_of_get? hq⟩

theorem lookup_pos {table : Table} (hpos : ∀ e ∈ table, 0 < e.2) {m : List (String × String)}
    {key : String} {q : ℚ} (h : lookup table m key = some q) : 0 < q := by
  obtain ⟨x, -, hmem⟩ := mem_of_lookup h
  exact hpos _ hmem

/-- The impact value of a metric is 0 exactly for `N`, and never below 0.22 otherwise. -/
theorem lookup_impact {m : List (String × String)} {key : String} {q : ℚ}
    (h : lookup impactTable m key = some q) :
    (Dict.get? m key = some "N" ∧ q = 0) ∨
      (Dict.get? m key ≠ some "N" ∧ 22 / 100 ≤ q ∧ q ≤ 56 / 100) := by
  obtain ⟨x, hx, hmem⟩ := mem_of_lookup h
  simp only [impactTable, List.mem_cons, Prod.mk.injEq, List.not_mem_nil, or_false] at hmem
  rcases hmem with ⟨rfl, rfl⟩ | ⟨rfl, rfl⟩ | ⟨rfl, rfl⟩
  · exact Or.inr ⟨by simp [hx], by norm_num, by norm_num⟩
  · exact Or.inr ⟨by simp [hx], by norm_num, by norm_num⟩
  · exact Or.inl ⟨hx, rfl⟩

theorem impact_zero (scope : String) : impact scope 0 ≤ 0 := by
  by_cases h : scope = "U"
  · simp [impact, h]
  · simp only [impact, h, if_false, cvssScopeCImpactMultiplier, cvssScopeCImpactConstant1,
      cvssScopeCImpactConstant2, cvssScopeCImpactPower]
    norm_num

theorem impact_pos (scope : String) {iss : ℚ} (hlow : 22 / 100 ≤ iss) (hhigh : iss ≤ 1) :
    0 < impact scope iss := by
  by_cases h : scope = "U"
  · simp only [impact, h, if_true, cvssImpactMultiplier]
    linarith
  · have hpow : (iss - 2 / 100) ^ 15 ≤ 1 := pow_le_one₀ (by linarith) (by linarith)
    simp only [impact, h, if_false, cvssScopeCImpactMultiplier, cvssScopeCImpactConstant1,
      cvssScopeCImpactConstant2, cvssScopeCImpactPower]
    linarith

theorem baseScore_pos {scope : String} {av ac pr ui c i a : ℚ} (hav : 0 < av) (hac : 0 < ac)
    (hpr : 0 < pr) (hui : 0 < ui) (himpact : 0 < impact scope (impactSubScore c i a)) :
    0 < baseScore scope av ac pr ui c i a := by
  have hexp : 0 < cvssExploitabilityCoefficient * av * ac * pr * ui := by
    unfold cvssExploitabilityCoefficient
    positivity
  simp only [baseScore, not_le.mpr himpact, if_false]
  refine ceilTenth_pos ?_
  by_cases h : scope = "U"
  · rw [if_pos h]
    exact lt_min (by linarith) (by norm_num [cvssMaxScore])
  · rw [if_neg h]
    refine lt_min ?_ (by norm_num [cvssMaxScore])
    unfold cvssScopeCBonusMultiplier
    linarith

/-- One metric with impact is enough to keep the sub-score away from 0. -/
theorem impactSubScore_bounds {c i a : ℚ} (hc : 0 ≤ c ∧ c ≤ 56 / 100) (hi : 0 ≤ i ∧ i ≤ 56 / 100)
    (ha : 0 ≤ a ∧ a ≤ 56 / 100) :
    c ≤ impactSubScore c i a ∧ i ≤ impactSubScore c i a ∧ a ≤ impactSubScore c i a ∧
      impactSubScore c i a ≤ 1 := by
  have hx : 0 ≤ 1 - c ∧ 1 - c ≤ 1 := ⟨by linarith, by linarith⟩
  have hy : 0 ≤ 1 - i ∧ 1 - i ≤ 1 := ⟨by linarith, by linarith⟩
  have hz : 0 ≤ 1 - a ∧ 1 - a ≤ 1 := ⟨by linarith, by linarith⟩
  have hxy : 0 ≤ (1 - c) * (1 - i) := mul_nonneg hx.1 hy.1
  have hpos : 0 ≤ (1 - c) * (1 - i) * (1 - a) := mul_nonneg hxy hz.1
  have hlex : (1 - c) * (1 - i) ≤ 1 - c := mul_le_of_le_one_right hx.1 hy.2
  have hley : (1 - c) * (1 - i) ≤ 1 - i := mul_le_of_le_one_left hy.1 hx.2
  have hle : (1 - c) * (1 - i) * (1 - a) ≤ (1 - c) * (1 - i) := mul_le_of_le_one_right hxy hz.2
  have hlez : (1 - c) * (1 - i) * (1 - a) ≤ 1 - a := mul_le_of_le_one_left hz.1 (hlex.trans hx.2)
  unfold impactSubScore
  exact ⟨by linarith, by linarith, by linarith, by linarith⟩

/-- The score of an accepted vector is 0 exactly when it has no impact. -/
theorem score_eq_zero_iff {v : String} {s : ℚ} (h : computeCvssScore v = some s) :
    s = 0 ↔ NoImpact v := by
  obtain ⟨m, av, ac, ui, pr, c, i, a, hm, hav, hac, hui, hpr, hc, hi, ha, rfl⟩ :=
    computeCvssScore_eq_some.mp h
  obtain ⟨-, -, hlast⟩ := parseCvssVector_eq_some hm
  have hav := lookup_pos (by simp [avTable]) hav
  have hac := lookup_pos (by simp [acTable]) hac
  have hui := lookup_pos (by simp [uiTable]) hui
  have hpr := lookup_pos (by
    by_cases hs : (Dict.get? m "S").getD "U" = "U" <;> simp [prTable, hs]) hpr
  have hbound : ∀ {key : String} {q : ℚ}, lookup impactTable m key = some q →
      0 ≤ q ∧ q ≤ 56 / 100 := by
    intro key q hq
    rcases lookup_impact hq with ⟨-, rfl⟩ | ⟨-, hlow, hhigh⟩
    · exact ⟨le_rfl, by norm_num⟩
    · exact ⟨by linarith, hhigh⟩
  obtain ⟨hlec, hlei, hlea, hone⟩ := impactSubScore_bounds (hbound hc) (hbound hi) (hbound ha)
  -- an impact metric other than `N` makes the score positive
  have hpos : 22 / 100 ≤ impactSubScore c i a →
      baseScore ((Dict.get? m "S").getD "U") av ac pr ui c i a ≠ 0 :=
    fun hlow => (baseScore_pos hav hac hpr hui (impact_pos _ hlow hone)).ne'
  simp only [NoImpact, ← hlast]
  rcases lookup_impact hc with ⟨hcn, rfl⟩ | ⟨hcn, hlow, -⟩
  · rcases lookup_impact hi with ⟨hin, rfl⟩ | ⟨hin, hlow, -⟩
    · rcases lookup_impact ha with ⟨han, rfl⟩ | ⟨han, hlow, -⟩
      · have hzero : impactSubScore 0 0 0 = 0 := by norm_num [impactSubScore]
        simp [baseScore, hzero, impact_zero, hcn, hin, han]
      · simp [hpos (hlow.trans hlea), han]
    · simp [hpos (hlow.trans hlei), hin]
  · simp [hpos (hlow.trans hlec), hcn]

end SeverityCounts

end SolanaAuditor.Cvss
