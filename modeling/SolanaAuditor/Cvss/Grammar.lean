/- SolanaAuditor/Cvss/Grammar
   digest: The grammar of CVSS 3.1 base vectors, and the vectors that severity_counts.py takes. -/

import SolanaAuditor.Cvss.Components
import SolanaAuditor.Lib.Lists

set_option autoImplicit false
set_option relaxedAutoImplicit false

namespace SolanaAuditor.Cvss

open SolanaAuditor.Lib

section Grammar

/-- The eight base metrics and their values. -/
def baseMetrics : List (String × List String) := metrics ++ [("S", ["U", "C"])]

/-- A text without the marks that part components. -/
def Plain (s : String) : Prop := '/' ∉ s.toList ∧ ':' ∉ s.toList

def writtenComponent (c : String × String) : List Char := c.1.toList ++ ':' :: c.2.toList

/-- The vector of some components. -/
def written (cs : List (String × String)) : String :=
  String.ofList (cvssPrefix.toList ++ ['/'].intercalate (cs.map writtenComponent))

/-- Metrics and values, each base metric once and with a value of its own. -/
structure WellFormed (cs : List (String × String)) : Prop where
  plain : ∀ c ∈ cs, Plain c.1 ∧ Plain c.2
  once : ∀ m ∈ baseMetrics, ∃ x ∈ m.2, cs.filter (fun c => decide (c.1 = m.1)) = [(m.1, x)]

/-- How often the components of a vector name a metric. -/
def timesGiven (v key : String) : Nat :=
  ((parts v).filterMap component).countP fun c => decide (c.1 = key)

/-- Each base metric is given once, and the scope is `U` or `C`. -/
structure Regular (v : String) : Prop where
  once : ∀ m ∈ baseMetrics, timesGiven v m.1 = 1
  scope : ∃ x ∈ ["U", "C"], lastValue v "S" = some x

end Grammar

section Written

/-! What is written is read back. -/

theorem component_eq_some {part : List Char} {c : String × String} :
    component part = some c ↔
      part = writtenComponent c ∧ ':' ∉ c.1.toList ∧ ':' ∉ c.2.toList := by
  have hpieces : ∀ k v : List Char, [':'].intercalate [k, v] = k ++ ':' :: v := by
    intro k v
    simp [List.intercalate]
  constructor
  · intro h
    unfold component at h
    split at h
    · next k v hsplit =>
      obtain rfl := Option.some.inj h
      have hpart : part = k ++ ':' :: v := by
        rw [← hpieces, ← hsplit, List.intercalate_splitOn]
      have hmem : ∀ w ∈ [k, v], w ∈ part.splitOn ':' := by
        rw [hsplit]
        exact fun _ hw => hw
      have hk := (Lists.piece_of_splitOn (hmem k (by simp))).1
      have hv := (Lists.piece_of_splitOn (hmem v (by simp))).1
      simpa [writtenComponent] using ⟨hpart, hk, hv⟩
    · simp at h
  · rintro ⟨rfl, hk, hv⟩
    have hsplit : (writtenComponent c).splitOn ':' = [c.1.toList, c.2.toList] := by
      rw [writtenComponent, ← hpieces]
      refine List.splitOn_intercalate ':' ?_ (List.cons_ne_nil _ _)
      simp [hk, hv]
    simp [component, hsplit]

theorem hasPrefix_written (cs : List (String × String)) : hasPrefix (written cs) = true := by
  rw [hasPrefix, written, String.toList_ofList, List.isPrefixOf_iff_prefix]
  exact List.prefix_append _ _

theorem parts_written {cs : List (String × String)} (hne : cs ≠ [])
    (hplain : ∀ c ∈ cs, Plain c.1 ∧ Plain c.2) :
    parts (written cs) = cs.map writtenComponent := by
  have hdrop : (written cs).toList.drop cvssPrefix.length =
      ['/'].intercalate (cs.map writtenComponent) := by
    rw [written, String.toList_ofList, ← String.length_toList, List.drop_left]
  rw [parts, hdrop]
  refine List.splitOn_intercalate '/' ?_ (by simpa using hne)
  intro part hpart
  obtain ⟨c, hc, rfl⟩ := List.mem_map.mp hpart
  obtain ⟨hkey, hvalue⟩ := hplain c hc
  simp [writtenComponent, hkey.1, hvalue.1]

theorem components_written {cs : List (String × String)} (hne : cs ≠ [])
    (hplain : ∀ c ∈ cs, Plain c.1 ∧ Plain c.2) :
    (∀ part ∈ parts (written cs), (component part).isSome = true) ∧
      (parts (written cs)).filterMap component = cs := by
  have hcomponent : ∀ c ∈ cs, component (writtenComponent c) = some c := fun c hc =>
    component_eq_some.mpr ⟨rfl, (hplain c hc).1.2, (hplain c hc).2.2⟩
  rw [parts_written hne hplain]
  constructor
  · intro part hpart
    obtain ⟨c, hc, rfl⟩ := List.mem_map.mp hpart
    rw [hcomponent c hc]
    rfl
  · rw [List.filterMap_map]
    calc cs.filterMap (component ∘ writtenComponent)
        = cs.filterMap some := List.filterMap_congr hcomponent
      _ = cs := List.filterMap_some

/-- A vector that consists of components is written from them. -/
theorem exists_written {v : String} (hp : hasPrefix v = true)
    (hc : ∀ part ∈ parts v, (component part).isSome = true) :
    ∃ cs, cs ≠ [] ∧ (∀ c ∈ cs, Plain c.1 ∧ Plain c.2) ∧ v = written cs := by
  have hparts : ((parts v).filterMap component).map writtenComponent = parts v := by
    rw [List.map_filterMap]
    calc (parts v).filterMap (fun part => (component part).map writtenComponent)
        = (parts v).filterMap some := by
          refine List.filterMap_congr fun part hpart => ?_
          obtain ⟨c, hsome⟩ := Option.isSome_iff_exists.mp (hc part hpart)
          rw [hsome, (component_eq_some.mp hsome).1]
          rfl
      _ = parts v := List.filterMap_some
  refine ⟨(parts v).filterMap component, ?_, ?_, ?_⟩
  · intro hnil
    rw [hnil, List.map_nil] at hparts
    exact List.splitOn_ne_nil _ _ hparts.symm
  · intro c hmem
    obtain ⟨part, hpart, hsome⟩ := List.mem_filterMap.mp hmem
    obtain ⟨rfl, hkey, hvalue⟩ := component_eq_some.mp hsome
    have hslash : '/' ∉ writtenComponent c := (Lists.piece_of_splitOn hpart).1
    simp only [writtenComponent, List.mem_append, List.mem_cons, not_or] at hslash
    exact ⟨⟨hslash.1, hkey⟩, hslash.2.2, hvalue⟩
  · obtain ⟨rest, hrest⟩ := List.isPrefixOf_iff_prefix.mp hp
    have hdrop : v.toList.drop cvssPrefix.length = rest := by
      rw [← hrest, ← String.length_toList, List.drop_left]
    refine String.toList_injective ?_
    rw [written, String.toList_ofList, hparts, parts, List.intercalate_splitOn, hdrop, hrest]

end Written

section Verdict

/-- The scored vectors are those of the grammar, and the order of their components does not
matter. -/
structure TakesGrammar (v : String) : Prop where
  rejects : (∃ s, SeverityCounts.computeCvssScore v = some s) → ∃ cs, WellFormed cs ∧ v = written cs
  scores : ∀ cs, WellFormed cs → v = written cs → ∃ s, SeverityCounts.computeCvssScore v = some s ∧
    ∀ cs', cs'.Perm cs → SeverityCounts.computeCvssScore (written cs') = some s

theorem WellFormed.ne_nil {cs : List (String × String)} (h : WellFormed cs) : cs ≠ [] := by
  rintro rfl
  obtain ⟨x, -, hx⟩ := h.once ("S", ["U", "C"]) (by decide)
  simp at hx

theorem WellFormed.perm {cs cs' : List (String × String)} (h : WellFormed cs)
    (hperm : cs'.Perm cs) : WellFormed cs' where
  plain c hc := h.plain c (hperm.mem_iff.mp hc)
  once m hm := by
    obtain ⟨x, hx, hfilter⟩ := h.once m hm
    have hsingle := hperm.filter fun c => decide (c.1 = m.1)
    rw [hfilter] at hsingle
    exact ⟨x, hx, List.perm_singleton.mp hsingle⟩

theorem WellFormed.lastValue {cs : List (String × String)} (h : WellFormed cs)
    {m : String × List String} (hm : m ∈ baseMetrics) :
    ∃ x ∈ m.2, cs.filter (fun c => decide (c.1 = m.1)) = [(m.1, x)] ∧
      Cvss.lastValue (written cs) m.1 = some x := by
  obtain ⟨x, hx, hfilter⟩ := h.once m hm
  refine ⟨x, hx, hfilter, ?_⟩
  rw [Cvss.lastValue, (components_written h.ne_nil h.plain).2, hfilter]
  rfl

/-- The score depends on the values of the base metrics only. -/
theorem computeCvssScore_congr {v w : String}
    (hv : hasPrefix v = true ∧ ∀ part ∈ parts v, (component part).isSome = true)
    (hw : hasPrefix w = true ∧ ∀ part ∈ parts w, (component part).isSome = true)
    (h : ∀ m ∈ baseMetrics, lastValue v m.1 = lastValue w m.1) :
    SeverityCounts.computeCvssScore v = SeverityCounts.computeCvssScore w := by
  obtain ⟨m, hm⟩ := SeverityCounts.exists_parseCvssVector hv.1 hv.2
  obtain ⟨m', hm'⟩ := SeverityCounts.exists_parseCvssVector hw.1 hw.2
  obtain ⟨-, -, hlast⟩ := SeverityCounts.parseCvssVector_eq_some hm
  obtain ⟨-, -, hlast'⟩ := SeverityCounts.parseCvssVector_eq_some hm'
  have hget : ∀ key ∈ baseMetrics.map Prod.fst, Dict.get? m key = Dict.get? m' key := by
    intro key hkey
    obtain ⟨e, he, rfl⟩ := List.mem_map.mp hkey
    rw [hlast, hlast', h e he]
  have hlookup : ∀ table, ∀ key ∈ baseMetrics.map Prod.fst,
      SeverityCounts.lookup table m key = SeverityCounts.lookup table m' key := by
    intro table key hkey
    rw [SeverityCounts.lookup, SeverityCounts.lookup, hget key hkey]
  simp only [SeverityCounts.computeCvssScore, hm, hm', Option.bind_eq_bind, Option.bind_some,
    hlookup _ "AV" (by decide), hlookup _ "AC" (by decide), hlookup _ "UI" (by decide),
    hlookup _ "PR" (by decide), hlookup _ "C" (by decide), hlookup _ "I" (by decide),
    hlookup _ "A" (by decide), hget "S" (by decide)]

/-- One value and no other stands for a metric that is given once. -/
theorem filter_eq_singleton {cs : List (String × String)} {key x : String}
    (hcount : cs.countP (fun c => decide (c.1 = key)) = 1)
    (hlast : (cs.filter fun c => decide (c.1 = key)).getLast?.map Prod.snd = some x) :
    cs.filter (fun c => decide (c.1 = key)) = [(key, x)] := by
  rw [List.countP_eq_length_filter] at hcount
  obtain ⟨c, hc⟩ := List.length_eq_one_iff.mp hcount
  have hmem : c ∈ cs.filter fun c => decide (c.1 = key) := by
    rw [hc]
    exact List.mem_cons_self
  have hkey : c.1 = key := of_decide_eq_true (List.mem_filter.mp hmem).2
  rw [hc] at hlast ⊢
  obtain rfl : c.2 = x := Option.some.inj hlast
  rw [← hkey]

/-- The grammar's vectors are the accepted ones that are regular. -/
theorem wellFormed_iff {cs : List (String × String)} (hne : cs ≠ [])
    (hplain : ∀ c ∈ cs, Plain c.1 ∧ Plain c.2) :
    WellFormed cs ↔ Accepted (written cs) ∧ Regular (written cs) := by
  obtain ⟨hparts, hcomponents⟩ := components_written hne hplain
  constructor
  · intro h
    refine ⟨⟨hasPrefix_written cs, hparts, fun m hm => ?_⟩, ⟨fun m hm => ?_, ?_⟩⟩
    · obtain ⟨x, hx, -, hlast⟩ := h.lastValue (List.mem_append_left _ hm)
      exact ⟨x, hx, hlast⟩
    · obtain ⟨x, -, hfilter, -⟩ := h.lastValue hm
      rw [timesGiven, hcomponents, List.countP_eq_length_filter, hfilter]
      rfl
    · obtain ⟨x, hx, -, hlast⟩ := h.lastValue (m := ("S", ["U", "C"])) (by decide)
      exact ⟨x, hx, hlast⟩
  · rintro ⟨⟨-, -, hvalues⟩, honce, hscope⟩
    refine ⟨hplain, fun m hm => ?_⟩
    have hlast : ∃ x ∈ m.2, lastValue (written cs) m.1 = some x := by
      rcases List.mem_append.mp hm with hm | hm
      · exact hvalues m hm
      · obtain rfl := List.mem_singleton.mp hm
        exact hscope
    obtain ⟨x, hx, hlast⟩ := hlast
    have hcount := honce m hm
    rw [timesGiven, hcomponents] at hcount
    rw [lastValue, hcomponents] at hlast
    exact ⟨x, hx, filter_eq_singleton hcount hlast⟩

/-- The scorer takes the grammar exactly where it does not accept a vector that gives a base
metric twice, or no scope, or a scope that is no value of it. -/
theorem takes_grammar_iff (v : String) : TakesGrammar v ↔ (Accepted v → Regular v) := by
  constructor
  · intro h haccepted
    obtain ⟨cs, hcs, rfl⟩ := h.rejects ((SeverityCounts.exists_score_iff v).mpr haccepted)
    exact ((wellFormed_iff hcs.ne_nil hcs.plain).mp hcs).2
  · intro h
    refine ⟨fun hscore => ?_, ?_⟩
    · have haccepted := (SeverityCounts.exists_score_iff v).mp hscore
      obtain ⟨cs, hne, hplain, rfl⟩ := exists_written haccepted.1 haccepted.2.1
      exact ⟨cs, (wellFormed_iff hne hplain).mpr ⟨haccepted, h haccepted⟩, rfl⟩
    · rintro cs hcs rfl
      have haccepted := ((wellFormed_iff hcs.ne_nil hcs.plain).mp hcs).1
      obtain ⟨s, hs⟩ := (SeverityCounts.exists_score_iff _).mpr haccepted
      refine ⟨s, hs, fun cs' hperm => ?_⟩
      have hcs' := hcs.perm hperm
      rw [← hs]
      refine computeCvssScore_congr
        ⟨hasPrefix_written cs', (components_written hcs'.ne_nil hcs'.plain).1⟩
        ⟨hasPrefix_written cs, (components_written hcs.ne_nil hcs.plain).1⟩ fun m hm => ?_
      obtain ⟨x, -, hfilter, hlast⟩ := hcs.lastValue hm
      obtain ⟨y, -, hfilter', hlast'⟩ := hcs'.lastValue hm
      have hsame := hperm.filter fun c => decide (c.1 = m.1)
      rw [hfilter, hfilter', List.perm_singleton, List.cons.injEq, Prod.mk.injEq] at hsame
      rw [hlast, hlast', hsame.1.2]

/-- A scope that is no value of the metric is scored as if it were `C`. -/
theorem unknown_scope_scored :
    ¬ TakesGrammar "CVSS:3.1/AV:N/AC:L/PR:N/UI:N/S:X/C:H/I:H/A:H" := by
  intro h
  have haccepted : Accepted "CVSS:3.1/AV:N/AC:L/PR:N/UI:N/S:X/C:H/I:H/A:H" :=
    ⟨by decide, by decide, by decide⟩
  obtain ⟨cs, hcs, hv⟩ := h.rejects ((SeverityCounts.exists_score_iff _).mpr haccepted)
  obtain ⟨x, hx, -, hlast⟩ := hcs.lastValue (m := ("S", ["U", "C"])) (by decide)
  have hscope : lastValue "CVSS:3.1/AV:N/AC:L/PR:N/UI:N/S:X/C:H/I:H/A:H" "S" = some "X" := by
    decide
  rw [← hv, hscope] at hlast
  obtain rfl : "X" = x := Option.some.inj hlast
  exact absurd hx (by decide)

end Verdict

end SolanaAuditor.Cvss
