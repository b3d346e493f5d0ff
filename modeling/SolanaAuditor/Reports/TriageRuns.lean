/- SolanaAuditor/Reports/TriageRuns
   digest: The order of the report of triage, whatever the order of the findings. -/

import SolanaAuditor.Reports.TriageOrder
import SolanaAuditor.Reports.TriageRows

set_option autoImplicit false
set_option relaxedAutoImplicit false

namespace SolanaAuditor.Reports.Triage

open SolanaAuditor.Lib

/-- The report has the rows of the findings that pass, in order, and counts each of them once. -/
structure SortedReport (text : PyText) (parseFloat : String → Option FloatValue)
    (passing : List PyDict) (report : TriageReport) : Prop where
  rows : ∃ rows, List.Forall₂ (fun f r => enrichFinding text parseFloat f = .ok r) passing rows ∧
    report.findings.Perm rows
  ordered : report.findings.Pairwise (InOrder text)
  total : report.totalFindings = report.findings.length
  bySeverity : (report.bySeverity.map Prod.snd).sum = report.findings.length

/-- Triage returns such a report, and the same one for every order of the findings. -/
def SortsFindings (text : PyText) (parseFloat : String → Option FloatValue)
    (helper : Option (String → Option ℚ)) (minSeverity statusFilter : Option String)
    (findings : List PyDict) : Prop :=
  ∃ result, triage text parseFloat helper findings minSeverity statusFilter false = .ok result ∧
    SortedReport text parseFloat (kept text minSeverity statusFilter findings) result.1 ∧
    ∀ findings', findings'.Perm findings →
      triage text parseFloat helper findings' minSeverity statusFilter false = .ok result

def DistinctIds (findings : List PyDict) : Prop :=
  ∃ ids : List String, ids.Nodup ∧ findings.map (fun f => Dict.get? f "id") =
    ids.map fun s => some (Json.str s)

/-- The cvss is missing or a finite number, the location missing or an object. -/
structure Triageable (f : PyDict) : Prop where
  cvss : FiniteCvss f
  location : f.get "location" = .null ∨ ∃ entries, f.get "location" = .obj entries

section Keys

variable {text : PyText}

theorem scored_rowFor (text : PyText) (f : PyDict) : Scored (rowFor text f) where
  cvss := by simp [rowFor, rowOf]
  priority := by
    have htimes : (FloatValue.finite (cvssValue f)).times 10 ≠ .nan := FloatValue.ofRat_ne_nan _
    exact FloatValue.rounded_ne_nan
      (FloatValue.add_finite_ne_nan (FloatValue.add_finite_ne_nan htimes _) _) _

theorem scored_rows {findings : List PyDict} :
    ∀ r ∈ findings.map (rowFor text), Scored r := by
  intro r hr
  obtain ⟨f, -, rfl⟩ := List.mem_map.mp hr
  exact scored_rowFor text f

/-- Rows that may stand in either order have one id. -/
theorem id_eq_of_inOrder {a b : TriageEntry} (ha : Scored a) (hb : Scored b)
    (h : InOrder text a b) (h' : InOrder text b a) : a.id = b.id := by
  have hasymm : ∀ {x y : FloatValue}, x ≠ .nan → y ≠ .nan → x.lt y = true → y.lt x = true →
      False := by
    intro x y hx hy hlt hgt
    simp [FloatValue.strictWeak_lt.asymm x y hx hy hlt] at hgt
  rcases h with hrank | ⟨hrank, hscore | ⟨hscore, hcvss | ⟨hcvss, hid⟩⟩⟩
  · rcases h' with hrank' | ⟨hrank', -⟩ <;> omega
  · rcases h' with hrank' | ⟨-, hscore' | ⟨hscore', -⟩⟩
    · omega
    · exact (hasymm hb.priority ha.priority hscore hscore').elim
    · rw [hscore'] at hscore
      exact (hasymm ha.priority ha.priority hscore hscore).elim
  · rcases h' with hrank' | ⟨-, hscore' | ⟨-, hcvss' | ⟨hcvss', -⟩⟩⟩
    · omega
    · rw [hscore] at hscore'
      exact (hasymm hb.priority hb.priority hscore' hscore').elim
    · exact (hasymm hb.cvss ha.cvss hcvss hcvss').elim
    · rw [hcvss'] at hcvss
      exact (hasymm ha.cvss ha.cvss hcvss hcvss).elim
  · rcases h' with hrank' | ⟨-, hscore' | ⟨-, hcvss' | ⟨-, hid'⟩⟩⟩
    · omega
    · rw [hscore] at hscore'
      exact (hasymm hb.priority hb.priority hscore' hscore').elim
    · rw [hcvss] at hcvss'
      exact (hasymm hb.cvss hb.cvss hcvss' hcvss').elim
    · exact String.toList_inj.mp (charsLess_total hid' hid)

theorem id_rowFor {f : PyDict} {s : String} (h : Dict.get? f "id" = some (.str s)) :
    (rowFor text f).id = s := by
  simp only [rowFor, rowOf, field, h, Option.getD_some, PyText.format]

/-- Findings with distinct ids have distinct rows. -/
theorem rowFor_injOn {findings : List PyDict} (hids : DistinctIds findings) {f g : PyDict}
    (hf : f ∈ findings) (hg : g ∈ findings) (h : (rowFor text f).id = (rowFor text g).id) :
    f = g := by
  obtain ⟨ids, hnodup, hmap⟩ := hids
  have hinj : Function.Injective fun s => some (Json.str s) := fun s t hst =>
    Json.str.inj (Option.some.inj hst)
  have hdistinct : (findings.map fun f => Dict.get? f "id").Nodup := by
    rw [hmap]
    exact hnodup.map hinj
  have hstr : ∀ f ∈ findings, ∃ s, Dict.get? f "id" = some (.str s) := by
    intro f hf
    have hmem := List.mem_map_of_mem (f := fun f => Dict.get? f "id") hf
    rw [hmap] at hmem
    obtain ⟨s, -, hs⟩ := List.mem_map.mp hmem
    exact ⟨s, hs.symm⟩
  obtain ⟨s, hs⟩ := hstr f hf
  obtain ⟨t, ht⟩ := hstr g hg
  rw [id_rowFor hs, id_rowFor ht] at h
  refine List.inj_on_of_nodup_map hdistinct hf hg ?_
  rw [hs, ht, h]

end Keys

section Runs

variable {text : PyText} {parseFloat : String → Option FloatValue}
  {helper : Option (String → Option ℚ)} {findings : List PyDict}
  {minSeverity statusFilter : Option String}

/-- The report of the rows of any findings lists them in order and counts them. -/
theorem sortedReport_rows (hcvss : ∀ f ∈ findings, FiniteCvss f)
    (h : ∀ f ∈ findings, Located f ∧ HasFloat f) :
    SortedReport text parseFloat findings
      (reportOf text (sortRows text (findings.map (rowFor text))) 0 0) where
  rows := ⟨_, enrichAll_ok.mp (enrichAll_eq hcvss h), sortRows_perm text _⟩
  ordered := by
    refine (StableSort.sort_pairwise strictWeak_comesBefore scored_rows).imp_of_mem ?_
    intro a b ha hb hlt
    exact (comesBefore_eq_false (scored_rows a (StableSort.mem_sort.mp ha))
      (scored_rows b (StableSort.mem_sort.mp hb))).mp hlt
  total := rfl
  bySeverity := by
    simp only [reportOf, Tally.sum_foldl_grow, List.length_map, List.map_nil, List.sum_nil,
      Nat.zero_add]

/-- The sorted rows do not depend on the order of findings with distinct ids. -/
theorem sortRows_eq_of_perm (hids : DistinctIds findings) {l l' : List PyDict}
    (hl : ∀ f ∈ l, f ∈ findings) (hperm : l.Perm l') :
    sortRows text (l.map (rowFor text)) = sortRows text (l'.map (rowFor text)) := by
  refine StableSort.sort_eq_of_perm strictWeak_comesBefore scored_rows (hperm.map _) ?_
  intro a ha b hb hab hba
  obtain ⟨f, hf, rfl⟩ := List.mem_map.mp ha
  obtain ⟨g, hg, rfl⟩ := List.mem_map.mp hb
  have hsf := scored_rowFor text f
  have hsg := scored_rowFor text g
  have hid := id_eq_of_inOrder hsf hsg ((comesBefore_eq_false hsf hsg).mp hab)
    ((comesBefore_eq_false hsg hsf).mp hba)
  rw [rowFor_injOn hids (hl f hf) (hl g hg) hid]

theorem triage_perm {findings' : List PyDict} (hids : DistinctIds findings)
    (hcvss : ∀ f ∈ findings, FiniteCvss f)
    (h : ∀ f ∈ kept text minSeverity statusFilter findings, Located f ∧ HasFloat f)
    (hperm : findings'.Perm findings) :
    triage text parseFloat helper findings' minSeverity statusFilter false =
      triage text parseFloat helper findings minSeverity statusFilter false := by
  have hkept : (kept text minSeverity statusFilter findings').Perm
      (kept text minSeverity statusFilter findings) := kept_perm hperm minSeverity statusFilter
  have hrows : sortRows text ((kept text minSeverity statusFilter findings').map (rowFor text)) =
      sortRows text ((kept text minSeverity statusFilter findings).map (rowFor text)) :=
    (sortRows_eq_of_perm hids (fun f hf => (mem_kept.mp hf).1) hkept.symm).symm
  rw [triage_eq hcvss h, triage_eq (fun f hf => hcvss f (hperm.mem_iff.mp hf))
    (fun f hf => h f (hkept.mem_iff.mp hf)), hrows, hperm.length_eq, hkept.length_eq]

end Runs

/-- Triage sorts the rows of the findings that pass, in one way for all their orders, exactly
when each integer cvss among them has a float. -/
theorem triage_sorts_iff (text : PyText) (parseFloat : String → Option FloatValue)
    (helper : Option (String → Option ℚ)) (minSeverity statusFilter : Option String)
    (findings : List PyDict) (hids : DistinctIds findings)
    (h : ∀ f ∈ findings, Triageable f) :
    SortsFindings text parseFloat helper minSeverity statusFilter findings ↔
      ∀ f ∈ kept text minSeverity statusFilter findings, HasFloat f := by
  have hcvss : ∀ f ∈ findings, FiniteCvss f := fun f hf => (h f hf).cvss
  constructor
  · rintro ⟨result, hresult, -⟩
    have hfloat := (triage_returns_iff text parseFloat helper minSeverity statusFilter hcvss).mp
      ⟨result, hresult⟩
    exact fun f hf => (hfloat f hf).2
  · intro hfloat
    have hrows : ∀ f ∈ kept text minSeverity statusFilter findings, Located f ∧ HasFloat f :=
      fun f hf => ⟨located_of_object (h f (mem_kept.mp hf).1).location, hfloat f hf⟩
    refine ⟨_, triage_eq hcvss hrows, ?_, ?_⟩
    · exact sortedReport_rows (fun f hf => hcvss f (mem_kept.mp hf).1) hrows
    · intro findings' hperm
      rw [triage_perm hids hcvss hrows hperm]
      exact triage_eq hcvss hrows

def scoredFinding (id severity : String) (cvss : Json) : PyDict :=
  [("id", .str id), ("severity", .str severity), ("cvss", cvss)]

theorem triageable_scoredFinding (id severity : String) (n : Int) :
    Triageable (scoredFinding id severity (.int n)) where
  cvss := .inr (.inl ⟨n, rfl⟩)
  location := .inl rfl

theorem triage_sorts_iff_two :
    SortsFindings PyText.ascii (fun _ => none) none (some "low") none
      [scoredFinding "VULN-01" "Low" (.int 3), scoredFinding "VULN-02" "High" (.int 8)] := by
  have hall : ∀ f ∈ [scoredFinding "VULN-01" "Low" (.int 3),
      scoredFinding "VULN-02" "High" (.int 8)], ∃ id severity n, n.natAbs < floatLimit ∧
        f = scoredFinding id severity (.int n) := by
    simp only [List.forall_mem_cons]
    exact ⟨⟨_, _, _, by decide +kernel, rfl⟩, ⟨_, _, _, by decide +kernel, rfl⟩, by simp⟩
  refine (triage_sorts_iff PyText.ascii (fun _ => none) none (some "low") none
    [scoredFinding "VULN-01" "Low" (.int 3), scoredFinding "VULN-02" "High" (.int 8)]
    ⟨["VULN-01", "VULN-02"], by decide, rfl⟩ ?_).mpr ?_
  · intro f hf
    obtain ⟨id, severity, n, -, rfl⟩ := hall f hf
    exact triageable_scoredFinding id severity n
  · intro f hf m hm
    obtain ⟨id, severity, n, hn, rfl⟩ := hall f (mem_kept.mp hf).1
    obtain rfl := Json.int.inj hm
    exact hn

/-- The finding of an integer that no float holds. -/
def hugeFinding : PyDict := scoredFinding "VULN-01" "High" (.int floatLimit)

/-- An integer that no float holds, though it is a finite number, stops triage. -/
theorem huge_cvss_not_sorted :
    DistinctIds [hugeFinding] ∧ Triageable hugeFinding ∧
      ¬ SortsFindings PyText.ascii (fun _ => none) none none none [hugeFinding] := by
  have hin : Triageable hugeFinding := triageable_scoredFinding "VULN-01" "High" floatLimit
  refine ⟨⟨["VULN-01"], by decide, rfl⟩, hin, ?_⟩
  rintro ⟨result, hresult, -⟩
  have hfloat := (triage_returns_iff PyText.ascii (fun _ => none) none none none
    (by simpa using hin.cvss)).mp ⟨result, hresult⟩
  have hlimit := (hfloat hugeFinding (mem_kept.mpr ⟨List.mem_cons_self, rfl, rfl⟩)).2 _ rfl
  rw [Int.natAbs_natCast] at hlimit
  exact lt_irrefl _ hlimit

end SolanaAuditor.Reports.Triage
