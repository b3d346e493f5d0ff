/- SolanaAuditor/Reports/TriageOrder
   digest: The order of the rows of scripts/triage-findings.py, and the rows a finding gets. -/

import SolanaAuditor.Lib.StableSort
import SolanaAuditor.Reports.Triage

set_option autoImplicit false
set_option relaxedAutoImplicit false

namespace SolanaAuditor

open SolanaAuditor.Lib SolanaAuditor.Lib.StableSort

namespace FloatValue

theorem strictWeak_lt : StrictWeak (· ≠ FloatValue.nan) FloatValue.lt where
  asymm x y hx hy h := by
    cases x with
    | finite p =>
      cases y with
      | finite q =>
        simp only [lt, decide_eq_true_eq, decide_eq_false_iff_not] at h ⊢
        exact not_lt.mpr h.le
      | posInf | negInf | nan => simp_all [lt]
    | posInf | negInf | nan => cases y <;> simp_all [lt]
  trans x y z hx hy hz h h' := by
    cases x with
    | finite p =>
      cases y with
      | finite q =>
        cases z with
        | finite r =>
          simp only [lt, decide_eq_false_iff_not] at h h' ⊢
          intro hlt
          exact h' (hlt.trans_le (not_lt.mp h))
        | posInf | negInf | nan => simp_all [lt]
      | posInf | negInf | nan => cases z <;> simp_all [lt]
    | posInf | negInf | nan => cases y <;> cases z <;> simp_all [lt]

/-- Values that are numbers are equal where neither is less. -/
theorem eq_of_not_lt {x y : FloatValue} (hx : x ≠ .nan) (hy : y ≠ .nan) (h : x.lt y = false)
    (h' : y.lt x = false) : x = y := by
  cases x with
  | finite p =>
    cases y with
    | finite q =>
      simp only [lt, decide_eq_false_iff_not, not_lt] at h h'
      rw [le_antisymm h' h]
    | posInf | negInf | nan => simp_all [lt]
  | posInf | negInf | nan => cases y <;> simp_all [lt]

theorem ofRat_ne_nan (q : ℚ) : ofRat q ≠ .nan := by
  unfold ofRat
  split_ifs <;> simp

theorem add_finite_ne_nan {x : FloatValue} (hx : x ≠ .nan) (q : ℚ) : x.add (.finite q) ≠ .nan := by
  cases x with
  | finite p => exact ofRat_ne_nan (p + q)
  | posInf | negInf => simp [add]
  | nan => contradiction

theorem rounded_ne_nan {x : FloatValue} (hx : x ≠ .nan) (round : ℚ → ℚ) :
    x.rounded round ≠ .nan := by
  cases x with
  | nan => contradiction
  | finite | posInf | negInf => simp [rounded]

end FloatValue

namespace Reports.Triage

section Order

variable (text : PyText)

/-- The keys of a row are numbers. -/
structure Scored (r : TriageEntry) : Prop where
  cvss : r.cvss ≠ .nan
  priority : r.priorityScore ≠ .nan

/-- The rank of the severity, the score and the cvss, each from the highest down, then the id. -/
def InOrder (a b : TriageEntry) : Prop :=
  severityRank text b.severity < severityRank text a.severity ∨
    severityRank text a.severity = severityRank text b.severity ∧
    (b.priorityScore.lt a.priorityScore = true ∨ a.priorityScore = b.priorityScore ∧
    (b.cvss.lt a.cvss = true ∨ a.cvss = b.cvss ∧ textLess b.id a.id = false))

def higherRank (a b : TriageEntry) : Bool :=
  decide (severityRank text b.severity < severityRank text a.severity)

def higherScore (a b : TriageEntry) : Bool := b.priorityScore.lt a.priorityScore

def higherCvss (a b : TriageEntry) : Bool := b.cvss.lt a.cvss

def smallerId (a b : TriageEntry) : Bool := textLess a.id b.id

variable {text}

theorem strictWeak_higherRank : StrictWeak Scored (higherRank text) where
  asymm a b _ _ h := by
    simp only [higherRank, decide_eq_true_eq, decide_eq_false_iff_not] at h ⊢
    omega
  trans a b c _ _ _ h h' := by
    simp only [higherRank, decide_eq_false_iff_not] at h h' ⊢
    omega

theorem strictWeak_higherScore : StrictWeak Scored higherScore :=
  FloatValue.strictWeak_lt.flip.comap TriageEntry.priorityScore fun _ h => h.priority

theorem strictWeak_higherCvss : StrictWeak Scored higherCvss :=
  FloatValue.strictWeak_lt.flip.comap TriageEntry.cvss fun _ h => h.cvss

theorem strictWeak_smallerId : StrictWeak Scored smallerId :=
  strictWeak_textLess.comap TriageEntry.id fun _ _ => trivial

theorem not_eq_iff {x y : FloatValue} (hx : x ≠ .nan) (hy : y ≠ .nan) :
    (!x.eq y) = true ↔ y.lt x = true ∨ x.lt y = true := by
  rw [Bool.not_eq_true', FloatValue.eq, decide_eq_false_iff_not]
  constructor
  · intro hne
    by_contra hnot
    simp only [not_or, Bool.not_eq_true] at hnot
    exact hne ⟨FloatValue.eq_of_not_lt hx hy hnot.2 hnot.1, hx⟩
  · rintro hlt ⟨rfl, -⟩
    rcases FloatValue.strictWeak_lt.total hx hx with h | h <;> simp [h] at hlt

theorem comesBefore_eq {a b : TriageEntry} (ha : Scored a) (hb : Scored b) :
    comesBefore text a b =
      lex (higherRank text) (lex higherScore (lex higherCvss smallerId)) a b := by
  have hrank : severityRank text a.severity ≠ severityRank text b.severity ↔
      higherRank text a b = true ∨ higherRank text b a = true := by
    simp only [higherRank, decide_eq_true_eq]
    omega
  have hscore : (!a.priorityScore.eq b.priorityScore) = true ↔
      higherScore a b = true ∨ higherScore b a = true := not_eq_iff ha.priority hb.priority
  have hcvss : (!a.cvss.eq b.cvss) = true ↔ higherCvss a b = true ∨ higherCvss b a = true :=
    not_eq_iff ha.cvss hb.cvss
  rw [lex_eq_ite hrank, lex_eq_ite hscore, lex_eq_ite hcvss]
  rfl

theorem strictWeak_comesBefore : StrictWeak Scored (comesBefore text) := by
  have hlex : StrictWeak Scored
      (lex (higherRank text) (lex higherScore (lex higherCvss smallerId))) :=
    strictWeak_higherRank.lex (strictWeak_higherScore.lex
      (strictWeak_higherCvss.lex strictWeak_smallerId))
  refine ⟨fun a b ha hb h => ?_, fun a b c ha hb hc h h' => ?_⟩
  · rw [comesBefore_eq ha hb] at h
    rw [comesBefore_eq hb ha]
    exact hlex.asymm a b ha hb h
  · rw [comesBefore_eq hb ha] at h
    rw [comesBefore_eq hc hb] at h'
    rw [comesBefore_eq hc ha]
    exact hlex.trans a b c ha hb hc h h'

/-- The sort puts a row first unless the other one is to come before it. -/
theorem comesBefore_eq_false {a b : TriageEntry} (ha : Scored a) (hb : Scored b) :
    comesBefore text b a = false ↔ InOrder text a b := by
  have hlt_self : ∀ {x : FloatValue}, x ≠ .nan → x.lt x = false := fun hx =>
    (FloatValue.strictWeak_lt.total hx hx).elim id id
  have hsame : higherRank text a b = false → higherRank text b a = false →
      severityRank text a.severity = severityRank text b.severity := by
    simp only [higherRank, decide_eq_false_iff_not]
    omega
  have hne : severityRank text a.severity = severityRank text b.severity →
      higherRank text b a = false := by
    intro h
    simp [higherRank, h]
  rw [comesBefore_eq hb ha, lex_eq_false, lex_eq_false, lex_eq_false,
    strictWeak_higherCvss.not_lt_or_iff ha hb
      (fun h h' => FloatValue.eq_of_not_lt ha.cvss hb.cvss h' h)
      (fun h => by rw [higherCvss, h]; exact hlt_self hb.cvss),
    strictWeak_higherScore.not_lt_or_iff ha hb
      (fun h h' => FloatValue.eq_of_not_lt ha.priority hb.priority h' h)
      (fun h => by rw [higherScore, h]; exact hlt_self hb.priority),
    strictWeak_higherRank.not_lt_or_iff ha hb hsame hne]
  simp only [higherRank, decide_eq_true_eq]
  rfl

end Order

end Reports.Triage

end SolanaAuditor
