/- SolanaAuditor/Reports/TriageOpen
   digest: When triage counts, scores and ranks the findings of an open status as such. -/

import SolanaAuditor.Lib.Lists
import SolanaAuditor.Reports.TriageFilters
import SolanaAuditor.Reports.TriageRecompute

set_option autoImplicit false
set_option relaxedAutoImplicit false

namespace SolanaAuditor.Reports.Triage

open SolanaAuditor.Lib

/-- What Python's case tables say of the members of OPEN_STATUSES. -/
structure OpenCasing (text : PyText) : Prop where
  again : ∀ s, text.upper (text.upper s) = text.upper s
  opened : text.upper "Open" = "OPEN"
  pending : text.upper "PENDING" = "PENDING"
  pocPending : text.upper "POC-PENDING" = "POC-PENDING"

/-- The status is a member of OPEN_STATUSES, whatever its case. -/
def actionable (text : PyText) (status : String) : Bool :=
  openStatuses.any fun member => text.upper status == text.upper member

def statusOf (text : PyText) (f : PyDict) : String :=
  text.format (field f "status" (.str "Open"))

/-- The score with the bonus of an actionable finding. -/
def actionableScore (text : PyText) (f : PyDict) (cvss : FloatValue) : FloatValue :=
  ((baseScore text f cvss).add
    (.finite (if actionable text (statusOf text f) then 5 else 0))).rounded Decimal.roundHundredth

/-- Of two rows of one severity and score, an actionable second one follows an actionable one. -/
def ActionableFirst (text : PyText) (a b : TriageEntry) : Prop :=
  a.severity = b.severity → a.cvss = b.cvss → actionable text b.status = true →
    actionable text a.status = true

/-- Triage counts the actionable rows, gives their findings the bonus and ranks them first. -/
def RanksActionable (text : PyText) (parseFloat : String → Option FloatValue)
    (helper : Option (String → Option ℚ)) (minSeverity statusFilter : Option String)
    (recompute : Bool) (findings : List PyDict) : Prop :=
  ∃ result,
    triage text parseFloat helper findings minSeverity statusFilter recompute = .ok result ∧
    result.1.openCount = result.1.findings.countP (fun r => actionable text r.status) ∧
    (∀ f ∈ (kept text minSeverity statusFilter findings).map (settled helper recompute),
      ∃ x, cvssOf parseFloat f = .ok x ∧
        priorityScore text parseFloat f = .ok (actionableScore text f x)) ∧
    result.1.findings.Pairwise (ActionableFirst text)

/-- The score is beyond the floats before the bonus, and hides it. -/
def ScoreOverflows (text : PyText) (f : PyDict) : Prop :=
  floatLimit ≤ |cvssValue f * 10| ∨ floatLimit ≤ |cvssValue f * 10 + sevBonus text f|

def idOf (text : PyText) (f : PyDict) : String := text.format (field f "id" (.str ""))

/-- Two findings of one severity and score whose bonus is hidden stand so that the order of the
ids, and of the list where the ids are equal, puts the actionable one first. -/
def HiddenInOrder (text : PyText) (f g : PyDict) : Prop :=
  (rowFor text f).severity = (rowFor text g).severity → cvssValue f = cvssValue g →
    ScoreOverflows text f →
    if textLess (idOf text g) (idOf text f) = false then
      actionable text (statusOf text g) = true → actionable text (statusOf text f) = true
    else actionable text (statusOf text f) = true → actionable text (statusOf text g) = true

section Statuses

variable {text : PyText}

theorem upper_ne_open (hcase : OpenCasing text) (s : String) : text.upper s ≠ "Open" := by
  intro h
  have hagain := hcase.again s
  rw [h, hcase.opened] at hagain
  exact absurd hagain (by decide)

/-- The test of the code misses the statuses that are Open. -/
theorem mem_openStatuses_iff (hcase : OpenCasing text) (s : String) :
    text.upper s ∈ openStatuses ↔ actionable text s = true ∧ text.upper s ≠ "OPEN" := by
  have hne := upper_ne_open hcase s
  simp only [openStatuses, actionable, List.mem_cons, List.not_mem_nil, or_false, List.any_cons,
    List.any_nil, Bool.or_false, Bool.or_eq_true, beq_iff_eq, hcase.opened, hcase.pending,
    hcase.pocPending, hne, false_or]
  constructor
  · rintro (h | h) <;> simp [h]
  · rintro ⟨h | h, hopen⟩
    · exact absurd h hopen
    · exact h

theorem actionable_of_open (hcase : OpenCasing text) {s : String} (h : text.upper s = "OPEN") :
    actionable text s = true := by
  simp [actionable, openStatuses, hcase.opened, h]

/-- The count of the open rows is that of the actionable ones where no row is Open. -/
theorem openCount_iff (hcase : OpenCasing text) (rows : List TriageEntry) (mismatches count : Nat) :
    (reportOf text rows mismatches count).openCount =
        rows.countP (fun r => actionable text r.status) ↔
      ∀ r ∈ rows, text.upper r.status ≠ "OPEN" := by
  have himp : ∀ r ∈ rows, decide (text.upper r.status ∈ openStatuses) = true →
      actionable text r.status = true := by
    intro r _ hr
    exact ((mem_openStatuses_iff hcase _).mp (of_decide_eq_true hr)).1
  refine (Lists.countP_eq_iff_of_imp himp).trans (forall₂_congr fun r _ => ?_)
  rw [decide_eq_true_eq, mem_openStatuses_iff hcase]
  constructor
  · intro h hopen
    exact (h (actionable_of_open hcase hopen)).2 hopen
  · intro h hactionable
    exact ⟨hactionable, h⟩

theorem openBonus_eq (hcase : OpenCasing text) {f : PyDict}
    (h : text.upper (statusOf text f) ≠ "OPEN") :
    openBonus text f = if actionable text (statusOf text f) then 5 else 0 := by
  have hiff := mem_openStatuses_iff hcase (statusOf text f)
  rw [openBonus, ← statusOf]
  by_cases hactionable : actionable text (statusOf text f) = true
  · rw [if_pos (hiff.mpr ⟨hactionable, h⟩), if_pos hactionable]
  · rw [if_neg (fun hmem => hactionable (hiff.mp hmem).1), if_neg hactionable]

end Statuses

section Scores

variable {text : PyText}

theorem ofRat_infinite {q : ℚ} (h : floatLimit ≤ |q|) :
    FloatValue.ofRat q = .negInf ∨ FloatValue.ofRat q = .posInf := by
  unfold FloatValue.ofRat
  rw [if_neg (not_lt.mpr h)]
  split_ifs
  · exact .inl rfl
  · exact .inr rfl

theorem baseScore_finite {f : PyDict} (h : ¬ ScoreOverflows text f) :
    baseScore text f (.finite (cvssValue f)) =
      .finite (cvssValue f * 10 + sevBonus text f) := by
  simp only [ScoreOverflows, not_or, not_le] at h
  simp only [baseScore, FloatValue.times, FloatValue.ofRat, if_pos h.1, FloatValue.add, if_pos h.2]

theorem baseScore_infinite {f : PyDict} (h : ScoreOverflows text f) :
    baseScore text f (.finite (cvssValue f)) = .negInf ∨
      baseScore text f (.finite (cvssValue f)) = .posInf := by
  by_cases htimes : floatLimit ≤ |cvssValue f * 10|
  · rcases ofRat_infinite htimes with h | h <;>
      simp [baseScore, FloatValue.times, h, FloatValue.add]
  · have hsum := h.resolve_left htimes
    simp only [baseScore, FloatValue.times, FloatValue.ofRat, if_pos (not_le.mp htimes)]
    exact ofRat_infinite hsum

/-- The bonus ranks a finite score higher. -/
theorem bonus_lt {r : ℚ} (h : |r| < floatLimit) :
    (((FloatValue.finite r).add (.finite 0)).rounded Decimal.roundHundredth).lt
      (((FloatValue.finite r).add (.finite 5)).rounded Decimal.roundHundredth) = true := by
  have hfive := Decimal.roundHundredth_add_int r 5
  push_cast at hfive
  have hplain : FloatValue.ofRat (r + 0) = .finite r := by
    rw [add_zero, FloatValue.ofRat, if_pos h]
  simp only [FloatValue.add, hplain, FloatValue.rounded]
  by_cases hlt : |r + 5| < floatLimit
  · rw [FloatValue.ofRat, if_pos hlt]
    simp only [FloatValue.lt, decide_eq_true_eq, hfive]
    linarith
  · have hpos : ¬ r + 5 < 0 := by
      intro hneg
      rw [abs_of_neg hneg] at hlt
      have hlow := neg_lt_of_abs_lt h
      linarith
    rw [FloatValue.ofRat, if_neg hlt, if_neg hpos]
    rfl

theorem infinite_score {x : FloatValue} (h : x = .negInf ∨ x = .posInf) (bonus : ℚ) :
    (x.add (.finite bonus)).rounded Decimal.roundHundredth = x := by
  rcases h with rfl | rfl <;> rfl

theorem sevBonus_eq {f g : PyDict} (h : (rowFor text f).severity = (rowFor text g).severity) :
    sevBonus text f = sevBonus text g := by
  simp only [rowFor, rowOf] at h
  rw [sevBonus, severityRank, h, sevBonus, severityRank]

/-- The higher score comes first among rows of one severity. -/
theorem comesBefore_of_score {a b : TriageEntry} (ha : Scored a) (hb : Scored b)
    (hsev : a.severity = b.severity) (h : b.priorityScore.lt a.priorityScore = true) :
    comesBefore text b a = false ∧ comesBefore text a b = true := by
  have hlow := FloatValue.strictWeak_lt.asymm _ _ hb.priority ha.priority h
  have hne : ∀ {x y : FloatValue}, x ≠ .nan → y ≠ .nan → x.lt y = true ∨ y.lt x = true →
      (!x.eq y) = true := fun hx hy hor => (not_eq_iff hx hy).mpr hor.symm
  constructor
  · simp only [comesBefore, hsev, ne_eq, not_true_eq_false, if_false,
      hne hb.priority ha.priority (.inl h), if_true, hlow]
  · simp only [comesBefore, hsev, ne_eq, not_true_eq_false, if_false,
      hne ha.priority hb.priority (.inr h), if_true, h]

/-- The id decides among rows of one severity, score and cvss. -/
theorem comesBefore_of_id {a b : TriageEntry} (hb : Scored b)
    (hsev : a.severity = b.severity) (hscore : a.priorityScore = b.priorityScore)
    (hcvss : a.cvss = b.cvss) : comesBefore text b a = textLess b.id a.id := by
  have heq : ∀ {x : FloatValue}, x ≠ .nan → (!x.eq x) = false := by
    intro x hx
    simp [FloatValue.eq, hx]
  simp only [comesBefore, hsev, hscore, hcvss, ne_eq, not_true_eq_false, if_false,
    heq hb.priority, heq hb.cvss, Bool.false_eq_true]

/-- The bonus of two findings of one severity and score, only the first of which is actionable. -/
theorem score_lt_of_actionable (hcase : OpenCasing text) {f g : PyDict}
    (hsev : (rowFor text f).severity = (rowFor text g).severity) (hcvss : cvssValue f = cvssValue g)
    (hf : text.upper (statusOf text f) ≠ "OPEN") (hg : text.upper (statusOf text g) ≠ "OPEN")
    (hoverflow : ¬ ScoreOverflows text f) (hactionable : actionable text (statusOf text f) = true)
    (hplain : ¬ actionable text (statusOf text g) = true) :
    (rowFor text g).priorityScore.lt (rowFor text f).priorityScore = true := by
  have hbase : baseScore text g (.finite (cvssValue g)) =
      baseScore text f (.finite (cvssValue f)) := by
    rw [baseScore, baseScore, sevBonus_eq hsev, hcvss]
  have hrange : |cvssValue f * 10 + sevBonus text f| < floatLimit :=
    not_le.mp fun h => hoverflow (.inr h)
  simp only [rowFor, rowOf, hbase, baseScore_finite hoverflow, openBonus_eq hcase hf,
    openBonus_eq hcase hg, if_pos hactionable, if_neg hplain]
  exact bonus_lt hrange

theorem score_eq_of_overflow {f g : PyDict}
    (hsev : (rowFor text f).severity = (rowFor text g).severity) (hcvss : cvssValue f = cvssValue g)
    (hoverflow : ScoreOverflows text f) :
    (rowFor text f).priorityScore = (rowFor text g).priorityScore := by
  have hbase : baseScore text g (.finite (cvssValue g)) =
      baseScore text f (.finite (cvssValue f)) := by
    rw [baseScore, baseScore, sevBonus_eq hsev, hcvss]
  simp only [rowFor, rowOf, hbase]
  rw [infinite_score (baseScore_infinite hoverflow), infinite_score (baseScore_infinite hoverflow)]

/-- How the sort ranks two findings none of which is Open. -/
theorem pair_iff (hcase : OpenCasing text) {f g : PyDict}
    (hf : text.upper (statusOf text f) ≠ "OPEN") (hg : text.upper (statusOf text g) ≠ "OPEN") :
    (if comesBefore text (rowFor text g) (rowFor text f) = false then
        ActionableFirst text (rowFor text f) (rowFor text g)
      else ActionableFirst text (rowFor text g) (rowFor text f)) ↔ HiddenInOrder text f g := by
  have hsf := scored_rowFor text f
  have hsg := scored_rowFor text g
  by_cases hsame : (rowFor text f).severity = (rowFor text g).severity ∧
      cvssValue f = cvssValue g
  · obtain ⟨hsev, hcvss⟩ := hsame
    have hcvss' : (rowFor text f).cvss = (rowFor text g).cvss := congrArg FloatValue.finite hcvss
    have hfirst : ActionableFirst text (rowFor text f) (rowFor text g) ↔
        (actionable text (statusOf text g) = true → actionable text (statusOf text f) = true) :=
      ⟨fun h => h hsev hcvss', fun h _ _ => h⟩
    have hsecond : ActionableFirst text (rowFor text g) (rowFor text f) ↔
        (actionable text (statusOf text f) = true → actionable text (statusOf text g) = true) :=
      ⟨fun h => h hsev.symm hcvss'.symm, fun h _ _ => h⟩
    by_cases hoverflow : ScoreOverflows text f
    · have hid : comesBefore text (rowFor text g) (rowFor text f) =
          textLess (idOf text g) (idOf text f) :=
        comesBefore_of_id hsg hsev (score_eq_of_overflow hsev hcvss hoverflow) hcvss'
      rw [hid, hfirst, hsecond]
      exact ⟨fun h _ _ _ => h, fun h => h hsev hcvss hoverflow⟩
    · refine iff_of_true ?_ fun _ _ h => absurd h hoverflow
      have hoverflow' : ¬ ScoreOverflows text g := by
        rwa [ScoreOverflows, ← hcvss, ← sevBonus_eq hsev, ← ScoreOverflows]
      rw [hfirst, hsecond]
      by_cases haf : actionable text (statusOf text f) = true
      · by_cases hag : actionable text (statusOf text g) = true
        · simp [haf, hag]
        · have hlt := score_lt_of_actionable hcase hsev hcvss hf hg hoverflow haf hag
          rw [if_pos (comesBefore_of_score hsf hsg hsev hlt).1]
          exact fun _ => haf
      · by_cases hag : actionable text (statusOf text g) = true
        · have hlt := score_lt_of_actionable hcase hsev.symm hcvss.symm hg hf hoverflow' hag haf
          rw [if_neg (by simp [(comesBefore_of_score hsg hsf hsev.symm hlt).2])]
          exact fun _ => hag
        · simp [haf, hag]
  · refine iff_of_true ?_ fun hsev hcvss => absurd ⟨hsev, hcvss⟩ hsame
    have hne : (rowFor text f).severity = (rowFor text g).severity →
        (rowFor text f).cvss = (rowFor text g).cvss → False :=
      fun hsev hcvss => hsame ⟨hsev, FloatValue.finite.inj hcvss⟩
    split_ifs
    · exact fun hsev hcvss => (hne hsev hcvss).elim
    · exact fun hsev hcvss => (hne hsev.symm hcvss.symm).elim

theorem actionableFirst_iff (hcase : OpenCasing text) {findings : List PyDict}
    (h : ∀ f ∈ findings, text.upper (statusOf text f) ≠ "OPEN") :
    (sortRows text (findings.map (rowFor text))).Pairwise (ActionableFirst text) ↔
      findings.Pairwise (HiddenInOrder text) := by
  refine (StableSort.sort_pairwise_iff strictWeak_comesBefore scored_rows).trans ?_
  rw [List.pairwise_map]
  exact List.Pairwise.iff_of_mem fun hf hg => pair_iff hcase (h _ hf) (h _ hg)

end Scores

theorem openCasing_ascii : OpenCasing PyText.ascii where
  again := filterCasing_ascii.again
  opened := by decide
  pending := by decide
  pocPending := by decide

def statusFinding (id status : String) : PyDict :=
  [("id", .str id), ("severity", .str "High"), ("cvss", .int 8), ("status", .str status)]

end SolanaAuditor.Reports.Triage
