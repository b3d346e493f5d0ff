/- SolanaAuditor/Reports/Comparison
   digest: What compute_comparison of dashboard.py computes, and when it returns. -/

import SolanaAuditor.Reports.Dashboard

set_option autoImplicit false
set_option relaxedAutoImplicit false

namespace SolanaAuditor.Reports.Dashboard

open SolanaAuditor.Lib

/-- The id of a finding is a text. -/
def TextId (f : PyDict) : Prop := ∃ s, Dict.get? f "id" = some (.str s)

def idText (f : PyDict) : String :=
  match Dict.get? f "id" with
  | some (.str s) => s
  | _ => ""

/-- The id as `norm_id` normalises it. -/
def normalId (f : PyDict) : String := lstripC (idText f)

/-- The sums that a comparison takes of the scores, and the difference of the totals, exist. -/
structure SumsExist (before after : List PyDict) (parts : KeyedDiff.Diff PyDict) : Prop where
  ofBefore : Averageable before
  ofAfter : Averageable after
  difference : PyNumber.Comparable (cvssScores before) (cvssScores after) ∧
    PyNumber.Comparable (cvssScores after) (cvssScores before)
  removed : PyNumber.Summable 0 (cvssScores parts.removed)
  kept : PyNumber.Summable 0 (cvssScores parts.kept)
  added : PyNumber.Summable 0 (cvssScores parts.added)

section Order

variable (chars : PyChars)

/-- The key that an id is sorted under. -/
def idKey (x : String) : Bool × String :=
  (match x.toList with
    | [] => true
    | c :: _ => !chars.isDigit c, x)

/-- The order of the ids: those that start with a digit come first. -/
def IdLe (x y : String) : Prop := keyLess (idKey chars y) (idKey chars x) = false

instance : DecidableRel (IdLe chars) := fun x y =>
  inferInstanceAs (Decidable (keyLess (idKey chars y) (idKey chars x) = false))

theorem keyLess_asymm {a b : Bool × String} (h : keyLess a b = true) : keyLess b a = false := by
  unfold keyLess at h ⊢
  by_cases hab : a.1 = b.1
  · rw [if_pos hab] at h
    rw [if_pos hab.symm]
    exact charsLess_asymm h
  · rw [if_neg hab] at h
    rw [if_neg (Ne.symm hab)]
    cases ha : a.1 <;> cases hb : b.1 <;> simp_all

theorem keyLess_trans {a b c : Bool × String} (h : keyLess a b = true)
    (h' : keyLess b c = true) : keyLess a c = true := by
  have htext := @charsLess_trans a.2.toList b.2.toList c.2.toList
  unfold keyLess textLess at *
  cases ha : a.1 <;> cases hb : b.1 <;> cases hc : c.1 <;> simp_all

theorem keyLess_total {a b : Bool × String} (h : keyLess a b = false)
    (h' : keyLess b a = false) : a = b := by
  unfold keyLess at h h'
  by_cases hab : a.1 = b.1
  · rw [if_pos hab] at h
    rw [if_pos hab.symm] at h'
    exact Prod.ext hab (String.toList_injective (charsLess_total h h'))
  · rw [if_neg hab] at h
    rw [if_neg (Ne.symm hab)] at h'
    cases ha : a.1 <;> cases hb : b.1 <;> simp_all

instance : Std.Total (IdLe chars) where
  total x y := by
    unfold IdLe
    cases h : keyLess (idKey chars y) (idKey chars x) with
    | false => exact Or.inl rfl
    | true => exact Or.inr (keyLess_asymm h)

instance : IsTrans String (IdLe chars) where
  trans x y z := by
    unfold IdLe
    intro hxy hyz
    by_contra hzx
    rw [Bool.not_eq_false] at hzx
    cases h : keyLess (idKey chars y) (idKey chars z) with
    | true => simp [keyLess_trans h hzx] at hxy
    | false =>
      rw [keyLess_total hyz h] at hzx
      simp [hzx] at hxy

instance : Std.Antisymm (IdLe chars) where
  antisymm _ _ hxy hyx := (congrArg Prod.snd (keyLess_total hxy hyx)).symm

/-- The ids in the order of the comparison. -/
def idOrder (ids : List String) : List String := ids.insertionSort (IdLe chars)

/-- The findings in the order of their normalised ids. -/
def inIdOrder (findings : List PyDict) : List PyDict :=
  findings.insertionSort fun f g => IdLe chars (normalId f) (normalId g)

theorem map_inIdOrder (findings : List PyDict) :
    (inIdOrder chars findings).map normalId = idOrder chars (findings.map normalId) :=
  List.map_insertionSort _ _ normalId findings fun _ _ _ _ => Iff.rfl

theorem sortKey_ok {x : String} {key : Bool × String} :
    sortKey chars x = .ok key ↔ x ≠ "" ∧ key = idKey chars x := by
  unfold sortKey idKey
  rw [Ne, ← String.toList_inj]
  cases hx : x.toList with
  | nil => simp
  | cons c cs => simp [pure, Except.pure, eq_comm]

theorem sortKeys_ok {ids : List String} {keys : List (Bool × String)} :
    sortKeys chars ids = .ok keys ↔ (∀ x ∈ ids, x ≠ "") ∧ keys = ids.map (idKey chars) := by
  induction ids generalizing keys with
  | nil => simp [sortKeys, pure, Except.pure, eq_comm]
  | cons x ids ih =>
    simp only [sortKeys, Py.bind_eq_ok, sortKey_ok, ih]
    constructor
    · rintro ⟨_, ⟨hx, rfl⟩, _, ⟨hids, rfl⟩, h⟩
      exact ⟨List.forall_mem_cons.mpr ⟨hx, hids⟩, (Except.ok.inj h).symm⟩
    · rintro ⟨h, rfl⟩
      obtain ⟨hx, hids⟩ := List.forall_mem_cons.mp h
      exact ⟨_, ⟨hx, rfl⟩, _, ⟨hids, rfl⟩, rfl⟩

/-- The ids are sorted unless one of them is empty. -/
theorem sortedIds_ok {ids sorted : List String} :
    sortedIds chars ids = .ok sorted ↔ (∀ x ∈ ids, x ≠ "") ∧ sorted = idOrder chars ids := by
  have hmap : (idOrder chars ids).map (idKey chars) =
      (ids.map (idKey chars)).insertionSort fun a b => keyLess b a = false :=
    List.map_insertionSort _ _ (idKey chars) ids fun _ _ _ _ => Iff.rfl
  have hsnd : ∀ l : List String, (l.map (idKey chars)).map Prod.snd = l := by
    intro l
    rw [List.map_map]
    exact List.map_id l
  simp only [sortedIds, Py.bind_eq_ok, sortKeys_ok]
  constructor
  · rintro ⟨_, ⟨hids, rfl⟩, h⟩
    refine ⟨hids, ?_⟩
    rw [← Except.ok.inj h, ← hmap, hsnd]
  · rintro ⟨hids, rfl⟩
    refine ⟨_, ⟨hids, rfl⟩, ?_⟩
    rw [← hmap, hsnd]
    rfl

end Order

section Split

/-- The ids that are compared, in their order. -/
def comparedIds (chars : PyChars) (before after : List PyDict) : List String :=
  idOrder chars (KeyedDiff.union (KeyedDiff.index normalId before)
    (KeyedDiff.index normalId after))

def splitOf (chars : PyChars) (before after : List PyDict) : KeyedDiff.Diff PyDict :=
  KeyedDiff.diff (KeyedDiff.index normalId before) (KeyedDiff.index normalId after)
    (comparedIds chars before after)

variable {chars : PyChars} {before after findings : List PyDict}

theorem normId_ok {f : PyDict} (h : TextId f) : normId f = .ok (normalId f) := by
  obtain ⟨s, hs⟩ := h
  simp [normId, normalId, idText, field, hs, pure, Except.pure]

theorem withIds_ok (h : ∀ f ∈ findings, TextId f) :
    withIds findings = .ok (findings.map fun f => (normalId f, f)) := by
  have hcollects : Collects (fun f => do return (← normId f, f)) withIds :=
    ⟨rfl, fun f findings => by rw [bind_assoc]; rfl⟩
  exact hcollects.map_ok fun f hf => by rw [normId_ok (h f hf)]; rfl

theorem findingsById_ok (h : ∀ f ∈ findings, TextId f) :
    findingsById findings = .ok (KeyedDiff.index normalId findings) := by
  simp only [findingsById, withIds_ok h, bind, Except.bind, List.foldl_map]
  rfl

theorem mem_comparedIds {fid : String} : fid ∈ comparedIds chars before after ↔
    fid ∈ before.map normalId ∨ fid ∈ after.map normalId := by
  unfold comparedIds idOrder
  rw [List.mem_insertionSort, KeyedDiff.mem_union, KeyedDiff.mem_keys_index,
    KeyedDiff.mem_keys_index]

theorem nodup_comparedIds : (comparedIds chars before after).Nodup :=
  (List.perm_insertionSort _ _).nodup_iff.mpr
    (KeyedDiff.nodup_union (KeyedDiff.nodup_keys_index before) (KeyedDiff.nodup_keys_index after))

/-- Every id that is compared is sorted: none is empty. -/
theorem sortedIds_compared {sorted : List String} :
    sortedIds chars (KeyedDiff.union (KeyedDiff.index normalId before)
        (KeyedDiff.index normalId after)) = .ok sorted ↔
      (∀ f ∈ before ++ after, normalId f ≠ "") ∧ sorted = comparedIds chars before after := by
  rw [sortedIds_ok]
  refine and_congr ?_ Iff.rfl
  simp only [KeyedDiff.mem_union, KeyedDiff.mem_keys_index, List.mem_append]
  constructor
  · intro h f hf
    exact h _ (hf.imp (List.mem_map_of_mem ·) (List.mem_map_of_mem ·))
  · rintro h _ (hfid | hfid)
    · obtain ⟨f, hf, rfl⟩ := List.mem_map.mp hfid
      exact h f (Or.inl hf)
    · obtain ⟨f, hf, rfl⟩ := List.mem_map.mp hfid
      exact h f (Or.inr hf)

end Split

section Returns

variable {text : PyText} {chars : PyChars} {before after findings : List PyDict}

theorem cvssSum_returns :
    (∃ total, cvssSum findings = .ok total) ↔ PyNumber.Summable 0 (cvssScores findings) := by
  rw [← PyNumber.sum_returns]
  cases h : PyNumber.sum (cvssScores findings) <;>
    simp [cvssSum, h, bind, Except.bind, pure, Except.pure]

theorem delta_returns {a b : PyNumber} :
    (∃ s, delta text b a = .ok s) ↔ ∃ d, a.sub b = .ok d := by
  cases h : a.sub b <;> simp [delta, h, bind, Except.bind, pure, Except.pure]

theorem computeSummary_total {summary : Summary} (h : computeSummary text findings = .ok summary) :
    ∃ total, PyNumber.sum (cvssScores findings) = .ok total ∧
      summary.cvssTotal = total.rounded Decimal.roundTenth := by
  simp only [computeSummary, Py.bind_eq_ok] at h
  obtain ⟨counts, -, total, htotal, average, -, h⟩ := h
  obtain rfl := Except.ok.inj h
  exact ⟨total, htotal, rfl⟩

/-- The totals of two summaries are compared unless an integer is too large for the float of
the other. -/
theorem totals_returns {b a : Summary} (hb : computeSummary text before = .ok b)
    (ha : computeSummary text after = .ok a) :
    (∃ s, delta text b.cvssTotal a.cvssTotal = .ok s) ↔
      PyNumber.Comparable (cvssScores before) (cvssScores after) ∧
      PyNumber.Comparable (cvssScores after) (cvssScores before) := by
  obtain ⟨tb, htb, hbt⟩ := computeSummary_total hb
  obtain ⟨ta, hta, hat⟩ := computeSummary_total ha
  rw [delta_returns, PyNumber.sub_returns, PyNumber.comparable_iff Decimal.roundTenth htb hta,
    PyNumber.comparable_iff Decimal.roundTenth hta htb, hbt, hat, and_comm]

theorem mem_removed {f : PyDict} (h : f ∈ (splitOf chars before after).removed) : f ∈ before := by
  rw [splitOf, KeyedDiff.removed_eq] at h
  exact (KeyedDiff.mem_of_mem_lookups h).1

theorem mem_kept {f : PyDict} (h : f ∈ (splitOf chars before after).kept) : f ∈ after := by
  rw [splitOf, KeyedDiff.kept_eq] at h
  exact (KeyedDiff.mem_of_mem_lookups h).1

theorem mem_added {f : PyDict} (h : f ∈ (splitOf chars before after).added) : f ∈ after := by
  rw [splitOf, KeyedDiff.added_eq] at h
  exact (KeyedDiff.mem_of_mem_lookups h).1

/-- What a comparison has of the findings, for findings whose ids and severities are texts. -/
structure Compares (text : PyText) (chars : PyChars) (before after : List PyDict)
    (c : Comparison) : Prop where
  summary : computeSummary text after = .ok c.afterSummary
  fixed : c.fixed = (splitOf chars before after).removed
  unchanged : c.unchanged = (splitOf chars before after).kept
  new : c.new = (splitOf chars before after).added
  unchangedCounts : levelCounts text c.unchanged = .ok c.unchangedCounts
  newCounts : levelCounts text c.new = .ok c.newCounts
  status : c.findingStatus = findingStatus (c.fixed.map normalId) (c.unchanged.map normalId)
    (c.new.map normalId)

theorem computeComparison_ok {c : Comparison} (hids : ∀ f ∈ before ++ after, TextId f)
    (h : computeComparison text chars before after = .ok c) :
    Compares text chars before after c := by
  obtain ⟨hbefore, hafter⟩ := List.forall_mem_append.mp hids
  have hremoved : ∀ f ∈ (splitOf chars before after).removed, TextId f :=
    fun f hf => hbefore f (mem_removed hf)
  have hkept : ∀ f ∈ (splitOf chars before after).kept, TextId f :=
    fun f hf => hafter f (mem_kept hf)
  have hadded : ∀ f ∈ (splitOf chars before after).added, TextId f :=
    fun f hf => hafter f (mem_added hf)
  simp only [computeComparison, Py.bind_eq_ok, findingsById_ok hbefore, findingsById_ok hafter]
    at h
  obtain ⟨_, hbm, _, ham, sorted, hsorted, h⟩ := h
  obtain rfl := Except.ok.inj hbm
  obtain rfl := Except.ok.inj ham
  obtain ⟨-, rfl⟩ := sortedIds_compared.mp hsorted
  obtain ⟨b, hb, a, ha, fixedIds, hfixed, unchangedIds, hunchanged, newIds, hnew, d, hd, fc, -, fs,
    -, uc, huc, us, -, nc, hnc, ns, -, h⟩ := h
  have hfixed' := (withIds_ok hremoved).symm.trans hfixed
  have hunchanged' := (withIds_ok hkept).symm.trans hunchanged
  have hnew' := (withIds_ok hadded).symm.trans hnew
  obtain rfl := Except.ok.inj hfixed'
  obtain rfl := Except.ok.inj hunchanged'
  obtain rfl := Except.ok.inj hnew'
  obtain rfl := Except.ok.inj h
  exact {
    summary := ha
    fixed := rfl
    unchanged := rfl
    new := rfl
    unchangedCounts := huc
    newCounts := hnc
    status := by simp only [List.map_map, Function.comp_def]; rfl }

variable (text) in
/-- The comparison returns when no normalised id is empty and the sums of its parts exist. -/
theorem computeComparison_returns (hids : ∀ f ∈ before ++ after, TextId f)
    (hsev : ∀ f ∈ before ++ after, TextSeverity f) :
    (∃ c, computeComparison text chars before after = .ok c) ↔
      (∀ f ∈ before ++ after, normalId f ≠ "") ∧
        SumsExist before after (splitOf chars before after) := by
  obtain ⟨hbefore, hafter⟩ := List.forall_mem_append.mp hids
  obtain ⟨hsevBefore, hsevAfter⟩ := List.forall_mem_append.mp hsev
  constructor
  · rintro ⟨c, h⟩
    simp only [computeComparison, Py.bind_eq_ok, findingsById_ok hbefore, findingsById_ok hafter]
      at h
    obtain ⟨_, hbm, _, ham, sorted, hsorted, h⟩ := h
    obtain rfl := Except.ok.inj hbm
    obtain rfl := Except.ok.inj ham
    obtain ⟨hne, rfl⟩ := sortedIds_compared.mp hsorted
    obtain ⟨b, hb, a, ha, -, -, -, -, -, -, d, hd, -, -, fs, hfs, -, -, us, hus, -, -, ns, hns,
      -⟩ := h
    exact ⟨hne, {
      ofBefore := (computeSummary_returns text hsevBefore).mp ⟨b, hb⟩
      ofAfter := (computeSummary_returns text hsevAfter).mp ⟨a, ha⟩
      difference := (totals_returns hb ha).mp ⟨d, hd⟩
      removed := cvssSum_returns.mp ⟨fs, hfs⟩
      kept := cvssSum_returns.mp ⟨us, hus⟩
      added := cvssSum_returns.mp ⟨ns, hns⟩ }⟩
  · rintro ⟨hne, hsums⟩
    obtain ⟨b, hb⟩ := (computeSummary_returns text hsevBefore).mpr hsums.ofBefore
    obtain ⟨a, ha⟩ := (computeSummary_returns text hsevAfter).mpr hsums.ofAfter
    obtain ⟨d, hd⟩ := (totals_returns hb ha).mpr hsums.difference
    obtain ⟨fs, hfs⟩ := cvssSum_returns.mpr hsums.removed
    obtain ⟨us, hus⟩ := cvssSum_returns.mpr hsums.kept
    obtain ⟨ns, hns⟩ := cvssSum_returns.mpr hsums.added
    obtain ⟨fc, hfc, -⟩ := levelCounts_ok text fun f hf => hsevBefore f (mem_removed hf)
    obtain ⟨uc, huc, -⟩ := levelCounts_ok text fun f hf => hsevAfter f (mem_kept hf)
    obtain ⟨nc, hnc, -⟩ := levelCounts_ok text fun f hf => hsevAfter f (mem_added hf)
    simp only [computeComparison, Py.bind_eq_ok]
    exact ⟨_, _, findingsById_ok hbefore, _, findingsById_ok hafter, _,
      sortedIds_compared.mpr ⟨hne, rfl⟩, b, hb, a, ha, _,
      withIds_ok fun f hf => hbefore f (mem_removed hf), _,
      withIds_ok fun f hf => hafter f (mem_kept hf), _,
      withIds_ok fun f hf => hafter f (mem_added hf), d, hd, fc, hfc, fs, hfs, uc, huc, us, hus,
      nc, hnc, ns, hns, rfl⟩

end Returns

end SolanaAuditor.Reports.Dashboard
