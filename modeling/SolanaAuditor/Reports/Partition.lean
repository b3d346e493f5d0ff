/- SolanaAuditor/Reports/Partition
   digest: When compute_comparison of dashboard.py partitions two lists of findings. -/

import SolanaAuditor.Reports.Comparison

set_option autoImplicit false
set_option relaxedAutoImplicit false

namespace SolanaAuditor.Reports.Dashboard

open SolanaAuditor.Lib

/-- An id without one leading `C-`. -/
def withoutPrefix (s : String) : String :=
  match s.toList with
  | 'C' :: '-' :: rest => String.ofList rest
  | _ => s

def canonicalId (f : PyDict) : String := withoutPrefix (idText f)

/-- A list has the finding, or a version of it. -/
def Listed (f : PyDict) (findings : List PyDict) : Prop :=
  ∃ g ∈ findings, canonicalId g = canonicalId f

/-- The comparison splits the two lists by the ids up to the prefix. -/
structure Partitioned (before after : List PyDict) (c : Comparison) : Prop where
  ofBefore : ∀ f ∈ before, Xor (Listed f c.fixed) (Listed f c.unchanged)
  ofAfter : ∀ f ∈ after, Xor (Listed f c.unchanged) (Listed f c.new)
  beforeLength : c.fixed.length + c.unchanged.length = before.length
  afterLength : c.unchanged.length + c.new.length = after.length
  shared : ∀ f, f ∈ before ∨ f ∈ after →
    (Listed f c.unchanged ↔ Listed f before ∧ Listed f after)
  status : ∀ fid s, Dict.get? c.findingStatus fid = some s ↔
    (s = "Fixed" ∧ fid ∈ c.fixed.map normalId) ∨
    (s = "Unchanged" ∧ fid ∈ c.unchanged.map normalId) ∨ (s = "New" ∧ fid ∈ c.new.map normalId)
  counts : ∀ level ∈ severityLevels,
    (Dict.get? c.unchangedCounts level).getD 0 + (Dict.get? c.newCounts level).getD 0 =
      c.afterSummary.count level

/-- The normalised ids are not empty, and two findings share one exactly when they share their
id up to the prefix; within a list they never do. -/
structure Separated (before after : List PyDict) : Prop where
  nonempty : ∀ f ∈ before ++ after, normalId f ≠ ""
  beforeDistinct : (before.map normalId).Nodup
  afterDistinct : (after.map normalId).Nodup
  sameId : ∀ f ∈ before, ∀ g ∈ after, normalId f = normalId g → canonicalId f = canonicalId g

/-- The findings whose normalised id is none of the other list. -/
def onlyIn (findings others : List PyDict) : List PyDict :=
  findings.filter fun f => decide (normalId f ∉ others.map normalId)

def sharedWith (findings others : List PyDict) : List PyDict :=
  findings.filter fun f => decide (normalId f ∈ others.map normalId)

section Parts

variable {chars : PyChars} {before after : List PyDict}

variable (chars before after) in
theorem length_fixed_unchanged : (splitOf chars before after).removed.length +
    (splitOf chars before after).kept.length = (KeyedDiff.index normalId before).length := by
  unfold splitOf
  rw [KeyedDiff.length_removed_kept]
  exact KeyedDiff.countP_keys before nodup_comparedIds
    fun fid hfid => mem_comparedIds.mpr (Or.inl hfid)

variable (chars before after) in
theorem length_unchanged_new : (splitOf chars before after).kept.length +
    (splitOf chars before after).added.length = (KeyedDiff.index normalId after).length := by
  unfold splitOf
  rw [KeyedDiff.length_kept_added]
  exact KeyedDiff.countP_keys after nodup_comparedIds
    fun fid hfid => mem_comparedIds.mpr (Or.inr hfid)

variable (chars before) in
/-- With different ids the unchanged and the new findings are the after list. -/
theorem unchanged_new_perm (h : (after.map normalId).Nodup) :
    ((splitOf chars before after).kept ++ (splitOf chars before after).added).Perm after := by
  refine KeyedDiff.kept_added_perm.trans ?_
  exact KeyedDiff.filterMap_index_perm after h nodup_comparedIds
    fun fid hfid => mem_comparedIds.mpr (Or.inr hfid)

theorem isNone_index {findings : List PyDict} {fid : String} :
    (Dict.get? (KeyedDiff.index normalId findings) fid).isNone = true ↔
      fid ∉ findings.map normalId := by
  rw [← KeyedDiff.get?_index_isSome, ← Option.not_isSome, Bool.not_eq_true', Bool.not_eq_true]

theorem mem_fixed_iff (h : (before.map normalId).Nodup) {f : PyDict} :
    f ∈ (splitOf chars before after).removed ↔ f ∈ before ∧ normalId f ∉ after.map normalId := by
  rw [splitOf, KeyedDiff.removed_eq,
    KeyedDiff.mem_lookups h fun fid hfid => mem_comparedIds.mpr (Or.inl hfid), isNone_index]

theorem mem_unchanged_iff (h : (after.map normalId).Nodup) {f : PyDict} :
    f ∈ (splitOf chars before after).kept ↔ f ∈ after ∧ normalId f ∈ before.map normalId := by
  rw [splitOf, KeyedDiff.kept_eq,
    KeyedDiff.mem_lookups h fun fid hfid => mem_comparedIds.mpr (Or.inr hfid),
    KeyedDiff.get?_index_isSome]

theorem mem_new_iff (h : (after.map normalId).Nodup) {f : PyDict} :
    f ∈ (splitOf chars before after).added ↔ f ∈ after ∧ normalId f ∉ before.map normalId := by
  rw [splitOf, KeyedDiff.added_eq,
    KeyedDiff.mem_lookups h fun fid hfid => mem_comparedIds.mpr (Or.inr hfid), isNone_index]

/-- What is looked up in the order of the ids is the findings in that order. -/
theorem lookups_eq_inIdOrder {findings : List PyDict} {p : String → Bool}
    (h : (findings.map normalId).Nodup)
    (hmem : ∀ fid ∈ findings.map normalId, fid ∈ comparedIds chars before after) :
    KeyedDiff.lookups (KeyedDiff.index normalId findings) p (comparedIds chars before after) =
      inIdOrder chars (findings.filter fun f => p (normalId f)) := by
  have hfilter : ∀ f ∈ inIdOrder chars (findings.filter fun f => p (normalId f)),
      f ∈ findings := by
    intro f hf
    exact (List.mem_filter.mp ((List.mem_insertionSort _).mp hf)).1
  refine KeyedDiff.eq_of_map_key_eq h (fun f hf => (KeyedDiff.mem_of_mem_lookups hf).1) hfilter ?_
  rw [KeyedDiff.map_lookups, map_inIdOrder]
  have hsorted : (comparedIds chars before after).Pairwise (IdLe chars) :=
    List.pairwise_insertionSort _ _
  refine List.Perm.eq_of_pairwise' (hsorted.filter _) (List.pairwise_insertionSort _ _) ?_
  refine (List.perm_ext_iff_of_nodup (nodup_comparedIds.filter _) ?_).mpr ?_
  · refine (List.perm_insertionSort _ _).nodup_iff.mpr ?_
    exact h.sublist (List.filter_sublist.map normalId)
  · intro fid
    unfold idOrder
    rw [List.mem_insertionSort, List.mem_filter, Bool.and_eq_true, KeyedDiff.get?_index_isSome]
    simp only [List.mem_map, List.mem_filter]
    constructor
    · rintro ⟨-, hp, f, hf, rfl⟩
      exact ⟨f, ⟨hf, hp⟩, rfl⟩
    · rintro ⟨f, ⟨hf, hp⟩, rfl⟩
      exact ⟨hmem _ (List.mem_map_of_mem hf), hp, f, hf, rfl⟩

/-- The two lists split by their normalised ids, each part in the order of these. -/
def partsOf (chars : PyChars) (before after : List PyDict) : KeyedDiff.Diff PyDict where
  removed := inIdOrder chars (onlyIn before after)
  kept := inIdOrder chars (sharedWith after before)
  added := inIdOrder chars (onlyIn after before)

theorem splitOf_eq (hbefore : (before.map normalId).Nodup) (hafter : (after.map normalId).Nodup) :
    splitOf chars before after = partsOf chars before after := by
  have hnone : ∀ findings : List PyDict,
      (fun f => (Dict.get? (KeyedDiff.index normalId findings) (normalId f)).isNone) =
        fun f => decide (normalId f ∉ findings.map normalId) := by
    intro findings
    funext f
    rw [Bool.eq_iff_iff, isNone_index, decide_eq_true_eq]
  have hsome : ∀ findings : List PyDict,
      (fun f => (Dict.get? (KeyedDiff.index normalId findings) (normalId f)).isSome) =
        fun f => decide (normalId f ∈ findings.map normalId) := by
    intro findings
    funext f
    rw [Bool.eq_iff_iff, KeyedDiff.get?_index_isSome, decide_eq_true_eq]
  have hsplit : splitOf chars before after = ⟨(splitOf chars before after).removed,
      (splitOf chars before after).kept, (splitOf chars before after).added⟩ := rfl
  rw [hsplit]
  unfold partsOf onlyIn sharedWith
  rw [splitOf, KeyedDiff.removed_eq, KeyedDiff.kept_eq, KeyedDiff.added_eq,
    lookups_eq_inIdOrder hbefore fun fid hfid => mem_comparedIds.mpr (Or.inl hfid),
    lookups_eq_inIdOrder hafter fun fid hfid => mem_comparedIds.mpr (Or.inr hfid),
    lookups_eq_inIdOrder hafter fun fid hfid => mem_comparedIds.mpr (Or.inr hfid), hnone, hsome,
    hnone]

end Parts

section Ids

variable {chars : PyChars} {before after : List PyDict}

/-- Normalising removes the prefix, too. -/
theorem lstripC_withoutPrefix (s : String) : lstripC (withoutPrefix s) = lstripC s := by
  unfold withoutPrefix
  split
  · next rest hs =>
    unfold lstripC
    rw [hs, String.toList_ofList]
    rfl
  · rfl

theorem normalId_of_canonicalId {f g : PyDict} (h : canonicalId f = canonicalId g) :
    normalId f = normalId g := by
  unfold normalId
  rw [← lstripC_withoutPrefix (idText f), ← lstripC_withoutPrefix (idText g)]
  exact congrArg lstripC h

/-- In separated lists the normalised ids tell findings apart as the ids up to the prefix do. -/
theorem Separated.canonicalId_iff (h : Separated before after) {f g : PyDict}
    (hf : f ∈ before ∨ f ∈ after) (hg : g ∈ before ∨ g ∈ after) :
    canonicalId f = canonicalId g ↔ normalId f = normalId g := by
  refine ⟨normalId_of_canonicalId, fun hnormal => ?_⟩
  rcases hf with hf | hf <;> rcases hg with hg | hg
  · rw [List.inj_on_of_nodup_map h.beforeDistinct hf hg hnormal]
  · exact h.sameId f hf g hg hnormal
  · exact (h.sameId g hg f hf hnormal.symm).symm
  · rw [List.inj_on_of_nodup_map h.afterDistinct hf hg hnormal]

theorem Separated.listed_iff (h : Separated before after) {f : PyDict} {findings : List PyDict}
    (hf : f ∈ before ∨ f ∈ after) (hfindings : ∀ g ∈ findings, g ∈ before ∨ g ∈ after) :
    Listed f findings ↔ normalId f ∈ findings.map normalId := by
  unfold Listed
  rw [List.mem_map]
  constructor
  · rintro ⟨g, hg, heq⟩
    exact ⟨g, hg, normalId_of_canonicalId heq⟩
  · rintro ⟨g, hg, heq⟩
    exact ⟨g, hg, (h.canonicalId_iff (hfindings g hg) hf).mpr heq⟩

theorem mem_fixedIds (h : (before.map normalId).Nodup) {fid : String} :
    fid ∈ (splitOf chars before after).removed.map normalId ↔
      fid ∈ before.map normalId ∧ fid ∉ after.map normalId :=
  Lists.mem_map_iff_of_mem_iff (p := fun fid => fid ∉ after.map normalId) fun _ => mem_fixed_iff h

theorem mem_unchangedIds (h : (after.map normalId).Nodup) {fid : String} :
    fid ∈ (splitOf chars before after).kept.map normalId ↔
      fid ∈ before.map normalId ∧ fid ∈ after.map normalId := by
  rw [Lists.mem_map_iff_of_mem_iff (p := (· ∈ before.map normalId)) fun _ => mem_unchanged_iff h,
    and_comm]

theorem mem_newIds (h : (after.map normalId).Nodup) {fid : String} :
    fid ∈ (splitOf chars before after).added.map normalId ↔
      fid ∉ before.map normalId ∧ fid ∈ after.map normalId := by
  rw [Lists.mem_map_iff_of_mem_iff (p := (· ∉ before.map normalId)) fun _ => mem_new_iff h,
    and_comm]

/-- Lists without a common id give every id the status of its list. -/
theorem get?_findingStatus {fixedIds unchangedIds newIds : List String}
    (hunchanged : ∀ fid ∈ unchangedIds, fid ∉ fixedIds)
    (hnew : ∀ fid ∈ newIds, fid ∉ fixedIds ∧ fid ∉ unchangedIds) (fid s : String) :
    Dict.get? (findingStatus fixedIds unchangedIds newIds) fid = some s ↔
      (s = "Fixed" ∧ fid ∈ fixedIds) ∨ (s = "Unchanged" ∧ fid ∈ unchangedIds) ∨
      (s = "New" ∧ fid ∈ newIds) := by
  have hlookup : Dict.get? (findingStatus fixedIds unchangedIds newIds) fid =
      if fid ∈ newIds then some "New" else if fid ∈ unchangedIds then some "Unchanged"
      else if fid ∈ fixedIds then some "Fixed" else none := by
    unfold findingStatus
    rw [List.foldl_append, List.foldl_append, Dict.get?_foldl_set_const,
      Dict.get?_foldl_set_const, Dict.get?_foldl_set_const]
    rfl
  rw [hlookup]
  split_ifs with h₁ h₂ h₃
  · simp [h₁, hnew fid h₁, eq_comm]
  · simp [h₁, h₂, hunchanged fid h₂, eq_comm]
  · simp [h₁, h₂, h₃, eq_comm]
  · simp [h₁, h₂, h₃]

end Ids

section Verdict

variable {text : PyText} {chars : PyChars} {before after : List PyDict} {c : Comparison}

theorem Compares.listed_fixed (hc : Compares text chars before after c) (h : Separated before after)
    {f : PyDict} (hf : f ∈ before ∨ f ∈ after) : Listed f c.fixed ↔
      normalId f ∈ before.map normalId ∧ normalId f ∉ after.map normalId := by
  rw [hc.fixed, h.listed_iff hf fun g hg => Or.inl (mem_removed hg), mem_fixedIds h.beforeDistinct]

theorem Compares.listed_unchanged (hc : Compares text chars before after c)
    (h : Separated before after) {f : PyDict} (hf : f ∈ before ∨ f ∈ after) :
    Listed f c.unchanged ↔
      normalId f ∈ before.map normalId ∧ normalId f ∈ after.map normalId := by
  rw [hc.unchanged, h.listed_iff hf fun g hg => Or.inr (mem_kept hg),
    mem_unchangedIds h.afterDistinct]

theorem Compares.listed_new (hc : Compares text chars before after c) (h : Separated before after)
    {f : PyDict} (hf : f ∈ before ∨ f ∈ after) : Listed f c.new ↔
      normalId f ∉ before.map normalId ∧ normalId f ∈ after.map normalId := by
  rw [hc.new, h.listed_iff hf fun g hg => Or.inr (mem_added hg), mem_newIds h.afterDistinct]

/-- The counts of a level in the unchanged and the new findings add up to that of the list. -/
theorem Compares.counts_add (hc : Compares text chars before after c)
    (hdistinct : (after.map normalId).Nodup) (hsev : ∀ f ∈ after, TextSeverity f)
    {level : String} (hlevel : level ∈ severityLevels) :
    (Dict.get? c.unchangedCounts level).getD 0 + (Dict.get? c.newCounts level).getD 0 =
      c.afterSummary.count level := by
  have hperm := unchanged_new_perm chars before hdistinct
  rw [← hc.unchanged, ← hc.new] at hperm
  have hsevParts : ∀ f ∈ c.unchanged ++ c.new, TextSeverity f :=
    fun f hf => hsev f (hperm.mem_iff.mp hf)
  obtain ⟨hsevUnchanged, hsevNew⟩ := List.forall_mem_append.mp hsevParts
  obtain ⟨uc, huc, hgetU⟩ := levelCounts_ok text hsevUnchanged
  obtain ⟨nc, hnc, hgetN⟩ := levelCounts_ok text hsevNew
  obtain rfl := Except.ok.inj (huc.symm.trans hc.unchangedCounts)
  obtain rfl := Except.ok.inj (hnc.symm.trans hc.newCounts)
  rw [hgetU level hlevel, hgetN level hlevel, computeSummary_count hsev hc.summary hlevel]
  unfold upperCount
  rw [← hperm.countP_eq, List.countP_append]
  rfl

/-- In separated lists every comparison is a partition. -/
theorem Compares.partitioned (hc : Compares text chars before after c)
    (h : Separated before after) (hsev : ∀ f ∈ after, TextSeverity f) :
    Partitioned before after c := by
  constructor
  · intro f hf
    have hmem : normalId f ∈ before.map normalId := List.mem_map_of_mem hf
    rw [hc.listed_fixed h (Or.inl hf), hc.listed_unchanged h (Or.inl hf), xor_iff_not_iff]
    tauto
  · intro f hf
    have hmem : normalId f ∈ after.map normalId := List.mem_map_of_mem hf
    rw [hc.listed_unchanged h (Or.inr hf), hc.listed_new h (Or.inr hf), xor_iff_not_iff]
    tauto
  · rw [hc.fixed, hc.unchanged, length_fixed_unchanged]
    exact KeyedDiff.length_index.mpr h.beforeDistinct
  · rw [hc.unchanged, hc.new, length_unchanged_new]
    exact KeyedDiff.length_index.mpr h.afterDistinct
  · intro f hf
    rw [hc.listed_unchanged h hf, h.listed_iff hf fun _ => Or.inl, h.listed_iff hf fun _ => Or.inr]
  · intro fid s
    rw [hc.status, hc.fixed, hc.unchanged, hc.new]
    refine get?_findingStatus (fun fid hfid => ?_) (fun fid hfid => ?_) fid s
    · rw [mem_fixedIds h.beforeDistinct]
      rw [mem_unchangedIds h.afterDistinct] at hfid
      tauto
    · rw [mem_fixedIds h.beforeDistinct, mem_unchangedIds h.afterDistinct]
      rw [mem_newIds h.afterDistinct] at hfid
      tauto
  · exact fun level hlevel => hc.counts_add h.afterDistinct hsev hlevel

/-- A partition separates the lists: what the normalised ids merge is lost or taken for shared. -/
theorem Compares.separated (hc : Compares text chars before after c)
    (hne : ∀ f ∈ before ++ after, normalId f ≠ "") (h : Partitioned before after c) :
    Separated before after := by
  have hbefore : (before.map normalId).Nodup := by
    refine KeyedDiff.length_index.mp ?_
    rw [← length_fixed_unchanged chars before after, ← hc.fixed, ← hc.unchanged]
    exact h.beforeLength
  have hafter : (after.map normalId).Nodup := by
    refine KeyedDiff.length_index.mp ?_
    rw [← length_unchanged_new chars before after, ← hc.unchanged, ← hc.new]
    exact h.afterLength
  refine ⟨hne, hbefore, hafter, fun f hf g hg hnormal => ?_⟩
  have hkept : g ∈ c.unchanged := by
    rw [hc.unchanged, mem_unchanged_iff hafter, ← hnormal]
    exact ⟨hg, List.mem_map_of_mem hf⟩
  obtain ⟨⟨e, he, heg⟩, -⟩ := (h.shared g (Or.inr hg)).mp ⟨g, hkept, rfl⟩
  have hsame : e = f :=
    List.inj_on_of_nodup_map hbefore he hf ((normalId_of_canonicalId heg).trans hnormal.symm)
  rw [← hsame, heg]

end Verdict

/-- The comparison returns and partitions the lists exactly when the normalised ids are not empty
and tell the findings apart as their ids up to the prefix do, and the sums of the scores exist. -/
theorem comparison_partitions_iff (text : PyText) (chars : PyChars) (before after : List PyDict)
    (hids : ∀ f ∈ before ++ after, TextId f) (hsev : ∀ f ∈ before ++ after, TextSeverity f) :
    (∃ c, computeComparison text chars before after = .ok c ∧ Partitioned before after c) ↔
      Separated before after ∧ SumsExist before after (partsOf chars before after) := by
  constructor
  · rintro ⟨c, hc, hpart⟩
    obtain ⟨hne, hsums⟩ := (computeComparison_returns text hids hsev).mp ⟨c, hc⟩
    have hsep := (computeComparison_ok hids hc).separated hne hpart
    rw [splitOf_eq hsep.beforeDistinct hsep.afterDistinct] at hsums
    exact ⟨hsep, hsums⟩
  · rintro ⟨hsep, hsums⟩
    rw [← splitOf_eq hsep.beforeDistinct hsep.afterDistinct] at hsums
    obtain ⟨c, hc⟩ := (computeComparison_returns text hids hsev).mpr
      ⟨hsep.nonempty, hsums⟩
    exact ⟨c, hc, (computeComparison_ok hids hc).partitioned hsep
      fun f hf => hsev f (List.mem_append_right before hf)⟩

section Small

variable {chars : PyChars} {before after : List PyDict}

theorem averageable_of_mass {findings : List PyDict}
    (h : PyNumber.mass (cvssScores findings) < floatLimit) : Averageable findings := by
  refine ⟨PyNumber.summable_of_mass h, fun ints hints hne => ?_⟩
  have hsum := PyNumber.natAbs_sum_le_mass ints []
  rw [List.append_nil, ← hints] at hsum
  have hlength : (1 : ℚ) ≤ ints.length := by
    exact_mod_cast List.length_pos_iff.mpr hne
  have hlimit : |(ints.sum : ℚ)| < floatLimit := by
    have hnat : ints.sum.natAbs < floatLimit := by
      simp only [PyNumber.mass] at hsum
      omega
    have hcast : ((ints.sum.natAbs : ℕ) : ℚ) < (floatLimit : ℕ) := Nat.cast_lt.mpr hnat
    rwa [Nat.cast_natAbs, Int.cast_abs] at hcast
  calc
    |(ints.sum : ℚ) / ints.length| = |(ints.sum : ℚ)| / ints.length := by
      rw [abs_div, Nat.abs_cast]
    _ ≤ |(ints.sum : ℚ)| := div_le_self (abs_nonneg _) hlength
    _ < floatLimit := hlimit

theorem comparable_of_mass {xs ys : List PyNumber} (h : PyNumber.mass xs < floatLimit) :
    PyNumber.Comparable xs ys := by
  rintro ints rfl -
  have hsum := PyNumber.natAbs_sum_le_mass ints []
  simp only [PyNumber.mass, List.append_nil] at hsum
  omega

theorem mass_inIdOrder_filter (findings : List PyDict) (p : PyDict → Bool) :
    PyNumber.mass (cvssScores (inIdOrder chars (findings.filter p))) ≤
      PyNumber.mass (cvssScores findings) := by
  have hperm : (inIdOrder chars (findings.filter p)).Perm (findings.filter p) :=
    List.perm_insertionSort _ _
  calc
    PyNumber.mass (cvssScores (inIdOrder chars (findings.filter p)))
        = PyNumber.mass (cvssScores (findings.filter p)) := PyNumber.mass_perm (hperm.filterMap _)
    _ ≤ PyNumber.mass (cvssScores findings) :=
      PyNumber.mass_sublist (List.filter_sublist.filterMap _)

/-- Integer scores that are small in all leave every sum of the comparison a number. -/
theorem sumsExist_of_mass (hbefore : PyNumber.mass (cvssScores before) < floatLimit)
    (hafter : PyNumber.mass (cvssScores after) < floatLimit) :
    SumsExist before after (partsOf chars before after) where
  ofBefore := averageable_of_mass hbefore
  ofAfter := averageable_of_mass hafter
  difference := ⟨comparable_of_mass hbefore, comparable_of_mass hafter⟩
  removed := PyNumber.summable_of_mass (lt_of_le_of_lt (mass_inIdOrder_filter _ _) hbefore)
  kept := PyNumber.summable_of_mass (lt_of_le_of_lt (mass_inIdOrder_filter _ _) hafter)
  added := PyNumber.summable_of_mass (lt_of_le_of_lt (mass_inIdOrder_filter _ _) hafter)

end Small

def comparedFinding (id : String) : PyDict :=
  [("id", .str id), ("severity", .str "HIGH"), ("cvss", .int 8)]

theorem textId_comparedFinding (id : String) : TextId (comparedFinding id) := ⟨id, rfl⟩

theorem textSeverity_comparedFinding (id : String) : TextSeverity (comparedFinding id) := by
  intro v hv
  exact ⟨"HIGH", (Option.some.inj hv).symm⟩

theorem comparison_partitions_iff_fixed :
    ∃ c, computeComparison PyText.ascii PyChars.ascii
        [comparedFinding "C-VULN-01", comparedFinding "VULN-02"] [comparedFinding "VULN-01"] =
        .ok c ∧
      Partitioned [comparedFinding "C-VULN-01", comparedFinding "VULN-02"]
        [comparedFinding "VULN-01"] c := by
  refine (comparison_partitions_iff PyText.ascii PyChars.ascii _ _ ?_ ?_).mpr ⟨?_, ?_⟩
  · simp [textId_comparedFinding]
  · simp [textSeverity_comparedFinding]
  · have hnormal : ∀ id, normalId (comparedFinding id) = lstripC id := fun _ => rfl
    have hcanonical : ∀ id, canonicalId (comparedFinding id) = withoutPrefix id := fun _ => rfl
    constructor
    · simp only [List.cons_append, List.nil_append, List.forall_mem_cons, hnormal]
      decide
    · simp only [List.map_cons, List.map_nil, hnormal]
      decide
    · simp only [List.map_cons, List.map_nil, hnormal]
      decide
    · simp only [List.forall_mem_cons, hnormal, hcanonical]
      decide
  · refine sumsExist_of_mass ?_ ?_
    · decide +kernel
    · decide +kernel

/-- The normaliser strips more than the prefix: two ids that differ are taken for one. -/
theorem comparison_merges_ids :
    ¬ ∃ c, computeComparison PyText.ascii PyChars.ascii [comparedFinding "CRIT-01"]
        [comparedFinding "RIT-01"] = .ok c ∧
      Partitioned [comparedFinding "CRIT-01"] [comparedFinding "RIT-01"] c := by
  rintro ⟨c, hc, hpart⟩
  have hids : ∀ f ∈ [comparedFinding "CRIT-01"] ++ [comparedFinding "RIT-01"], TextId f := by
    simp [textId_comparedFinding]
  have hsev : ∀ f ∈ [comparedFinding "CRIT-01"] ++ [comparedFinding "RIT-01"],
      TextSeverity f := by
    simp [textSeverity_comparedFinding]
  obtain ⟨hne, -⟩ := (computeComparison_returns PyText.ascii hids hsev).mp ⟨c, hc⟩
  have hsep := (computeComparison_ok hids hc).separated hne hpart
  have hsame := hsep.sameId _ List.mem_cons_self _ List.mem_cons_self (by decide)
  exact absurd hsame (by decide)

end SolanaAuditor.Reports.Dashboard
