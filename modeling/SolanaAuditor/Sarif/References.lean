/- SolanaAuditor/Sarif/References
   digest: When every result of a SARIF log refers to exactly one of its rules. -/

import SolanaAuditor.Lib.Lists
import SolanaAuditor.Sarif.SarifCore

set_option autoImplicit false
set_option relaxedAutoImplicit false

namespace SolanaAuditor.Sarif

open SolanaAuditor.Lib

/-- The id under which a finding declares a rule, if it is not false. -/
def ruleKey (f : PyDict) : Option PyKey := if truthy (idOf f) then pyKey (idOf f) else none

/-- The findings that declare a rule. -/
def declaring (findings : List PyDict) : List PyDict := Lists.firstsBy ruleKey [] findings

/-- The finding is the first one to carry its id, which is not false. -/
def Declares (findings : List PyDict) (f : PyDict) : Prop :=
  ∃ key, Lists.FirstOf ruleKey findings f key

theorem mem_declaring {findings : List PyDict} {f : PyDict} :
    f ∈ declaring findings ↔ Declares findings f := by
  simp [declaring, Declares, Lists.mem_firstsBy]

theorem Declares.truthy {findings : List PyDict} {f : PyDict} (h : Declares findings f) :
    truthy (idOf f) = true := by
  obtain ⟨key, hkey, -⟩ := h
  unfold ruleKey at hkey
  split at hkey
  · assumption
  · simp at hkey

/-- Results stand for the findings one to one and in order, the rules have pairwise different
ids, and every result has exactly one rule. -/
structure ReferentiallySound (text : PyText) (ruleIdPrefix : String) (findings : List PyDict)
    (log : SarifLog) : Prop where
  onePerFinding : List.Forall₂ (fun f r => sarifResult text ruleIdPrefix f = .ok r) findings
    log.results
  distinctRules : (log.rules.map SarifRule.id).Nodup
  resolved : ∀ r ∈ log.results, (log.rules.map SarifRule.id).count r.ruleId = 1

/-- Two findings that declare rules differ in their written ids as they do in their ids, and
every written id is the one of a finding that declares a rule. -/
structure IdsResolve (text : PyText) (findings : List PyDict) : Prop where
  apart : ∀ f g, Declares findings f → Declares findings g →
    writtenId text f = writtenId text g → ruleKey f = ruleKey g
  declared : ∀ f ∈ findings, ∃ g, Declares findings g ∧ writtenId text g = writtenId text f

section Rules

variable {text : PyText} {ruleIdPrefix : String}

variable (text ruleIdPrefix) in
theorem collects_buildSarifResults :
    Collects (sarifResult text ruleIdPrefix) (buildSarifResults text ruleIdPrefix) :=
  ⟨rfl, fun _ _ => rfl⟩

theorem sarifResult_ruleId {f : PyDict} {r : SarifResult}
    (h : sarifResult text ruleIdPrefix f = .ok r) : r.ruleId = ruleIdPrefix ++ writtenId text f := by
  simp only [sarifResult, Py.bind_eq_ok] at h
  obtain ⟨level, -, location, -, h⟩ := h
  obtain rfl := Except.ok.inj h
  rfl

/-- The default of a missing id does not matter where the id is not false. -/
theorem writtenId_of_truthy {f : PyDict} (h : truthy (idOf f) = true) :
    text.format (idOf f) = writtenId text f := by
  unfold writtenId
  unfold idOf field at h ⊢
  cases hid : Dict.get? f "id" with
  | some v => rfl
  | none =>
    rw [hid] at h
    exact absurd h (by decide)

theorem sarifRule_id {f : PyDict} {rule : SarifRule} (hid : truthy (idOf f) = true)
    (h : sarifRule text ruleIdPrefix f = .ok rule) :
    rule.id = ruleIdPrefix ++ writtenId text f := by
  simp only [sarifRule, Py.bind_eq_ok] at h
  obtain ⟨parts, -, tag, -, cwe, -, caught, -, name, -, level, -, h⟩ := h
  obtain rfl := Except.ok.inj h
  exact congrArg (ruleIdPrefix ++ ·) (writtenId_of_truthy hid)

/-- A rule for each first finding with its id, where every id is hashable. -/
theorem rulesFrom_ok_iff {seen : List PyKey} {findings : List PyDict} {rules : List SarifRule} :
    rulesFrom text ruleIdPrefix seen findings = .ok rules ↔
      (∀ f ∈ findings, truthy (idOf f) = true → ∃ key, pyKey (idOf f) = some key) ∧
        List.Forall₂ (fun f rule => sarifRule text ruleIdPrefix f = .ok rule)
          (Lists.firstsBy ruleKey seen findings) rules := by
  induction findings generalizing seen rules with
  | nil =>
    constructor
    · intro h
      obtain rfl : [] = rules := Except.ok.inj h
      exact ⟨by simp, .nil⟩
    · rintro ⟨-, h⟩
      cases h
      rfl
  | cons f findings ih =>
    rw [List.forall_mem_cons]
    unfold rulesFrom
    unfold Lists.firstsBy
    cases htruthy : truthy (idOf f) with
    | false =>
      have hnone : ruleKey f = none := by simp [ruleKey, htruthy]
      simpa [hnone] using ih
    | true =>
      have hsame : ruleKey f = pyKey (idOf f) := by simp [ruleKey, htruthy]
      rw [hsame]
      simp only [Bool.not_true, Bool.false_eq_true, if_false, forall_const]
      cases hkey : pyKey (idOf f) with
      | none => simp
      | some key =>
        have hsome : ∃ k, some key = some k := ⟨key, rfl⟩
        simp only [hsome, true_and]
        split_ifs with hseen
        · exact ih
        · simp only [Py.bind_eq_ok, ih]
          constructor
          · rintro ⟨rule, hrule, rest, ⟨hids, hrest⟩, h⟩
            obtain rfl := Except.ok.inj h
            exact ⟨hids, .cons hrule hrest⟩
          · rintro ⟨hids, hall⟩
            cases hall with
            | cons hrule hrest => exact ⟨_, hrule, _, ⟨hids, hrest⟩, rfl⟩

theorem buildSarifLog_ok {findings : List PyDict} {organization informationUri : String}
    {log : SarifLog}
    (h : buildSarifLog text findings ruleIdPrefix organization informationUri = .ok log) :
    List.Forall₂ (fun f rule => sarifRule text ruleIdPrefix f = .ok rule) (declaring findings)
        log.rules ∧
      List.Forall₂ (fun f r => sarifResult text ruleIdPrefix f = .ok r) findings log.results := by
  simp only [buildSarifLog, Py.bind_eq_ok] at h
  obtain ⟨rules, hrules, results, hresults, h⟩ := h
  obtain rfl := Except.ok.inj h
  exact ⟨(rulesFrom_ok_iff.mp hrules).2, (collects_buildSarifResults _ _).ok_iff.mp hresults⟩

/-- The ids of the rules are the written ids of the findings that declare them. -/
theorem ruleIds_eq {findings : List PyDict} {rules : List SarifRule}
    (h : List.Forall₂ (fun f rule => sarifRule text ruleIdPrefix f = .ok rule)
      (declaring findings) rules) :
    rules.map SarifRule.id = ((declaring findings).map (writtenId text)).map (ruleIdPrefix ++ ·) := by
  have htruthy : ∀ f ∈ declaring findings, truthy (idOf f) = true :=
    fun f hf => (mem_declaring.mp hf).truthy
  generalize declaring findings = declared at h htruthy ⊢
  induction h with
  | nil => rfl
  | cons hf _ ih =>
    obtain ⟨hhead, htail⟩ := List.forall_mem_cons.mp htruthy
    rw [List.map_cons, List.map_cons, List.map_cons, ih htail, sarifRule_id hhead hf]

theorem prefix_injective (ruleIdPrefix : String) : Function.Injective (ruleIdPrefix ++ ·) := by
  intro s t h
  have hlists := congrArg String.toList h
  simp only [String.toList_append] at hlists
  exact String.toList_injective (List.append_cancel_left hlists)

/-- The written ids of the rules are pairwise different when equal ones come from equal ids. -/
theorem nodup_writtenIds {findings : List PyDict} :
    ((declaring findings).map (writtenId text)).Nodup ↔
      ∀ f g, Declares findings f → Declares findings g →
        writtenId text f = writtenId text g → ruleKey f = ruleKey g := by
  have hkeys : ((declaring findings).map ruleKey).Nodup := Lists.nodup_firstsBy
  have hinj := List.inj_on_of_nodup_map hkeys
  rw [List.nodup_map_iff_inj_on hkeys.of_map]
  simp only [mem_declaring] at hinj ⊢
  constructor
  · intro h f g hf hg heq
    rw [h f hf g hg heq]
  · intro h f hf g hg heq
    exact hinj hf hg (h f g hf hg heq)

end Rules

section TextIds

variable {text : PyText} {findings : List PyDict}

theorem ruleKey_of_text {f : PyDict} {s : String} (h : Dict.get? f "id" = some (.str s))
    (hs : s ≠ "") : ruleKey f = some (.text s) := by
  simp [ruleKey, idOf, field, h, truthy, hs, pyKey]

theorem writtenId_of_text {f : PyDict} {s : String} (h : Dict.get? f "id" = some (.str s)) :
    writtenId text f = s := by
  simp [writtenId, field, h, PyText.format]

theorem writtenId_of_none {f : PyDict} (h : Dict.get? f "id" = none) :
    writtenId text f = "UNKNOWN" := by
  simp [writtenId, field, h, PyText.format]

/-- Text ids resolve when none is empty, and a missing one is written as the id of a finding. -/
theorem idsResolve_of_texts
    (h : ∀ f ∈ findings, ∀ v, Dict.get? f "id" = some v → ∃ s, v = .str s) :
    IdsResolve text findings ↔ ∀ f ∈ findings, Dict.get? f "id" ≠ some (.str "") ∧
      (Dict.get? f "id" = none → ∃ g ∈ findings, Dict.get? g "id" = some (.str "UNKNOWN")) := by
  have hdeclares : ∀ g, Declares findings g → g ∈ findings ∧ ∃ s, s ≠ "" ∧
      Dict.get? g "id" = some (.str s) ∧ ruleKey g = some (.text s) ∧ writtenId text g = s := by
    rintro g hg
    have hmem : g ∈ findings := hg.choose_spec.mem
    have htrue := hg.truthy
    refine ⟨hmem, ?_⟩
    cases hid : Dict.get? g "id" with
    | none => simp [idOf, field, hid, SolanaAuditor.truthy] at htrue
    | some v =>
      obtain ⟨s, rfl⟩ := h g hmem v hid
      have hs : s ≠ "" := by simpa [idOf, field, hid, SolanaAuditor.truthy] using htrue
      exact ⟨s, hs, rfl, ruleKey_of_text hid hs, writtenId_of_text hid⟩
  have hfirst : ∀ g ∈ findings, ∀ s, s ≠ "" → Dict.get? g "id" = some (.str s) →
      ∃ g', Declares findings g' ∧ writtenId text g' = s := by
    intro g hg s hs hid
    obtain ⟨g', hg'⟩ := Lists.exists_firstOf hg (ruleKey_of_text hid hs)
    obtain ⟨-, s', -, -, hkey, hwritten⟩ := hdeclares g' ⟨_, hg'⟩
    rw [hg'.1, Option.some.injEq, PyKey.text.injEq] at hkey
    exact ⟨g', ⟨_, hg'⟩, hwritten.trans hkey.symm⟩
  constructor
  · intro hresolve f hf
    obtain ⟨g, hg, hwritten⟩ := hresolve.declared f hf
    obtain ⟨hmem, s, hs, hid, -, hgs⟩ := hdeclares g hg
    rw [hgs] at hwritten
    constructor
    · intro hempty
      exact hs (hwritten.trans (writtenId_of_text hempty))
    · intro hnone
      refine ⟨g, hmem, ?_⟩
      rw [hid, hwritten, writtenId_of_none hnone]
  · intro hids
    constructor
    · intro f g hf hg heq
      obtain ⟨-, s, -, -, hkey, hs⟩ := hdeclares f hf
      obtain ⟨-, t, -, -, hkey', ht⟩ := hdeclares g hg
      rw [hkey, hkey', ← hs, ← ht, heq]
    · intro f hf
      obtain ⟨hne, hunknown⟩ := hids f hf
      cases hid : Dict.get? f "id" with
      | none =>
        obtain ⟨g, hg, hgid⟩ := hunknown hid
        obtain ⟨g', hg', hwritten⟩ := hfirst g hg "UNKNOWN" (by decide) hgid
        exact ⟨g', hg', hwritten.trans (writtenId_of_none hid).symm⟩
      | some v =>
        obtain ⟨s, rfl⟩ := h f hf v hid
        obtain ⟨g', hg', hwritten⟩ := hfirst f hf s (by simpa [hid] using hne) hid
        exact ⟨g', hg', hwritten.trans (writtenId_of_text hid).symm⟩

end TextIds

/-- The log is referentially sound exactly when the ids of the findings resolve. -/
theorem log_sound_iff (text : PyText) (findings : List PyDict)
    (ruleIdPrefix organization informationUri : String) {log : SarifLog}
    (h : buildSarifLog text findings ruleIdPrefix organization informationUri = .ok log) :
    ReferentiallySound text ruleIdPrefix findings log ↔ IdsResolve text findings := by
  obtain ⟨hrules, hresults⟩ := buildSarifLog_ok h
  have hids := ruleIds_eq hrules
  have hresolved : (∀ f ∈ findings, ruleIdPrefix ++ writtenId text f ∈ log.rules.map SarifRule.id) ↔
      ∀ r ∈ log.results, r.ruleId ∈ log.rules.map SarifRule.id :=
    Lists.forall_mem_iff_of_forall₂ hresults fun f _ r hr => by rw [sarifResult_ruleId hr]
  have hdeclared : (∀ f ∈ findings,
      ruleIdPrefix ++ writtenId text f ∈ log.rules.map SarifRule.id) ↔
      ∀ f ∈ findings, ∃ g, Declares findings g ∧ writtenId text g = writtenId text f := by
    refine forall₂_congr fun f _ => ?_
    rw [hids, List.mem_map_of_injective (prefix_injective ruleIdPrefix), List.mem_map]
    simp only [mem_declaring]
  have hdistinct : (log.rules.map SarifRule.id).Nodup ↔
      ((declaring findings).map (writtenId text)).Nodup := by
    rw [hids, List.nodup_map_iff (prefix_injective ruleIdPrefix)]
  constructor
  · intro hsound
    refine ⟨nodup_writtenIds.mp (hdistinct.mp hsound.distinctRules), ?_⟩
    refine hdeclared.mp (hresolved.mpr fun r hr => ?_)
    exact List.count_pos_iff.mp (by rw [hsound.resolved r hr]; exact Nat.one_pos)
  · intro hids
    have hnodup := hdistinct.mpr (nodup_writtenIds.mpr hids.apart)
    refine ⟨hresults, hnodup, fun r hr => ?_⟩
    exact List.count_eq_one_of_mem hnodup (hresolved.mp (hdeclared.mpr hids.declared) r hr)

def sampleFinding (id : String) : PyDict :=
  [("id", .str id), ("severity", .str "HIGH"), ("title", .str "Unchecked CPI"),
    ("cvss", .int 8), ("location", .obj [("file", .str "lib.rs"), ("line", .int 42)])]

theorem log_sound_iff_repeated :
    ∃ log, buildSarifLog PyText.ascii [sampleFinding "VULN-01", sampleFinding "VULN-01"] "SHIBA-"
        "Auditor" "https://example" = .ok log ∧
      ReferentiallySound PyText.ascii "SHIBA-"
        [sampleFinding "VULN-01", sampleFinding "VULN-01"] log := by
  refine ⟨_, rfl, (log_sound_iff PyText.ascii _ "SHIBA-" "Auditor" "https://example" rfl).mpr ?_⟩
  have hid : ∀ f ∈ [sampleFinding "VULN-01", sampleFinding "VULN-01"],
      Dict.get? f "id" = some (.str "VULN-01") := by
    intro f hf
    obtain rfl : f = sampleFinding "VULN-01" := by simpa using hf
    rfl
  refine (idsResolve_of_texts fun f hf v hv => ?_).mpr fun f hf => ?_
  · exact ⟨"VULN-01", Option.some.inj (hv.symm.trans (hid f hf))⟩
  · simp [hid f hf]

/-- The result of a finding without an id refers to no rule. -/
theorem log_of_missing_id_unsound :
    ∃ log, buildSarifLog PyText.ascii [[("title", .str "Unchecked CPI")]] "SHIBA-" "Auditor"
        "https://example" = .ok log ∧
      ¬ ReferentiallySound PyText.ascii "SHIBA-" [[("title", .str "Unchecked CPI")]] log := by
  refine ⟨_, rfl, fun h => ?_⟩
  exact absurd (h.resolved _ List.mem_cons_self) (by decide)

end SolanaAuditor.Sarif
