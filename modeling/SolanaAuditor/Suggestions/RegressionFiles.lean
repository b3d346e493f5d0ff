/- SolanaAuditor/Suggestions/RegressionFiles
   digest: When write_regression_tests writes the test of each finding to a file of its own. -/

import Mathlib.Data.List.ReduceOption
import SolanaAuditor.Suggestions.Alignment
import SolanaAuditor.Suggestions.OutputPaths
import SolanaAuditor.Suggestions.RegressionTests

set_option autoImplicit false
set_option relaxedAutoImplicit false

namespace SolanaAuditor.Suggestions

open SolanaAuditor.Lib

section Findings

/-- The id of a finding that has a text for it. -/
def idOf (d : PyDict) : String :=
  match d.get "id" with
  | .str id => id
  | _ => ""

/-- Every finding has an id that `validate_finding_id` takes. -/
def ValidIds (findings : List PyDict) : Prop :=
  ∀ d ∈ findings, Dict.get? d "id" = some (.str (idOf d)) ∧ validateFindingId (idOf d) = .ok ()

/-- `generate_fix_suggestion` does not raise an exception. -/
structure HasSuggestion (d : PyDict) : Prop where
  ruleCaught : TextOrFalsy ((Dict.get? d "rule_caught").getD (.str ""))
  location : ∃ entries, (Dict.get? d "location").getD (.obj []) = .obj entries
  cwe : TextOrFalsy (d.get "cwe")
  cvss : ∃ x, toFloat ((Dict.get? d "cvss").getD (.float (.finite 7))) = .ok x

variable (text : PyText) (getFixTemplate : String → Json → FixTemplate)

/-- The suggestion of a finding with an id; the index does not matter to it. -/
def ownSuggestion (d : PyDict) : Option FixSuggestion :=
  (suggestionOf text getFixTemplate d 0).toOption

variable {text getFixTemplate} {d : PyDict} {s : FixSuggestion} {findings : List PyDict}

theorem suggestionOf_index {id : Json} (hid : Dict.get? d "id" = some id) (index : Nat) :
    suggestionOf text getFixTemplate d index = suggestionOf text getFixTemplate d 0 := by
  simp [suggestionOf, generateFindingId, hid]

theorem ownSuggestion_isSome (hid : Dict.get? d "id" = some (.str (idOf d))) :
    (ownSuggestion text getFixTemplate d).isSome = true ↔ HasSuggestion d := by
  have hreturns := suggestionOf_returns text getFixTemplate d 0
  have hsome : (ownSuggestion text getFixTemplate d).isSome = true ↔
      ∃ s, suggestionOf text getFixTemplate d 0 = .ok s := by
    unfold ownSuggestion
    cases suggestionOf text getFixTemplate d 0 <;> simp [Except.toOption]
  rw [hsome, hreturns]
  constructor
  · rintro ⟨hrule, hlocation, hcwe, hcvss, -⟩
    exact ⟨hrule, hlocation, hcwe, hcvss⟩
  · intro h
    exact ⟨h.ruleCaught, h.location, h.cwe, h.cvss, _, by rw [hid]; rfl⟩

theorem findingId_of_own (hid : Dict.get? d "id" = some (.str (idOf d)))
    (h : ownSuggestion text getFixTemplate d = some s) : s.findingId = "SUGGEST-" ++ idOf d := by
  unfold ownSuggestion at h
  cases hs : suggestionOf text getFixTemplate d 0 with
  | error e => simp [hs, Except.toOption] at h
  | ok t =>
    obtain rfl : t = s := by simpa [hs, Except.toOption] using h
    simp only [suggestionOf, Py.bind_eq_ok] at hs
    obtain ⟨_, -, _, -, _, -, _, -, _, -, _, -, _, -, hs⟩ := hs
    obtain rfl := Except.ok.inj hs
    simp [generateFindingId, hid, PyText.format]

/-- The loop of `generate_all_suggestions` keeps the findings with a suggestion. -/
theorem generateAllSuggestions_eq (h : ValidIds findings) :
    generateAllSuggestions text getFixTemplate (findings.map Json.obj) =
      findings.filterMap (ownSuggestion text getFixTemplate) := by
  unfold generateAllSuggestions
  generalize 0 = idx
  induction findings generalizing idx with
  | nil => rfl
  | cons d findings ih =>
    obtain ⟨⟨hid, -⟩, hrest⟩ := List.forall_mem_cons.mp h
    have hindex : suggestionOf text getFixTemplate d idx = suggestionOf text getFixTemplate d 0 :=
      suggestionOf_index hid idx
    rw [List.map_cons, suggestionsFrom, List.filterMap_cons, ownSuggestion, generateFixSuggestion,
      hindex]
    cases hs : suggestionOf text getFixTemplate d 0 with
    | ok s => simpa [Except.toOption] using ih hrest (idx + 1)
    | error e => simpa [Except.toOption] using ih hrest (idx + 1)

end Findings

section Decoding

/-! The id of a suggestion is that of its finding with a prefix; the prefix is then removed
everywhere. -/

def suggestMark : List Char := "SUGGEST-".toList

theorem withoutSuggest_length (s : List Char) :
    withoutSuggest s = s ∨ (withoutSuggest s).length < s.length := by
  fun_induction withoutSuggest s with
  | case1 s ih =>
    right
    rcases ih with h | h
    · rw [h]
      simp only [List.length_cons]
      omega
    · simp only [List.length_cons]
      omega
  | case2 c s hmark ih =>
    rcases ih with h | h
    · exact .inl (by rw [h])
    · exact .inr (by simpa using h)
  | case3 => exact .inl rfl

theorem withoutSuggest_mark (s : List Char) :
    withoutSuggest (suggestMark ++ s) = withoutSuggest s := rfl

/-- Only a text without the prefix in it is left as it is. -/
theorem withoutSuggest_eq_iff (s : List Char) : withoutSuggest s = s ↔ ¬ suggestMark <:+: s := by
  fun_induction withoutSuggest s with
  | case1 s ih =>
    refine iff_of_false ?_ (not_not.mpr ⟨[], s, rfl⟩)
    intro h
    have hlength := congrArg List.length h
    rcases withoutSuggest_length s with hs | hs
    · rw [hs] at hlength
      simp only [List.length_cons] at hlength
      omega
    · simp only [List.length_cons] at hlength
      omega
  | case2 c s hmark ih =>
    rw [List.cons.injEq, ih, List.infix_cons_iff, not_or]
    simp only [true_and, iff_and_self]
    rintro - ⟨t, ht⟩
    have hcons : c :: s = 'S' :: 'U' :: 'G' :: 'G' :: 'E' :: 'S' :: 'T' :: '-' :: t := ht.symm
    obtain ⟨hc, hs⟩ := List.cons.inj hcons
    exact hmark t hc hs
  | case3 =>
    refine iff_of_true rfl fun h => ?_
    exact absurd (List.eq_nil_of_infix_nil h) (by decide)

/-- The id that `write_regression_tests` looks for, for a finding with an id. -/
def decodedId (id : String) : String := String.ofList (withoutSuggest id.toList)

theorem suggestedId_own {text : PyText} {getFixTemplate : String → Json → FixTemplate} {d : PyDict}
    {s : FixSuggestion} (hid : Dict.get? d "id" = some (.str (idOf d)))
    (h : ownSuggestion text getFixTemplate d = some s) : suggestedId s = decodedId (idOf d) := by
  rw [suggestedId, findingId_of_own hid h, String.toList_append, decodedId]
  exact congrArg String.ofList (withoutSuggest_mark (idOf d).toList)

theorem decodedId_size (id : String) :
    decodedId id = id ∨ (decodedId id).toList.length < id.toList.length := by
  rw [decodedId, String.toList_ofList]
  exact (withoutSuggest_length id.toList).imp_left fun h => by rw [h, String.ofList_toList]

theorem decodedId_eq_iff (id : String) : decodedId id = id ↔ isSubstring "SUGGEST-" id = false := by
  have hlist : decodedId id = id ↔ withoutSuggest id.toList = id.toList := by
    constructor
    · intro h
      rw [← String.toList_ofList (l := withoutSuggest id.toList)]
      exact congrArg String.toList h
    · intro h
      rw [decodedId, h, String.ofList_toList]
  rw [hlist, withoutSuggest_eq_iff, isSubstring, decide_eq_false_iff_not]
  rfl

end Decoding

section Names

variable {text : PyText}

theorem isIdOrBreak_toLower {c : Char} (h : isIdOrBreak c = true) :
    isIdOrBreak c.toLower = true :=
  of_isIdOrBreak (P := fun c => isIdOrBreak c.toLower = true) (by decide) h

/-- The characters of an id are still those of an id after `lower()`. -/
theorem lower_isId (hlower : AsciiLower text) {id : String}
    (hid : ∀ c ∈ id.toList, isIdOrBreak c = true) :
    ∀ c ∈ (text.lower id).toList, isIdOrBreak c = true := by
  rw [hlower id fun c hc => isIdOrBreak_lt (hid c hc)]
  intro c hc
  rw [PyText.ascii, String.toList_ofList] at hc
  obtain ⟨d, hd, rfl⟩ := List.mem_map.mp hc
  exact isIdOrBreak_toLower (hid d hd)

/-- What the characters of an id become in the name of its test. -/
theorem lower_chars (hlower : AsciiLower text) {id : String}
    (hid : ∀ c ∈ id.toList, isIdOrBreak c = true) :
    ∀ c ∈ (text.lower id).toList, c ≠ '/' ∧ c.toNat ≠ 0 := fun c hc =>
  of_isIdOrBreak (P := fun c => c ≠ '/' ∧ c.toNat ≠ 0) (by decide) (lower_isId hlower hid c hc)

def testPath (text : PyText) (dir : PosixPath) (id : String) : PosixPath :=
  dir.join (pathOf (testFilename text id))

theorem testFilename_toList (id : String) :
    (testFilename text id).toList =
      "test_".toList ++ (text.lower id).toList ++ "_regression.rs".toList := by
  simp [testFilename]

theorem join_plain (dir : PosixPath) {name : String} (hslash : '/' ∉ name.toList)
    (hlength : 2 < name.toList.length) :
    dir.join (pathOf name) = { dir with segments := dir.segments ++ [.down name] } := by
  rw [pathOf_plain hslash hlength, PosixPath.join]
  rfl

theorem testPath_eq (hlower : AsciiLower text) (dir : PosixPath) {id : String}
    (hid : ∀ c ∈ id.toList, isIdOrBreak c = true) :
    testPath text dir id = { dir with segments := dir.segments ++ [.down (testFilename text id)] } := by
  refine join_plain dir ?_ ?_
  · rw [testFilename_toList]
    simp only [List.mem_append, not_or]
    exact ⟨⟨by decide, fun h => (lower_chars hlower hid _ h).1 rfl⟩, by decide⟩
  · rw [testFilename_toList]
    have hsuffix : "_regression.rs".toList.length = 14 := by decide
    simp only [List.length_append]
    omega

theorem combinedPath_eq (dir : PosixPath) :
    dir.join (pathOf combinedFilename) =
      { dir with segments := dir.segments ++ [.down combinedFilename] } :=
  join_plain dir (by decide) (by decide)

theorem testFilename_inj {a b : String} :
    testFilename text a = testFilename text b ↔ text.lower a = text.lower b := by
  constructor
  · intro h
    have hlist := congrArg String.toList h
    rw [testFilename_toList, testFilename_toList, List.append_assoc, List.append_assoc] at hlist
    exact String.toList_injective (List.append_cancel_right (List.append_cancel_left hlist))
  · intro h
    rw [testFilename, h, testFilename]

/-- The two names differ in the character before `.rs`. -/
theorem testFilename_ne_combined (text : PyText) (id : String) :
    testFilename text id ≠ combinedFilename := by
  intro h
  have hlist := congrArg String.toList h
  have htest : (testFilename text id).toList =
      ("test_".toList ++ (text.lower id).toList ++ "_regressio".toList) ++ "n.rs".toList := by
    rw [testFilename_toList, List.append_assoc _ "_regressio".toList]
    congr 1
  have hcombined : combinedFilename.toList = "test_all_regression".toList ++ "s.rs".toList := by
    decide
  rw [htest, hcombined] at hlist
  exact absurd (List.append_inj' hlist rfl).2 (by decide)

theorem testPath_inj (hlower : AsciiLower text) (dir : PosixPath) {a b : String}
    (ha : ∀ c ∈ a.toList, isIdOrBreak c = true) (hb : ∀ c ∈ b.toList, isIdOrBreak c = true) :
    testPath text dir a = testPath text dir b ↔ text.lower a = text.lower b := by
  rw [testPath_eq hlower dir ha, testPath_eq hlower dir hb, ← testFilename_inj]
  simp

theorem testPath_ne_combined (hlower : AsciiLower text) (dir : PosixPath) {a : String}
    (ha : ∀ c ∈ a.toList, isIdOrBreak c = true) :
    testPath text dir a ≠ dir.join (pathOf combinedFilename) := by
  rw [testPath_eq hlower dir ha, combinedPath_eq]
  intro h
  exact testFilename_ne_combined text a (by simpa using h)

theorem embedsNull_testPath (hlower : AsciiLower text) {dir : PosixPath}
    (hdir : dir.embedsNull = false) {id : String} (hid : ∀ c ∈ id.toList, isIdOrBreak c = true) :
    (testPath text dir id).embedsNull = false := by
  rw [testPath, embedsNull_join hdir]
  refine embedsNull_pathOf ?_
  rw [List.any_eq_false]
  intro c hc
  rw [testFilename_toList, List.mem_append, List.mem_append] at hc
  have hfixed : ("test_".toList ++ "_regression.rs".toList).all (·.toNat != 0) = true := by decide
  have hfixed := List.all_eq_true.mp hfixed
  rcases hc with (hc | hc) | hc
  · simpa using hfixed c (List.mem_append_left _ hc)
  · simpa using (lower_chars hlower hid c hc).2
  · simpa using hfixed c (List.mem_append_right _ hc)

end Names

section Rounds

variable {text : PyText} {getFixTemplate : String → Json → FixTemplate}
  {testText : String → String → String → String} {findings : List PyDict} {dir : PosixPath}

/-- The finding with an id, the first one if there are several. -/
def findingWithId (findings : List PyDict) (id : String) : Option PyDict :=
  findings.find? fun d => idOf d == id

theorem nextWithId_eq (h : ValidIds findings) (id : String) :
    nextWithId id (findings.map Json.obj) = .ok ((findingWithId findings id).map Json.obj) := by
  induction findings with
  | nil => rfl
  | cons d findings ih =>
    obtain ⟨⟨hid, -⟩, hrest⟩ := List.forall_mem_cons.mp h
    have hstep : nextWithId id ((d :: findings).map Json.obj) =
        if isText id (field d "id" (.str "")) then .ok (some (.obj d))
        else nextWithId id (findings.map Json.obj) := rfl
    have htext : isText id (field d "id" (.str "")) = (idOf d == id) := by
      simp [field, hid, isText]
    rw [hstep, htext, ih hrest, findingWithId, findingWithId, List.find?_cons]
    cases idOf d == id <;> rfl

theorem generateRegressionTest_eq {d : PyDict} (hid : Dict.get? d "id" = some (.str (idOf d)))
    (s : FixSuggestion) :
    generateRegressionTest text testText (.obj d) s =
      (text.uppered (field d "severity" (.str "UNKNOWN"))).map (testText (idOf d) s.ruleId) := by
  have hname : pyGet (.obj d) "id" (.str "UNKNOWN") = .ok (.str (idOf d)) := by
    simp [pyGet, hid, pure, Except.pure]
  have hseverity : pyGet (.obj d) "severity" (.str "UNKNOWN") =
      .ok (field d "severity" (.str "UNKNOWN")) := rfl
  rw [generateRegressionTest, hname, hseverity]
  cases hs : text.uppered (field d "severity" (.str "UNKNOWN")) with
  | error e => simp [hs, bind, Except.bind, Except.map]
  | ok sev =>
    simp [hs, bind, Except.bind, pure, Except.pure, Except.map, PyText.lowered, PyText.format]

/-- A test is generated exactly when the severity is a text. -/
theorem severity_of_test {d : PyDict} (hid : Dict.get? d "id" = some (.str (idOf d)))
    {s : FixSuggestion} :
    (∃ code, generateRegressionTest text testText (.obj d) s = .ok code) ↔
      ∃ v, field d "severity" (.str "UNKNOWN") = .str v := by
  rw [generateRegressionTest_eq hid]
  cases field d "severity" (.str "UNKNOWN") <;>
    simp [PyText.uppered, pure, Except.pure, Except.map]

/-- What a round writes for a suggestion, on a disk that refuses nothing. -/
theorem regressionRound_eq (hlower : AsciiLower text) (hdir : dir.embedsNull = false)
    (h : ValidIds findings) (round : Nat) (s : FixSuggestion) :
    regressionRound text testText freeDisk (findings.map Json.obj) dir round s =
      match findingWithId findings (suggestedId s) with
      | none => .ok none
      | some d => (orRaise (generateRegressionTest text testText (.obj d) s)).map fun code =>
          some (testPath text dir (suggestedId s), code) := by
  rw [regressionRound, nextWithId_eq h]
  cases hfound : findingWithId findings (suggestedId s) with
  | none => rfl
  | some d =>
    have hmem : d ∈ findings := List.mem_of_find?_eq_some hfound
    have hname : idOf d = suggestedId s := by simpa using List.find?_some hfound
    obtain ⟨hid, hvalid⟩ := h d hmem
    have htruthy : truthy (.obj d) = true := by
      cases d with
      | nil => simp [Dict.get?] at hid
      | cons e d => rfl
    have hopen : ∀ round, freeDisk.open round (testPath text dir (suggestedId s)) = .ok () :=
      fun round => open_freeDisk round
        (embedsNull_testPath hlower hdir (hname ▸ chars_of_validId hvalid))
    rw [testPath] at hopen
    cases hcode : generateRegressionTest text testText (.obj d) s with
    | error e => simp [orRaise, htruthy, hcode, bind, Except.bind, Except.map]
    | ok code =>
      simp [orRaise, htruthy, hcode, hopen, bind, Except.bind, pure, Except.pure, Except.map,
        testPath]

end Rounds

section Loops

variable {α β : Type}

/-- A loop that ends has taken every round; the files are those of its rounds. -/
theorem roundsFrom_ended {body : Nat → α → Except WriteError (Option (PosixPath × β))}
    {items : List α} {round : Nat} (h : (roundsFrom body round items).ended = .ok ()) :
    ∃ rs, List.Forall₂ (fun a r => ∃ n, body n a = .ok r) items rs ∧
      (roundsFrom body round items).opened = rs.reduceOption := by
  induction items generalizing round with
  | nil => exact ⟨[], .nil, rfl⟩
  | cons a items ih =>
    unfold roundsFrom at h ⊢
    cases hr : body round a with
    | error e => simp [hr] at h
    | ok r =>
      simp only [hr] at h ⊢
      obtain ⟨rs, hrs, hopened⟩ := ih h
      refine ⟨r :: rs, .cons ⟨round, hr⟩ hrs, ?_⟩
      rw [hopened]
      cases r <;> simp [List.reduceOption]

/-- A loop whose rounds all write a file writes them all. -/
theorem roundsFrom_of_forall₂ {body : Nat → α → Except WriteError (Option (PosixPath × β))}
    {items : List α} {files : List (PosixPath × β)}
    (h : List.Forall₂ (fun a file => ∀ n, body n a = .ok (some file)) items files) (round : Nat) :
    roundsFrom body round items = ⟨files, .ok ()⟩ := by
  induction h generalizing round with
  | nil => rfl
  | cons ha _ ih => simp [roundsFrom, ha, ih (round + 1)]

end Loops

section Verdict

variable (text : PyText) (getFixTemplate : String → Json → FixTemplate)
  (statements : String → String)

/-- `write_regression_tests` with the output of `generate_all_suggestions`, on a disk that
refuses nothing. -/
def regressionRun (findings : List PyDict) (dir : PosixPath) : Run String :=
  writeRegressionTests text (regressionTestText text statements) genCombinedRegressionTest freeDisk
    (findings.map Json.obj)
    (generateAllSuggestions text getFixTemplate (findings.map Json.obj)) dir

/-- The file holds the test that is generated from the finding and its own suggestion. -/
def HoldsTest (d : PyDict) (file : PosixPath × String) : Prop :=
  ∃ index s, suggestionOf text getFixTemplate d index = .ok s ∧
    generateRegressionTest text (regressionTestText text statements) (.obj d) s = .ok file.2

/-- One file for each finding and the runner, none of them written over. -/
structure OneFileEach (findings : List PyDict) (dir : PosixPath) : Prop where
  ended : (regressionRun text getFixTemplate statements findings dir).ended = .ok ()
  files : ∃ tests runner, List.Forall₂ (HoldsTest text getFixTemplate statements) findings tests ∧
    runner.1 = dir.join (pathOf combinedFilename) ∧
    (regressionRun text getFixTemplate statements findings dir).opened.Perm (tests ++ [runner])
  distinct : ((regressionRun text getFixTemplate statements findings dir).opened.map
    Prod.fst).Nodup

/-- Every finding has a suggestion and a severity that is a text; no id contains the prefix of
the suggestions; no two ids differ in case only. -/
structure Separable (findings : List PyDict) : Prop where
  suggestions : ∀ d ∈ findings, HasSuggestion d
  severities : ∀ d ∈ findings, ∃ s, field d "severity" (.str "UNKNOWN") = .str s
  prefixes : ∀ d ∈ findings, isSubstring "SUGGEST-" (idOf d) = false
  names : (findings.map fun d => text.lower (idOf d)).Nodup

variable {text getFixTemplate statements} {findings : List PyDict} {dir : PosixPath}

theorem findingWithId_self (hids : (findings.map idOf).Nodup) {d : PyDict} (hd : d ∈ findings) :
    findingWithId findings (idOf d) = some d := by
  rw [findingWithId, List.find?_eq_some_iff_append]
  obtain ⟨before, after, rfl⟩ := List.append_of_mem hd
  refine ⟨by simp, before, after, rfl, fun e he => ?_⟩
  rw [List.map_append, List.nodup_append] at hids
  have hne := hids.2.2 (idOf e) (List.mem_map_of_mem he) (idOf d)
    (List.mem_map_of_mem List.mem_cons_self)
  simpa using hne

/-- The round of a finding's suggestion writes a file. -/
structure Writes (text : PyText) (getFixTemplate : String → Json → FixTemplate)
    (statements : String → String) (findings : List PyDict) (dir : PosixPath) (d : PyDict)
    (file : PosixPath × String) : Prop where
  suggested : ∃ s found, ownSuggestion text getFixTemplate d = some s ∧
    findingWithId findings (decodedId (idOf d)) = some found ∧
    generateRegressionTest text (regressionTestText text statements) (.obj found) s = .ok file.2
  path : file.1 = testPath text dir (decodedId (idOf d))

theorem writes_iff (hlower : AsciiLower text) (hdir : dir.embedsNull = false)
    (h : ValidIds findings) {d : PyDict} (hd : d ∈ findings) (file : PosixPath × String)
    (round : Nat) :
    Writes text getFixTemplate statements findings dir d file ↔
      ∃ s, ownSuggestion text getFixTemplate d = some s ∧
        regressionRound text (regressionTestText text statements) freeDisk (findings.map Json.obj)
          dir round s = .ok (some file) := by
  have hround : ∀ s, ownSuggestion text getFixTemplate d = some s →
      (regressionRound text (regressionTestText text statements) freeDisk (findings.map Json.obj)
        dir round s = .ok (some file) ↔
      ∃ found, findingWithId findings (decodedId (idOf d)) = some found ∧
        generateRegressionTest text (regressionTestText text statements) (.obj found) s =
          .ok file.2 ∧
        file.1 = testPath text dir (decodedId (idOf d))) := by
    intro s hs
    rw [regressionRound_eq hlower hdir h, suggestedId_own (h d hd).1 hs]
    cases findingWithId findings (decodedId (idOf d)) with
    | none => simp
    | some found =>
      cases hcode : generateRegressionTest text (regressionTestText text statements) (.obj found) s
        with
      | error e => simp [hcode, orRaise, Except.map]
      | ok code =>
        obtain ⟨path, content⟩ := file
        simp [hcode, orRaise, Except.map, and_comm, eq_comm]
  constructor
  · rintro ⟨⟨s, found, hs, hfound, hcode⟩, hpath⟩
    exact ⟨s, hs, (hround s hs).mpr ⟨found, hfound, hcode, hpath⟩⟩
  · rintro ⟨s, hs, hfile⟩
    obtain ⟨found, hfound, hcode, hpath⟩ := (hround s hs).mp hfile
    exact ⟨⟨s, found, hs, hfound, hcode⟩, hpath⟩

/-- The files of the loop and, where it ended well, the runner after them. -/
def withRunner (dir : PosixPath) (written : Run String) : Run String :=
  match written.ended with
  | .error _ => written
  | .ok () => ⟨written.opened ++ [(dir.join (pathOf combinedFilename),
      genCombinedRegressionTest (written.opened.map Prod.fst))], .ok ()⟩

theorem regressionRun_eq (hdir : dir.embedsNull = false) (h : ValidIds findings) :
    regressionRun text getFixTemplate statements findings dir =
      let suggestions := findings.filterMap (ownSuggestion text getFixTemplate)
      withRunner dir (roundsFrom (regressionRound text (regressionTestText text statements) freeDisk
        (findings.map Json.obj) dir) 0 suggestions) := by
  have hmkdir : freeDisk.mkdir 0 dir = .ok () := by simp [Disk.mkdir, hdir, freeDisk]
  have hopen : ∀ round, freeDisk.open round (dir.join (pathOf combinedFilename)) = .ok () :=
    fun round => open_freeDisk round (by
      rw [embedsNull_join hdir]
      exact embedsNull_pathOf (by decide))
  rw [regressionRun, writeRegressionTests, hmkdir, generateAllSuggestions_eq h]
  simp only [hopen]
  rfl

/-- A run with one file for each finding and the runner: every round writes one. -/
theorem writes_of_oneFileEach (hlower : AsciiLower text) (hdir : dir.embedsNull = false)
    (h : ValidIds findings) (hrun : OneFileEach text getFixTemplate statements findings dir) :
    ∃ files, List.Forall₂ (Writes text getFixTemplate statements findings dir) findings files ∧
      (files.map Prod.fst).Nodup := by
  obtain ⟨hended, ⟨tests, runner, htests, -, hperm⟩, hdistinct⟩ := hrun
  rw [regressionRun_eq hdir h] at hended hperm hdistinct
  set suggestions := findings.filterMap (ownSuggestion text getFixTemplate) with hsuggestions
  set body := regressionRound text (regressionTestText text statements) freeDisk
    (findings.map Json.obj) dir with hbody
  cases hloop : (roundsFrom body 0 suggestions).ended with
  | error e => simp [withRunner, hloop] at hended
  | ok u =>
    obtain ⟨rs, hrs, hopened⟩ := roundsFrom_ended hloop
    simp only [withRunner, hloop] at hperm hdistinct
    rw [hopened] at hperm hdistinct
    have hle : suggestions.length ≤ findings.length := List.length_filterMap_le _ _
    have hcount : rs.reduceOption.length = findings.length := by
      have hlength := hperm.length_eq
      rw [List.length_append, List.length_append, ← htests.length_eq] at hlength
      exact Nat.add_right_cancel hlength
    have hrounds : suggestions.length = rs.length := hrs.length_eq
    have hreduce : rs.reduceOption.length ≤ rs.length := List.length_filterMap_le id rs
    have hkept : suggestions.length = findings.length := by omega
    have hfull : rs.reduceOption.length = rs.length := by omega
    have hall : List.Forall₂ (fun d s => ownSuggestion text getFixTemplate d = some s) findings
        suggestions := Lists.forall₂_filterMap hkept
    have hfiles : List.Forall₂ (fun r file => r = some file) rs rs.reduceOption :=
      Lists.forall₂_filterMap (f := id) hfull
    refine ⟨rs.reduceOption, ?_, (List.nodup_append.mp (by simpa using hdistinct)).1⟩
    have hchain := Lists.forall₂_comp (Lists.forall₂_comp hall hrs) hfiles
    refine ((List.forall₂_and_left (p := fun d => d ∈ findings) _ _).mpr
      ⟨fun _ hd => hd, hchain⟩).imp ?_
    rintro d file ⟨hd, r, ⟨s, hs, n, hr⟩, rfl⟩
    exact (writes_iff hlower hdir h hd file n).mpr ⟨s, hs, hr⟩

/-- The tests have paths of their own exactly when no two ids differ in case only. -/
theorem nodup_testPaths_iff (hlower : AsciiLower text) (dir : PosixPath)
    (h : ValidIds findings) :
    (findings.map fun d => testPath text dir (idOf d)).Nodup ↔
      (findings.map fun d => text.lower (idOf d)).Nodup := by
  have hinj : ∀ d ∈ findings, ∀ e ∈ findings,
      (testPath text dir (idOf d) = testPath text dir (idOf e) ↔
        text.lower (idOf d) = text.lower (idOf e)) := fun d hd e he =>
    testPath_inj hlower dir (chars_of_validId (h d hd).2) (chars_of_validId (h e he).2)
  rw [List.nodup_iff_pairwise_ne, List.nodup_iff_pairwise_ne, List.pairwise_map, List.pairwise_map]
  constructor
  · exact fun hne => hne.imp_of_mem fun hd he hpath hname => hpath ((hinj _ hd _ he).mpr hname)
  · exact fun hne => hne.imp_of_mem fun hd he hname hpath => hname ((hinj _ hd _ he).mp hpath)

/-- Where every round writes a file of its own, the decoding is one to one from ids to ids, and
so it changes none: it shortens what it changes. -/
theorem decodedId_fixed {files : List (PosixPath × String)}
    (hfiles : List.Forall₂ (Writes text getFixTemplate statements findings dir) findings files)
    (hpaths : (files.map Prod.fst).Nodup) : ∀ d ∈ findings, decodedId (idOf d) = idOf d := by
  have hequal : files.map Prod.fst =
      findings.map fun d => testPath text dir (decodedId (idOf d)) :=
    Lists.map_eq_map_of_forall₂ (hfiles.imp fun d file hw => hw.path).flip
  rw [hequal] at hpaths
  intro d hd
  refine Lists.fixed_of_injOn (fun id => id.toList.length) decodedId_size ?_ ?_ (idOf d)
    (List.mem_map_of_mem hd)
  · -- a round writes only where its id is that of a finding
    rintro id hid
    obtain ⟨e, he, rfl⟩ := List.mem_map.mp hid
    obtain ⟨file, ⟨s, found, -, hfound, -⟩, -⟩ :=
      Lists.exists_forall₂_iff.mp ⟨files, hfiles⟩ e he
    have hname : idOf found = decodedId (idOf e) := by simpa using List.find?_some hfound
    exact hname ▸ List.mem_map_of_mem (List.mem_of_find?_eq_some hfound)
  · rintro a ha b hb hab
    obtain ⟨e, he, rfl⟩ := List.mem_map.mp ha
    obtain ⟨e', he', rfl⟩ := List.mem_map.mp hb
    rw [List.inj_on_of_nodup_map hpaths he he' (by rw [hab])]

theorem separable_of_writes (hlower : AsciiLower text) (h : ValidIds findings)
    (hids : (findings.map idOf).Nodup) {files : List (PosixPath × String)}
    (hfiles : List.Forall₂ (Writes text getFixTemplate statements findings dir) findings files)
    (hpaths : (files.map Prod.fst).Nodup) : Separable text findings := by
  have heach := Lists.exists_forall₂_iff.mp ⟨files, hfiles⟩
  have hfixed := decodedId_fixed hfiles hpaths
  have hequal : files.map Prod.fst = findings.map fun d => testPath text dir (idOf d) := by
    refine Lists.map_eq_map_of_forall₂ (List.Forall₂.flip ?_)
    refine List.Forall₂.imp ?_ ((List.forall₂_and_left findings files).mpr ⟨hfixed, hfiles⟩)
    rintro d file ⟨hd, hw⟩
    show file.1 = testPath text dir (idOf d)
    rw [hw.path, hd]
  exact {
    suggestions := fun d hd => by
      obtain ⟨file, ⟨s, found, hs, -⟩, -⟩ := heach d hd
      exact (ownSuggestion_isSome (h d hd).1).mp (Option.isSome_iff_exists.mpr ⟨s, hs⟩)
    severities := fun d hd => by
      obtain ⟨file, ⟨s, found, -, hfound, hcode⟩, -⟩ := heach d hd
      rw [hfixed d hd, findingWithId_self hids hd] at hfound
      obtain rfl := Option.some.inj hfound
      exact (severity_of_test (h d hd).1).mp ⟨_, hcode⟩
    prefixes := fun d hd => (decodedId_eq_iff _).mp (hfixed d hd)
    names := (nodup_testPaths_iff hlower dir h).mp (hequal ▸ hpaths) }

/-- The suggestion of a finding, and the file that its round writes. -/
structure TestRound (text : PyText) (getFixTemplate : String → Json → FixTemplate)
    (statements : String → String) (findings : List PyDict) (dir : PosixPath) (d : PyDict)
    (p : FixSuggestion × PosixPath × String) : Prop where
  round : ∀ n, regressionRound text (regressionTestText text statements) freeDisk
    (findings.map Json.obj) dir n p.1 = .ok (some p.2)
  own : ownSuggestion text getFixTemplate d = some p.1
  test : generateRegressionTest text (regressionTestText text statements) (.obj d) p.1 = .ok p.2.2
  path : testPath text dir (idOf d) = p.2.1

variable (getFixTemplate statements) in
theorem Separable.testRound (hsep : Separable text findings) (hlower : AsciiLower text)
    (hdir : dir.embedsNull = false) (h : ValidIds findings) (hids : (findings.map idOf).Nodup)
    {d : PyDict} (hd : d ∈ findings) :
    ∃ p, TestRound text getFixTemplate statements findings dir d p := by
  have hfixed : decodedId (idOf d) = idOf d := (decodedId_eq_iff _).mpr (hsep.prefixes d hd)
  obtain ⟨s, hs⟩ := Option.isSome_iff_exists.mp
    ((ownSuggestion_isSome (h d hd).1).mpr (hsep.suggestions d hd))
  obtain ⟨code, hcode⟩ := (severity_of_test (h d hd).1).mpr (hsep.severities d hd)
  refine ⟨(s, testPath text dir (idOf d), code), fun n => ?_, hs, hcode, rfl⟩
  have hwrites : Writes text getFixTemplate statements findings dir d
      (testPath text dir (idOf d), code) :=
    ⟨⟨s, d, hs, by rw [hfixed, findingWithId_self hids hd], hcode⟩, by rw [hfixed]⟩
  obtain ⟨t, ht, hround⟩ := (writes_iff hlower hdir h hd _ n).mp hwrites
  obtain rfl := Option.some.inj (hs.symm.trans ht)
  exact hround

/-- A run whose rounds all write: the files of the rounds, then the runner. -/
theorem regressionRun_of_testRounds (hdir : dir.embedsNull = false) (h : ValidIds findings)
    {ps : List (FixSuggestion × PosixPath × String)}
    (hps : List.Forall₂ (TestRound text getFixTemplate statements findings dir) findings ps) :
    regressionRun text getFixTemplate statements findings dir =
      withRunner dir ⟨ps.map Prod.snd, .ok ()⟩ := by
  have hsuggestions : findings.filterMap (ownSuggestion text getFixTemplate) =
      ps.map Prod.fst :=
    Lists.filterMap_of_forall₂ (List.forall₂_map_right_iff.mpr (hps.imp fun d p hp => hp.own))
  have hrounds : ∀ p ∈ ps, ∀ n, regressionRound text (regressionTestText text statements) freeDisk
      (findings.map Json.obj) dir n p.1 = .ok (some p.2) :=
    (Lists.forall₂_and_right.mp (hps.imp fun d p hp => ⟨hp.round, hp.own⟩)).1
  have hloop : roundsFrom (regressionRound text (regressionTestText text statements) freeDisk
      (findings.map Json.obj) dir) 0 (ps.map Prod.fst) = ⟨ps.map Prod.snd, .ok ()⟩ := by
    refine roundsFrom_of_forall₂ ?_ 0
    rw [List.forall₂_map_left_iff, List.forall₂_map_right_iff]
    exact List.forall₂_same.mpr hrounds
  rw [regressionRun_eq hdir h, hsuggestions]
  exact congrArg (withRunner dir) hloop

theorem Separable.oneFileEach (hsep : Separable text findings) (hlower : AsciiLower text)
    (hdir : dir.embedsNull = false) (h : ValidIds findings) (hids : (findings.map idOf).Nodup) :
    OneFileEach text getFixTemplate statements findings dir := by
  obtain ⟨ps, hps⟩ := Lists.exists_forall₂_iff.mpr fun d hd =>
    hsep.testRound getFixTemplate statements hlower hdir h hids hd
  have hrun := regressionRun_of_testRounds hdir h hps
  simp only [withRunner] at hrun
  have hpaths : findings.map (fun d => testPath text dir (idOf d)) = ps.map fun p => p.2.1 :=
    Lists.map_eq_map_of_forall₂ (hps.imp fun d p hp => hp.path)
  refine ⟨by rw [hrun], ⟨ps.map Prod.snd, _, ?_, rfl, by rw [hrun]⟩, ?_⟩
  · refine List.forall₂_map_right_iff.mpr (hps.imp fun d p hp => ⟨0, p.1, ?_, hp.test⟩)
    have hown := hp.own
    rw [ownSuggestion] at hown
    cases hs : suggestionOf text getFixTemplate d 0 with
    | error e => simp [hs, Except.toOption] at hown
    | ok t => simpa [hs, Except.toOption] using hown
  · rw [hrun, List.map_append, List.map_map, List.nodup_append]
    refine ⟨hpaths ▸ (nodup_testPaths_iff hlower dir h).mpr hsep.names, by simp, ?_⟩
    intro path hpath runner hrunner
    rw [List.map_singleton, List.mem_singleton] at hrunner
    have hmem : path ∈ findings.map fun d => testPath text dir (idOf d) := hpaths ▸ hpath
    obtain ⟨d, hd, rfl⟩ := List.mem_map.mp hmem
    exact hrunner ▸ testPath_ne_combined hlower dir (chars_of_validId (h d hd).2)

/-- `write_regression_tests` writes a file for each finding, and none over another, exactly when
the findings are separable. -/
theorem one_file_each_iff (hlower : AsciiLower text) (hdir : dir.embedsNull = false)
    (h : ValidIds findings) (hids : (findings.map idOf).Nodup) :
    OneFileEach text getFixTemplate statements findings dir ↔ Separable text findings := by
  constructor
  · intro hrun
    obtain ⟨files, hfiles, hpaths⟩ := writes_of_oneFileEach hlower hdir h hrun
    exact separable_of_writes hlower h hids hfiles hpaths
  · exact fun hsep => hsep.oneFileEach hlower hdir h hids

/-- The statements of the test for findings without a generator of their own. -/
def genericStatements (_ : String) : String :=
  "    let program = ProgramTest::bpf(\x22vault\x22, program_id)\n" ++
  "        .start_with_context()\n" ++
  "        .await;\n" ++
  "\n" ++
  "    // TODO: Implement finding-specific exploit scenario\n" ++
  "    // Replace this with actual exploit setup:\n" ++
  "    // 1. Create the conditions that trigger the vulnerability\n" ++
  "    // 2. Attempt the exploit\n" ++
  "    // 3. Assert it fails (on fixed code)\n" ++
  "\n" ++
  "    let _ = format!(\n" ++
  "        \x22Regression test for 0 (Rule 1) — implement finding-specific assertions\x22,\n" ++
  "        finding_id,\n" ++
  "        rule_id,\n" ++
  "    );\n"

theorem asciiLower_ascii : AsciiLower PyText.ascii := fun _ _ => rfl

theorem validIds_manualFindings {ids : List String}
    (h : ∀ id ∈ ids, validateFindingId id = .ok ()) :
    ValidIds (ids.map fun id => manualFinding id []) := by
  intro d hd
  obtain ⟨id, hid, rfl⟩ := List.mem_map.mp hd
  exact ⟨rfl, h id hid⟩

theorem idOf_manualFinding (id : String) (others : PyDict) : idOf (manualFinding id others) = id :=
  rfl

theorem hasSuggestion_manualFinding (id : String) : HasSuggestion (manualFinding id []) where
  ruleCaught := fun _ => ⟨"Rule 50", rfl⟩
  location := ⟨_, rfl⟩
  cwe := by simp [TextOrFalsy, PyDict.get, manualFinding, truthy]
  cvss := ⟨_, rfl⟩

theorem one_file_each_two_findings :
    OneFileEach PyText.ascii fallbackTemplate genericStatements
      (["FINDING-01", "FINDING-02"].map fun id => manualFinding id [])
      (pathOf "tests/regression") := by
  refine (one_file_each_iff asciiLower_ascii (by decide)
    (validIds_manualFindings (by decide)) (by decide)).mpr ?_
  exact {
    suggestions := by simp [hasSuggestion_manualFinding]
    severities := by simp [manualFinding, field]
    prefixes := by decide
    names := by decide }

/-- Two ids that differ in case only: the test of the second is written over that of the first. -/
theorem folded_ids_overwritten :
    let findings := ["FINDING-01", "finding-01"].map fun id => manualFinding id []
    ValidIds findings ∧ (findings.map idOf).Nodup ∧
      ¬ OneFileEach PyText.ascii fallbackTemplate genericStatements findings
        (pathOf "tests/regression") := by
  have hids : ValidIds (["FINDING-01", "finding-01"].map fun id => manualFinding id []) :=
    validIds_manualFindings (by decide)
  refine ⟨hids, by decide, fun hrun => ?_⟩
  obtain ⟨files, hfiles, hpaths⟩ :=
    writes_of_oneFileEach asciiLower_ascii (by decide) hids hrun
  simp only [List.map_cons, List.map_nil, List.forall₂_cons_left_iff,
    List.forall₂_nil_left_iff] at hfiles
  obtain ⟨first, _, hfirst, ⟨second, _, hsecond, rfl, rfl⟩, rfl⟩ := hfiles
  have hsame : first.1 = second.1 := by
    have hupper : decodedId "FINDING-01" = "FINDING-01" := (decodedId_eq_iff _).mpr (by decide)
    have hlower : decodedId "finding-01" = "finding-01" := (decodedId_eq_iff _).mpr (by decide)
    have hname : PyText.ascii.lower "FINDING-01" = PyText.ascii.lower "finding-01" := by decide
    rw [hfirst.path, hsecond.path, idOf_manualFinding, idOf_manualFinding, hupper, hlower, testPath,
      testPath, testFilename_inj.mpr hname]
  rw [List.map_cons, List.map_cons, hsame] at hpaths
  exact (List.nodup_cons.mp hpaths).1 List.mem_cons_self

end Verdict

end SolanaAuditor.Suggestions
