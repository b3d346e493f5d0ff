/- SolanaAuditor/Suggestions/RegressionModules
   digest: The functions and modules that the generated tests and their runner declare. -/

import SolanaAuditor.Suggestions.RegressionFiles

set_option autoImplicit false
set_option relaxedAutoImplicit false

namespace SolanaAuditor.Suggestions

open SolanaAuditor.Lib

section Reading

/-- The name that follows a keyword at the start of a line, up to a sign. -/
def nameAfter (keyword : String) (sign : Char) (line : List Char) : Option String :=
  if keyword.toList.isPrefixOf line then
    some (String.ofList ((line.drop keyword.toList.length).takeWhile (· != sign)))
  else none

def namesIn (keyword : String) (sign : Char) (code : String) : List String :=
  (code.toList.splitOn '\n').filterMap (nameAfter keyword sign)

def functionsIn (code : String) : List String := namesIn "async fn " '(' code

/-- The modules in files of their own; the module with a body is not indented. -/
def modulesIn (code : String) : List String := namesIn "    mod " ';' code

/-- What a file holds after a run: the text that was written last. -/
def textAt (run : Run String) (path : PosixPath) : Option String :=
  (run.opened.reverse.find? fun file => decide (file.1 = path)).map Prod.snd

def runnerPath (dir : PosixPath) : PosixPath := dir.join (pathOf combinedFilename)

def testFiles (run : Run String) (dir : PosixPath) : List PosixPath :=
  ((run.opened.map Prod.fst).filter fun path => decide (path ≠ runnerPath dir)).dedup

def runnerModules (run : Run String) (dir : PosixPath) : List String :=
  modulesIn ((textAt run (runnerPath dir)).getD "")

/-- Every function has an identifier for a name; the modules of the runner are identifiers that
name test files, one for each test file. -/
structure Coherent (run : Run String) (dir : PosixPath) : Prop where
  functions : ∀ path code, textAt run path = some code →
    ∀ name ∈ functionsIn code, rustIdent name = true
  modules : ∀ name ∈ runnerModules run dir, rustIdent name = true ∧
    dir.join (pathOf (name ++ ".rs")) ∈ testFiles run dir
  onePerTest : (runnerModules run dir).length = (testFiles run dir).length

end Reading

section Names

variable {text : PyText}

theorem lower_identChar {c : Char} (h : isIdOrBreak c = true) :
    (c.toLower.isAlphanum || c.toLower == '_') = true ↔ c ≠ '-' ∧ c ≠ '\n' :=
  of_isIdOrBreak
    (P := fun c => (c.toLower.isAlphanum || c.toLower == '_') = true ↔ c ≠ '-' ∧ c ≠ '\n')
    (by decide) h

theorem forall_templateOf (p : TestTemplate → Prop) (hgenerators : ∀ e ∈ generators, p e.2)
    (hgeneric : p genericTemplate) (id : String) : p (templateOf id) := by
  unfold templateOf
  cases hget : Dict.get? generators id with
  | none => exact hgeneric
  | some template => exact hgenerators (id, template) (Dict.mem_of_get? hget)

theorem suffixes_ident (id : String) :
    (templateOf id).suffixes ≠ [] ∧ ∀ suffix ∈ (templateOf id).suffixes,
      suffix.toList.all (fun c => c.isAlphanum || c == '_') = true :=
  forall_templateOf (fun t => t.suffixes ≠ [] ∧ ∀ suffix ∈ t.suffixes,
    suffix.toList.all (fun c => c.isAlphanum || c == '_') = true) (by decide) (by decide) id

theorem functionName_ident_iff (hlower : AsciiLower text) {id suffix : String}
    (hid : ∀ c ∈ id.toList, isIdOrBreak c = true)
    (hsuffix : suffix.toList.all (fun c => c.isAlphanum || c == '_') = true) :
    rustIdent (functionName text id suffix) = true ↔ '-' ∉ id.toList ∧ '\n' ∉ id.toList := by
  have hlist : (functionName text id suffix).toList =
      't' :: ("est_".toList ++ id.toList.map Char.toLower ++ suffix.toList) := by
    rw [functionName, hlower id fun c hc => isIdOrBreak_lt (hid c hc)]
    simp [PyText.ascii]
  have hfixed : "est_".toList.all (fun c => c.isAlphanum || c == '_') = true := by decide
  have hname : rustIdent (functionName text id suffix) = true ↔
      ∀ c ∈ id.toList, (c.toLower.isAlphanum || c.toLower == '_') = true := by
    unfold rustIdent
    rw [hlist]
    simp only [List.all_append, hfixed, hsuffix, List.all_map, Bool.true_and, Bool.and_true]
    have hhead : 't'.isAlpha = true := by decide
    have hnot : ('t' == '_') = false := by decide
    simp only [hhead, hnot, Bool.true_or, Bool.false_and, Bool.not_false, Bool.true_and,
      Bool.and_true, List.all_eq_true, Function.comp_apply]
  rw [hname]
  constructor
  · intro h
    refine ⟨fun hc => ?_, fun hc => ?_⟩
    · exact ((lower_identChar (hid _ hc)).mp (h _ hc)).1 rfl
    · exact ((lower_identChar (hid _ hc)).mp (h _ hc)).2 rfl
  · rintro ⟨hhyphen, hbreak⟩ c hc
    refine (lower_identChar (hid c hc)).mpr ⟨?_, ?_⟩
    · rintro rfl
      exact hhyphen hc
    · rintro rfl
      exact hbreak hc

/-- The functions of a test have identifiers for names exactly when the id has no hyphen and no
line break. -/
theorem functionNames_ident_iff (hlower : AsciiLower text) {id : String}
    (hid : ∀ c ∈ id.toList, isIdOrBreak c = true) :
    (∀ name ∈ functionNames text id, rustIdent name = true) ↔
      '-' ∉ id.toList ∧ '\n' ∉ id.toList := by
  obtain ⟨hne, hsuffixes⟩ := suffixes_ident id
  rw [functionNames, List.forall_mem_map]
  constructor
  · intro h
    obtain ⟨suffix, hsuffix⟩ := List.exists_mem_of_ne_nil _ hne
    exact (functionName_ident_iff hlower hid (hsuffixes suffix hsuffix)).mp (h suffix hsuffix)
  · exact fun h suffix hsuffix =>
      (functionName_ident_iff hlower hid (hsuffixes suffix hsuffix)).mpr h

end Names

section Lines

theorem splitOn_unlines {ls : List String} (h : ∀ line ∈ ls, '\n' ∉ line.toList)
    (rest : List Char) :
    ((unlines ls).toList ++ rest).splitOn '\n' = ls.map String.toList ++ rest.splitOn '\n' := by
  induction ls with
  | nil => simp [unlines]
  | cons line ls ih =>
    obtain ⟨hhead, htail⟩ := List.forall_mem_cons.mp h
    have hcons : (unlines (line :: ls)).toList ++ rest =
        line.toList ++ '\n' :: ((unlines ls).toList ++ rest) := by simp [unlines]
    rw [hcons, List.splitOn_append_cons_self_of_not_mem hhead, ih htail, List.map_cons,
      List.cons_append]

/-- Lines have the names that each of them has. -/
theorem namesIn_unlines {keyword : String} {sign : Char} {ls : List String}
    (h : ∀ line ∈ ls, '\n' ∉ line.toList) (hempty : nameAfter keyword sign [] = none) :
    namesIn keyword sign (unlines ls) = ls.filterMap fun line => nameAfter keyword sign line.toList := by
  have hsplit := splitOn_unlines h []
  rw [List.append_nil] at hsplit
  rw [namesIn, hsplit, List.filterMap_append, List.filterMap_map, List.splitOn_nil,
    List.filterMap_cons_none hempty, List.filterMap_nil, List.append_nil]
  rfl

end Lines

section RunnerText

variable {text : PyText} {dir : PosixPath}

/-- The name in the `mod` line of a test file, as the runner has it. -/
def moduleName (text : PyText) (id : String) : String :=
  "test_" ++ ("test_" ++ text.lower id ++ "_regression")

/-- Where a line break in an id ends its `mod` line, the name ends with it. -/
def readName (text : PyText) (id : String) : List Char :=
  (moduleName text id).toList.takeWhile (· != '\n')

theorem name_testPath (hlower : AsciiLower text) {id : String}
    (hid : ∀ c ∈ id.toList, isIdOrBreak c = true) :
    (testPath text dir id).name = testFilename text id := by
  rw [testPath_eq hlower dir hid, PosixPath.name]
  simp

theorem stem_testFilename (id : String) :
    "test_" ++ stem (testFilename text id) = moduleName text id := by
  have hbase : testFilename text id = ("test_" ++ text.lower id ++ "_regression") ++ ".rs" := by
    refine String.toList_injective ?_
    rw [testFilename_toList]
    simp
  have hne : "test_" ++ text.lower id ++ "_regression" ≠ "" := by
    intro h
    have hlist := congrArg String.toList h
    simp at hlist
  rw [hbase, stem_rs hne, moduleName]

theorem moduleName_mem (hlower : AsciiLower text) {id : String}
    (hid : ∀ c ∈ id.toList, isIdOrBreak c = true) {files : List PosixPath}
    (hfile : testPath text dir id ∈ files) : moduleName text id ∈ combinedModules files := by
  refine List.mem_map.mpr ⟨testPath text dir id, List.mem_filter.mpr ⟨hfile, ?_⟩, ?_⟩
  · rw [name_testPath hlower hid, bne_iff_ne]
    exact testFilename_ne_combined text id
  · rw [name_testPath hlower hid, stem_testFilename]

theorem moduleName_chars (hlower : AsciiLower text) {id : String}
    (hid : ∀ c ∈ id.toList, isIdOrBreak c = true) :
    ∀ c ∈ (moduleName text id).toList, isIdOrBreak c = true := by
  intro c hc
  rw [moduleName, String.toList_append, String.toList_append, String.toList_append] at hc
  have hfixed : ("test_".toList ++ "_regression".toList).all isIdOrBreak = true := by decide
  have hfixed := List.all_eq_true.mp hfixed
  rcases List.mem_append.mp hc with hc | hc
  · exact hfixed c (List.mem_append_left _ hc)
  · rcases List.mem_append.mp hc with hc | hc
    · rcases List.mem_append.mp hc with hc | hc
      · exact hfixed c (List.mem_append_left _ hc)
      · exact lower_isId hlower hid c hc
    · exact hfixed c (List.mem_append_right _ hc)

/-- What is read from the first line of a `mod` line. -/
theorem nameAfter_mod {name : List Char} (hsign : ';' ∉ name) :
    nameAfter "    mod " ';'
        (("    mod ".toList ++ (name ++ [';'])).takeWhile (· != '\n')) =
      some (String.ofList (name.takeWhile (· != '\n'))) := by
  have hkeyword : ∀ c ∈ "    mod ".toList, (c != '\n') = true :=
    List.all_eq_true.mp (by decide)
  have hsub : ∀ c ∈ name.takeWhile (· != '\n'), (c != ';') = true := fun c hc =>
    bne_iff_ne.mpr fun h => hsign (h ▸ List.takeWhile_subset _ hc)
  have hread : ((name ++ [';']).takeWhile (· != '\n')).takeWhile (· != ';') =
      name.takeWhile (· != '\n') := by
    rw [List.takeWhile_append]
    split_ifs with hall
    · have hself : name.takeWhile (· != '\n') = name :=
        (List.takeWhile_prefix _).eq_of_length hall
      rw [hself] at hsub ⊢
      rw [List.takeWhile_append_of_pos hsub]
      simp
    · exact List.takeWhile_eq_self_iff.mpr hsub
  rw [List.takeWhile_append_of_pos hkeyword, nameAfter,
    if_pos (List.isPrefixOf_iff_prefix.mpr (List.prefix_append _ _)), List.drop_left, hread]

/-- The `mod` line of a test file in the text of the runner. -/
theorem readName_mem (hlower : AsciiLower text) {id : String}
    (hid : ∀ c ∈ id.toList, isIdOrBreak c = true) {files : List PosixPath}
    (hfile : testPath text dir id ∈ files) :
    String.ofList (readName text id) ∈ modulesIn (genCombinedRegressionTest files) := by
  have hsign : ';' ∉ (moduleName text id).toList := fun h =>
    absurd (moduleName_chars hlower hid _ h) (by decide)
  refine List.mem_filterMap.mpr ⟨_, ?_, nameAfter_mod hsign⟩
  have hline : ("    mod " ++ moduleName text id ++ ";").toList ∈
      ((combinedModules files).map fun m => "    mod " ++ m ++ ";").map String.toList :=
    List.mem_map_of_mem (List.mem_map_of_mem (moduleName_mem hlower hid hfile))
  obtain ⟨a, b, hab⟩ : ∃ a b, '\n' :: (['\n'].intercalate _ ++ ['\n']) = _ :=
    Lists.mem_intercalate hline
  set title := unlines runnerTitle ++ "\n".intercalate ((individualTests files).map fun f =>
    "//   - " ++ f.name) ++ "\n" ++ unlines runnerUsage with htitle
  have htext : (genCombinedRegressionTest files).toList = title.toList ++
      ('\n' :: (['\n'].intercalate (((combinedModules files).map fun m =>
        "    mod " ++ m ++ ";").map String.toList) ++ ['\n'])) ++ (unlines runnerSuite).toList := by
    simp only [genCombinedRegressionTest, htitle, String.toList_append, String.toList_intercalate]
    simp
  have hsplit : ("    mod " ++ moduleName text id ++ ";").toList =
      "    mod ".toList ++ ((moduleName text id).toList ++ [';']) := by
    simp [String.toList_append]
  have hmem := Lists.takeWhile_mem_splitOn '\n' (title.toList ++ a)
    ("    mod ".toList ++ ((moduleName text id).toList ++ [';']))
    (b ++ (unlines runnerSuite).toList)
  rw [htext, hab, hsplit]
  simpa only [List.append_assoc, List.cons_append, List.nil_append] using hmem

/-- A module that names a test file has the name of that file without its suffix. -/
theorem readName_of_file (hlower : AsciiLower text) {id other : String}
    (hid : ∀ c ∈ id.toList, isIdOrBreak c = true)
    (hother : ∀ c ∈ other.toList, isIdOrBreak c = true)
    (h : dir.join (pathOf (String.ofList (readName text id) ++ ".rs")) = testPath text dir other) :
    readName text id = "test_".toList ++ (text.lower other).toList ++ "_regression".toList := by
  have hslash : '/' ∉ (String.ofList (readName text id) ++ ".rs").toList := by
    rw [String.toList_append, String.toList_ofList, List.mem_append, not_or]
    refine ⟨fun hc => ?_, by decide⟩
    exact absurd (moduleName_chars hlower hid _ (List.takeWhile_subset _ hc)) (by decide)
  have hlength : 2 < (String.ofList (readName text id) ++ ".rs").toList.length := by
    have hrs : ".rs".toList.length = 3 := by decide
    rw [String.toList_append, List.length_append, hrs]
    omega
  rw [join_plain dir hslash hlength, testPath_eq hlower dir hother] at h
  have hname : String.ofList (readName text id) ++ ".rs" = testFilename text other := by
    simpa using h
  have hlist := congrArg String.toList hname
  have hsuffix : "_regression.rs".toList = "_regression".toList ++ ".rs".toList := by decide
  rw [String.toList_append, String.toList_ofList, testFilename_toList, hsuffix,
    ← List.append_assoc] at hlist
  exact List.append_cancel_right hlist

/-- The name that a runner has for a test file is that of another one, with a longer id. -/
theorem longer_of_file (hlower : AsciiLower text) {id other : String}
    (hid : ∀ c ∈ id.toList, isIdOrBreak c = true)
    (hother : ∀ c ∈ other.toList, isIdOrBreak c = true)
    (h : dir.join (pathOf (String.ofList (readName text id) ++ ".rs")) = testPath text dir other) :
    '\n' ∉ (text.lower other).toList ∧ ('\n' ∉ (text.lower id).toList →
      (text.lower id).toList.length < (text.lower other).toList.length) := by
  have hname := readName_of_file hlower hid hother h
  constructor
  · intro hbreak
    have hmem : '\n' ∈ readName text id := by
      rw [hname]
      exact List.mem_append_left _ (List.mem_append_right _ hbreak)
    simpa using List.mem_takeWhile_imp hmem
  · intro hbreak
    have hwhole : readName text id = (moduleName text id).toList := by
      rw [readName, List.takeWhile_eq_self_iff]
      intro c hc
      rw [bne_iff_ne]
      rintro rfl
      rw [moduleName, String.toList_append, String.toList_append, String.toList_append] at hc
      simp only [List.mem_append] at hc
      rcases hc with hc | (hc | hc) | hc
      · exact absurd hc (by decide)
      · exact absurd hc (by decide)
      · exact hbreak hc
      · exact absurd hc (by decide)
    have hlength := congrArg List.length (hwhole.symm.trans hname)
    rw [moduleName, String.toList_append, String.toList_append, String.toList_append] at hlength
    have htest : "test_".toList.length = 5 := by decide
    simp only [List.length_append, htest] at hlength
    omega

end RunnerText

section Loop

variable {α β γ : Type}

/-- A loop over the images of a partial map takes the rounds of those that have one. -/
theorem roundsFrom_filterMap {body : Nat → γ → Except WriteError (Option (PosixPath × β))}
    {result : γ → Except WriteError (Option (PosixPath × β))}
    (hbody : ∀ n c, body n c = result c) (f : α → Option γ) (items : List α) (n m : Nat) :
    roundsFrom body n (items.filterMap f) =
      roundsFrom (fun _ a => (f a).elim (.ok none) result) m items := by
  induction items generalizing n m with
  | nil => rfl
  | cons a items ih =>
    cases hf : f a with
    | none =>
      rw [List.filterMap_cons_none hf, ih n (m + 1)]
      simp [roundsFrom, hf]
    | some c =>
      rw [List.filterMap_cons_some hf]
      simp only [roundsFrom, hf, Option.elim_some, hbody, ih (n + 1) (m + 1)]

end Loop

section Verdict

/-- The suggestion of a finding leads to the test of the finding `found`. -/
structure LeadsTo (findings : List PyDict) (d found : PyDict) : Prop where
  suggestion : HasSuggestion d
  found : findingWithId findings (decodedId (idOf d)) = some found

/-- The round of a finding does not end the loop with an exception. -/
def Passes (findings : List PyDict) (d : PyDict) : Prop :=
  ∀ found, LeadsTo findings d found → ∃ s, field found "severity" (.str "UNKNOWN") = .str s

/-- No finding leads to a test before one of them leads to a finding whose severity is no text. -/
def Untested (findings : List PyDict) : Prop :=
  ∀ d, Lists.Reached (Passes findings) findings d → ∀ found, ¬ LeadsTo findings d found

variable (text : PyText) (getFixTemplate : String → Json → FixTemplate)
  (statements : String → String) (findings : List PyDict) (dir : PosixPath)

/-- What a round does for a suggestion, on a disk that refuses nothing. -/
def roundResult (s : FixSuggestion) : Except WriteError (Option (PosixPath × String)) :=
  match findingWithId findings (suggestedId s) with
  | none => .ok none
  | some found =>
      (orRaise (generateRegressionTest text (regressionTestText text statements) (.obj found)
        s)).map fun code => some (testPath text dir (suggestedId s), code)

/-- What the loop does for a finding. -/
def findingRound (d : PyDict) : Except WriteError (Option (PosixPath × String)) :=
  (ownSuggestion text getFixTemplate d).elim (.ok none)
    (roundResult text statements findings dir)

variable {text getFixTemplate statements findings dir}

theorem rounds_eq (hlower : AsciiLower text) (hdir : dir.embedsNull = false)
    (h : ValidIds findings) :
    roundsFrom (regressionRound text (regressionTestText text statements) freeDisk
        (findings.map Json.obj) dir) 0 (findings.filterMap (ownSuggestion text getFixTemplate)) =
      roundsFrom (fun _ => findingRound text getFixTemplate statements findings dir) 0 findings :=
  roundsFrom_filterMap (fun n s => regressionRound_eq hlower hdir h n s) _ findings 0 0

theorem LeadsTo.unique {d found other : PyDict} (h : LeadsTo findings d found)
    (h' : LeadsTo findings d other) : other = found :=
  Option.some.inj (h'.found.symm.trans h.found)

theorem LeadsTo.mem {d found : PyDict} (h : LeadsTo findings d found) : found ∈ findings :=
  List.mem_of_find?_eq_some h.found

variable (text getFixTemplate statements dir) in
/-- What the loop does for a finding: nothing, or the file of a test, or an exception. -/
theorem findingRound_cases (h : ValidIds findings) {d : PyDict} (hd : d ∈ findings) :
    ((∀ found, ¬ LeadsTo findings d found) ∧
      findingRound text getFixTemplate statements findings dir d = .ok none) ∨
    (∃ found code, LeadsTo findings d found ∧
      (∃ v, field found "severity" (.str "UNKNOWN") = .str v) ∧
      findingRound text getFixTemplate statements findings dir d =
        .ok (some (testPath text dir (idOf found), code))) ∨
    ∃ found e, LeadsTo findings d found ∧
      (¬ ∃ v, field found "severity" (.str "UNKNOWN") = .str v) ∧
      findingRound text getFixTemplate statements findings dir d = .error e := by
  have hid := (h d hd).1
  have hsome : (ownSuggestion text getFixTemplate d).isSome = true ↔ HasSuggestion d :=
    ownSuggestion_isSome hid
  unfold findingRound
  cases hs : ownSuggestion text getFixTemplate d with
  | none =>
    refine .inl ⟨fun found hleads => ?_, rfl⟩
    have hisSome := hsome.mpr hleads.suggestion
    simp [hs] at hisSome
  | some s =>
    have hsuggestion : HasSuggestion d := hsome.mp (by rw [hs]; rfl)
    rw [Option.elim_some, roundResult, suggestedId_own hid hs]
    cases hfound : findingWithId findings (decodedId (idOf d)) with
    | none =>
      refine .inl ⟨fun found hleads => ?_, rfl⟩
      exact absurd (hfound.symm.trans hleads.found) (by simp)
    | some found =>
      have hleads : LeadsTo findings d found := ⟨hsuggestion, hfound⟩
      have hname : idOf found = decodedId (idOf d) := by simpa using List.find?_some hfound
      have hseverity : (∃ code, generateRegressionTest text (regressionTestText text statements)
          (.obj found) s = .ok code) ↔ ∃ v, field found "severity" (.str "UNKNOWN") = .str v :=
        severity_of_test (h found hleads.mem).1
      cases hcode : generateRegressionTest text (regressionTestText text statements) (.obj found) s
        with
      | ok code =>
        exact .inr (.inl ⟨found, code, hleads, hseverity.mp ⟨code, hcode⟩,
          by simp [hcode, hname, orRaise, Except.map]⟩)
      | error e =>
        refine .inr (.inr ⟨found, .raised e, hleads, fun hv => ?_,
          by simp [hcode, orRaise, Except.map]⟩)
        obtain ⟨code, hok⟩ := hseverity.mpr hv
        simp [hcode] at hok

theorem findingRound_ok_iff (h : ValidIds findings) {d : PyDict} (hd : d ∈ findings) :
    (∃ r, findingRound text getFixTemplate statements findings dir d = .ok r) ↔
      Passes findings d := by
  rcases findingRound_cases text getFixTemplate statements dir h hd with
    ⟨hnone, hr⟩ | ⟨found, code, hleads, hv, hr⟩ | ⟨found, e, hleads, hv, hr⟩
  · exact iff_of_true ⟨_, hr⟩ fun found hleads => absurd hleads (hnone found)
  · exact iff_of_true ⟨_, hr⟩ fun other hother => (hleads.unique hother) ▸ hv
  · refine iff_of_false ?_ fun hpasses => hv (hpasses found hleads)
    rintro ⟨r, hok⟩
    simp [hr] at hok

variable (text getFixTemplate statements findings dir) in
/-- The loop of `write_regression_tests`. -/
def written : Run String :=
  roundsFrom (fun _ => findingRound text getFixTemplate statements findings dir) 0 findings

/-- Every file that the loop writes is the test file of some finding. -/
theorem path_of_written (h : ValidIds findings) {file : PosixPath × String}
    (hfile : file ∈ (written text getFixTemplate statements findings dir).opened) :
    ∃ d found, Lists.Reached (Passes findings) findings d ∧ LeadsTo findings d found ∧
      file.1 = testPath text dir (idOf found) := by
  obtain ⟨d, n, hreached, hr⟩ := reached_of_mem_opened
    (p := fun d => ∃ r, findingRound text getFixTemplate statements findings dir d = .ok r)
    (fun _ a r hr => ⟨r, hr⟩) hfile
  have hpasses := hreached.imp fun b hb => (findingRound_ok_iff h hb).mp
  rcases findingRound_cases text getFixTemplate statements dir h hreached.mem with
    ⟨-, hnone⟩ | ⟨found, code, hleads, -, hok⟩ | ⟨found, e, -, -, herror⟩
  · exact absurd (hnone.symm.trans hr) (by simp)
  · refine ⟨d, found, hpasses, hleads, ?_⟩
    obtain rfl := Option.some.inj (Except.ok.inj (hok.symm.trans hr))
    rfl
  · exact absurd (herror.symm.trans hr) (by simp)

variable (text getFixTemplate statements dir) in
theorem written_eq_nil_iff (h : ValidIds findings) :
    (written text getFixTemplate statements findings dir).opened = [] ↔ Untested findings := by
  constructor
  · intro hnil d hreached found hleads
    have hok : ∀ (_ : Nat) (a : PyDict), Passes findings a ∧ a ∈ findings →
        ∃ r, findingRound text getFixTemplate statements findings dir a = .ok r :=
      fun _ a ha => (findingRound_ok_iff h ha.2).mpr ha.1
    obtain ⟨n, r, hr, hmem⟩ :=
      mem_opened_of_reached hok (hreached.imp fun b hb hpasses => ⟨hpasses, hb⟩) 0
    rcases findingRound_cases text getFixTemplate statements dir h hreached.mem with
      ⟨hnone, -⟩ | ⟨other, code, hother, -, hok⟩ | ⟨other, e, -, -, herror⟩
    · exact hnone found hleads
    · have hfile := hmem _ (Except.ok.inj (hr.symm.trans hok))
      rw [written] at hnil
      simp [hnil] at hfile
    · exact absurd (herror.symm.trans hr) (by simp)
  · intro huntested
    rw [List.eq_nil_iff_forall_not_mem]
    intro file hfile
    obtain ⟨d, found, hreached, hleads, -⟩ := path_of_written h hfile
    exact huntested d hreached found hleads

variable (text getFixTemplate statements findings dir) in
theorem regressionRun_written (hlower : AsciiLower text) (hdir : dir.embedsNull = false)
    (h : ValidIds findings) :
    regressionRun text getFixTemplate statements findings dir =
      match (written text getFixTemplate statements findings dir).ended with
      | .error _ => written text getFixTemplate statements findings dir
      | .ok () => ⟨(written text getFixTemplate statements findings dir).opened ++ [(runnerPath dir,
          genCombinedRegressionTest
            ((written text getFixTemplate statements findings dir).opened.map Prod.fst))],
          .ok ()⟩ := by
  have hrounds : roundsFrom (regressionRound text (regressionTestText text statements) freeDisk
      (findings.map Json.obj) dir) 0 (findings.filterMap (ownSuggestion text getFixTemplate)) =
      written text getFixTemplate statements findings dir := rounds_eq hlower hdir h
  rw [regressionRun_eq hdir h]
  simp only [hrounds]
  rfl

theorem ids_of_found (h : ValidIds findings) {d found : PyDict} (hleads : LeadsTo findings d found) :
    ∀ c ∈ (idOf found).toList, isIdOrBreak c = true :=
  chars_of_validId (h found hleads.mem).2

theorem written_ne_runner (hlower : AsciiLower text) (h : ValidIds findings)
    {file : PosixPath × String}
    (hfile : file ∈ (written text getFixTemplate statements findings dir).opened) :
    file.1 ≠ runnerPath dir := by
  obtain ⟨d, found, -, hleads, hpath⟩ := path_of_written h hfile
  rw [hpath]
  exact testPath_ne_combined hlower dir (ids_of_found h hleads)

theorem testFiles_eq (hlower : AsciiLower text) (hdir : dir.embedsNull = false)
    (h : ValidIds findings) :
    testFiles (regressionRun text getFixTemplate statements findings dir) dir =
      ((written text getFixTemplate statements findings dir).opened.map Prod.fst).dedup := by
  have hkeep : ((written text getFixTemplate statements findings dir).opened.map Prod.fst).filter
      (fun path => decide (path ≠ runnerPath dir)) =
      (written text getFixTemplate statements findings dir).opened.map Prod.fst := by
    rw [List.filter_eq_self]
    intro path hpath
    obtain ⟨file, hfile, rfl⟩ := List.mem_map.mp hpath
    exact decide_eq_true (written_ne_runner hlower h hfile)
  rw [testFiles, regressionRun_written _ _ _ _ _ hlower hdir h]
  cases (written text getFixTemplate statements findings dir).ended with
  | error e => simp only [hkeep]
  | ok u =>
    have hdrop : [runnerPath dir].filter (fun path => decide (path ≠ runnerPath dir)) = [] := by
      simp
    simp only [List.map_append, List.map_singleton, List.filter_append, hkeep, hdrop,
      List.append_nil]

theorem runnerModules_eq (hlower : AsciiLower text) (hdir : dir.embedsNull = false)
    (h : ValidIds findings) :
    runnerModules (regressionRun text getFixTemplate statements findings dir) dir =
      match (written text getFixTemplate statements findings dir).ended with
      | .error _ => []
      | .ok () => modulesIn (genCombinedRegressionTest
          ((written text getFixTemplate statements findings dir).opened.map Prod.fst)) := by
  rw [runnerModules, regressionRun_written _ _ _ _ _ hlower hdir h]
  cases (written text getFixTemplate statements findings dir).ended with
  | error e =>
    have hnone : textAt (written text getFixTemplate statements findings dir) (runnerPath dir) =
        none := by
      rw [textAt, Option.map_eq_none_iff, List.find?_eq_none]
      intro file hfile
      simpa using written_ne_runner hlower h (List.mem_reverse.mp hfile)
    simp only [hnone]
    rfl
  | ok u => simp [textAt]

/-- Once a test is written, some module of the runner names no test file: the name of a file
gets `test_` in front, so that the module of the longest one has none. -/
theorem not_all_modules_name (hlower : AsciiLower text) (h : ValidIds findings)
    (hne : (written text getFixTemplate statements findings dir).opened ≠ []) :
    ¬ ∀ name ∈ modulesIn (genCombinedRegressionTest
        ((written text getFixTemplate statements findings dir).opened.map Prod.fst)),
      dir.join (pathOf (name ++ ".rs")) ∈
        (written text getFixTemplate statements findings dir).opened.map Prod.fst := by
  intro hall
  set paths := (written text getFixTemplate statements findings dir).opened.map Prod.fst
    with hpaths
  set tested := findings.filter fun found => decide (testPath text dir (idOf found) ∈ paths)
    with htested
  have hmem : ∀ found ∈ tested, found ∈ findings ∧ testPath text dir (idOf found) ∈ paths := by
    intro found hfound
    simpa [htested] using List.mem_filter.mp hfound
  have hpath : ∀ path ∈ paths, ∃ found ∈ tested, path = testPath text dir (idOf found) := by
    intro path hpath
    obtain ⟨file, hfile, rfl⟩ := List.mem_map.mp hpath
    obtain ⟨d, found, -, hleads, hfound⟩ := path_of_written h hfile
    refine ⟨found, List.mem_filter.mpr ⟨hleads.mem, ?_⟩, hfound⟩
    exact decide_eq_true (hfound ▸ hpath)
  have htestedNe : tested ≠ [] := by
    obtain ⟨file, hfile⟩ := List.exists_mem_of_ne_nil _ hne
    obtain ⟨found, hfound, -⟩ := hpath file.1 (List.mem_map_of_mem hfile)
    exact List.ne_nil_of_mem hfound
  refine Lists.not_always_larger htestedNe (fun d => '\n' ∉ (text.lower (idOf d)).toList)
    (fun d => (text.lower (idOf d)).toList.length) fun found hfound => ?_
  obtain ⟨hfindings, hfile⟩ := hmem found hfound
  have hid := chars_of_validId (h found hfindings).2
  obtain ⟨other, hother, hnamed⟩ := hpath _ (hall _ (readName_mem hlower hid hfile))
  have hotherId := chars_of_validId (h other (hmem other hother).1).2
  exact ⟨other, hother, longer_of_file hlower hid hotherId hnamed⟩

/-- A runner without tests has no `mod` lines. -/
theorem names_runner_nil : functionsIn (genCombinedRegressionTest []) = [] ∧
    modulesIn (genCombinedRegressionTest []) = [] := by
  have htext : genCombinedRegressionTest [] =
      unlines (runnerTitle ++ "" :: runnerUsage ++ "" :: "" :: runnerSuite) := by
    refine String.toList_injective ?_
    simp [genCombinedRegressionTest, individualTests, combinedModules, unlines]
  have hlines : ∀ line ∈ runnerTitle ++ "" :: runnerUsage ++ "" :: "" :: runnerSuite,
      '\n' ∉ line.toList ∧ nameAfter "async fn " '(' line.toList = none ∧
        nameAfter "    mod " ';' line.toList = none := by decide +kernel
  rw [htext, functionsIn, modulesIn, namesIn_unlines (fun line h => (hlines line h).1) (by decide),
    namesIn_unlines (fun line h => (hlines line h).1) (by decide), List.filterMap_eq_nil_iff,
    List.filterMap_eq_nil_iff]
  exact ⟨fun line h => (hlines line h).2.1, fun line h => (hlines line h).2.2⟩

theorem untested_of_coherent (hlower : AsciiLower text) (hdir : dir.embedsNull = false)
    (h : ValidIds findings)
    (hcoherent : Coherent (regressionRun text getFixTemplate statements findings dir) dir) :
    Untested findings := by
  obtain ⟨-, hnames, hcount⟩ := hcoherent
  rw [testFiles_eq hlower hdir h, runnerModules_eq hlower hdir h] at hnames hcount
  refine (written_eq_nil_iff text getFixTemplate statements dir h).mp ?_
  by_contra hne
  cases hended : (written text getFixTemplate statements findings dir).ended with
  | error e =>
    rw [hended] at hcount
    have hnil := List.length_eq_zero_iff.mp hcount.symm
    exact hne (List.map_eq_nil_iff.mp ((List.dedup_eq_nil _).mp hnil))
  | ok u =>
    rw [hended] at hnames
    exact not_all_modules_name hlower h hne fun name hname =>
      List.mem_dedup.mp (hnames name hname).2

/-- The generated Rust is coherent exactly when no test is generated. -/
theorem coherent_iff_untested (hlower : AsciiLower text) (hdir : dir.embedsNull = false)
    (h : ValidIds findings) :
    Coherent (regressionRun text getFixTemplate statements findings dir) dir ↔
      Untested findings := by
  refine ⟨untested_of_coherent hlower hdir h, fun huntested => ?_⟩
  have hnil : (written text getFixTemplate statements findings dir).opened = [] :=
    (written_eq_nil_iff text getFixTemplate statements dir h).mpr huntested
  obtain ⟨hfunctions, hnone⟩ := names_runner_nil
  have hrun := regressionRun_written text getFixTemplate statements findings dir hlower hdir h
  have hfiles : testFiles (regressionRun text getFixTemplate statements findings dir) dir = [] := by
    rw [testFiles_eq hlower hdir h, hnil]
    rfl
  have hmodules : runnerModules (regressionRun text getFixTemplate statements findings dir) dir =
      [] := by
    rw [runnerModules_eq hlower hdir h, hnil]
    cases (written text getFixTemplate statements findings dir).ended with
    | error e => rfl
    | ok u => exact hnone
  refine ⟨?_, by simp [hmodules], by rw [hmodules, hfiles]; rfl⟩
  intro path code hcode
  cases hended : (written text getFixTemplate statements findings dir).ended with
  | error e =>
    rw [hended] at hrun
    simp [hrun, textAt, hnil] at hcode
  | ok u =>
    rw [hended, hnil] at hrun
    obtain ⟨-, rfl⟩ : runnerPath dir = path ∧ genCombinedRegressionTest [] = code := by
      simpa [hrun, textAt, List.find?_singleton] using hcode
    simp [hfunctions]

/-- A finding with a score of `null` gets no suggestion, so that the runner stands alone. -/
theorem coherent_without_suggestions :
    Coherent (regressionRun PyText.ascii fallbackTemplate genericStatements
      [manualFinding "FINDING-01" [("cvss", .null)]] (pathOf "tests/regression"))
      (pathOf "tests/regression") := by
  refine (coherent_iff_untested asciiLower_ascii (by decide) ?_).mpr ?_
  · intro d hd
    obtain rfl := List.mem_singleton.mp hd
    exact ⟨rfl, by decide⟩
  · intro d hreached found hleads
    obtain rfl := List.mem_singleton.mp hreached.mem
    obtain ⟨x, hx⟩ := hleads.suggestion.cvss
    have hnull : toFloat .null = .ok x := hx
    simp [toFloat] at hnull

/-- The test of `FINDING-01` has a hyphen in the name of its function, and the runner takes it for
the module of another file. -/
theorem hyphenated_id_incoherent :
    ValidIds [manualFinding "FINDING-01" []] ∧
      ¬ Coherent (regressionRun PyText.ascii fallbackTemplate genericStatements
        [manualFinding "FINDING-01" []] (pathOf "tests/regression")) (pathOf "tests/regression") := by
  have hids : ValidIds (["FINDING-01"].map fun id => manualFinding id []) :=
    validIds_manualFindings (by decide)
  refine ⟨hids, fun hcoherent => ?_⟩
  have huntested := untested_of_coherent asciiLower_ascii (by decide) hids hcoherent
  have hdecoded : decodedId "FINDING-01" = "FINDING-01" := (decodedId_eq_iff _).mpr (by decide)
  have hleads : ∀ found, LeadsTo [manualFinding "FINDING-01" []] (manualFinding "FINDING-01" [])
      found ↔ found = manualFinding "FINDING-01" [] := by
    have hself : findingWithId [manualFinding "FINDING-01" []]
        (decodedId (idOf (manualFinding "FINDING-01" []))) = some (manualFinding "FINDING-01" []) := by
      rw [idOf_manualFinding, hdecoded]
      exact findingWithId_self (by decide) List.mem_cons_self
    intro found
    constructor
    · exact fun h => Option.some.inj (h.found.symm.trans hself)
    · rintro rfl
      exact ⟨hasSuggestion_manualFinding _, hself⟩
  refine huntested (manualFinding "FINDING-01" []) (.here ?_) _ ((hleads _).mpr rfl)
  intro found hfound
  exact ⟨"HIGH", by rw [(hleads found).mp hfound]; rfl⟩

end Verdict

end SolanaAuditor.Suggestions
