/- SolanaAuditor/Suggestions/OutputPaths
   digest: When the files of --metadata and --regression stay inside their directories. -/

import SolanaAuditor.Lib.Lists
import SolanaAuditor.Suggestions.Alignment
import SolanaAuditor.Suggestions.OutputFiles

set_option autoImplicit false
set_option relaxedAutoImplicit false

namespace SolanaAuditor.Suggestions

open SolanaAuditor.Lib SolanaAuditor.Lib.LexicalPath

def Inside (cwd : List String) (dir path : PosixPath) : Prop :=
  Below (dir.resolved cwd) (path.resolved cwd)

/-- A name, normalized, climbs over some directories and then comes down through the same ones
and goes on. An absolute name has to name the whole directory. -/
def Contained (cwd : List String) (dir : String) (name : String) : Prop :=
  let place := (pathOf dir).resolved cwd
  let n := normalize (pathOf name).segments
  Below (if (pathOf name).absolute then place else place.drop (place.length - n.ups)) n.names

section Paths

theorem inside_join_iff (cwd : List String) (dir name : String) :
    Inside cwd (pathOf dir) ((pathOf dir).join (pathOf name)) ↔ Contained cwd dir name := by
  unfold Inside Contained PosixPath.join
  cases habs : (pathOf name).absolute with
  | true => simp only [if_true, PosixPath.resolved, habs, resolve_nil_eq]
  | false =>
    simp only [Bool.false_eq_true, if_false]
    rw [← below_resolve_iff]
    simp only [PosixPath.resolved, resolve_append]

theorem pathOf_plain {name : String} (hslash : '/' ∉ name.toList)
    (hlength : 2 < name.toList.length) : pathOf name = ⟨false, [.down name]⟩ := by
  have hhead : name.toList.head? ≠ some '/' := fun h => hslash (List.mem_of_mem_head? h)
  have hsegment : segmentOf name.toList = some (.down name) := by
    unfold segmentOf
    split
    · rename_i h
      simp [h] at hlength
    · rename_i h
      simp [h] at hlength
    · rename_i h
      simp [h] at hlength
    · rw [String.ofList_toList]
  rw [pathOf, List.splitOn_eq_singleton hslash, beq_eq_false_iff_ne.mpr hhead]
  simp [hsegment]

/-- A name without a slash stays inside every directory. -/
theorem contained_of_plain (cwd : List String) (dir : String) {name : String}
    (hslash : '/' ∉ name.toList) (hlength : 2 < name.toList.length) : Contained cwd dir name := by
  unfold Contained
  rw [pathOf_plain hslash hlength, normalize_down]
  simp only [Bool.false_eq_true, if_false, Nat.sub_zero, List.drop_length]
  exact ⟨[name], by simp, rfl⟩

theorem segmentOf_eq_down {piece : List Char} {name : String}
    (h : segmentOf piece = some (.down name)) : name.toList = piece := by
  unfold segmentOf at h
  split at h
  · simp at h
  · simp at h
  · simp at h
  · simp only [Option.some.injEq, Segment.down.injEq] at h
    rw [← h, String.toList_ofList]

/-- A text without the null character has a path without it. -/
theorem embedsNull_pathOf {s : String} (h : s.toList.any (·.toNat == 0) = false) :
    (pathOf s).embedsNull = false := by
  rw [PosixPath.embedsNull, List.any_eq_false]
  intro segment hsegment
  obtain ⟨piece, hpiece, hsome⟩ := List.mem_filterMap.mp hsegment
  cases segment with
  | up => simp
  | down name =>
    have hname := segmentOf_eq_down hsome
    simp only [hname, Bool.not_eq_true, List.any_eq_false]
    intro c hc
    simpa using List.any_eq_false.mp h c ((Lists.piece_of_splitOn hpiece).2 c hc)

theorem embedsNull_of_sanitized {arg dir : String} (h : sanitizePath arg = .ok dir) :
    (pathOf dir).embedsNull = false := by
  refine embedsNull_pathOf ?_
  unfold sanitizePath at h
  split_ifs at h with _ _ _ hnull
  obtain rfl := Except.ok.inj h
  simpa using hnull

theorem embedsNull_join {dir name : PosixPath} (h : dir.embedsNull = false) :
    (dir.join name).embedsNull = name.embedsNull := by
  unfold PosixPath.join
  split_ifs
  · rfl
  · simp only [PosixPath.embedsNull, List.any_append] at h ⊢
    rw [h, Bool.false_or]

end Paths

section Loops

variable {α β : Type}

/-- A file that a loop opens comes from a round that the loop reaches. -/
theorem reached_of_mem_opened {body : Nat → α → Except WriteError (Option (PosixPath × β))}
    {p : α → Prop} (hp : ∀ round a r, body round a = .ok r → p a) {items : List α}
    {file : PosixPath × β} {round : Nat} (h : file ∈ (roundsFrom body round items).opened) :
    ∃ a round, Lists.Reached p items a ∧ body round a = .ok (some file) := by
  induction items generalizing round with
  | nil => simp [roundsFrom] at h
  | cons a items ih =>
    unfold roundsFrom at h
    split at h
    · simp at h
    · rename_i r hr
      rcases List.mem_append.mp h with h | h
      · obtain rfl := Option.mem_toList.mp h
        exact ⟨a, round, .here (hp round a _ hr), hr⟩
      · obtain ⟨b, n, hb, hfile⟩ := ih h
        exact ⟨b, n, .later (hp round a _ hr) hb, hfile⟩

/-- A round that the loop reaches leaves its file among the opened ones. -/
theorem mem_opened_of_reached {body : Nat → α → Except WriteError (Option (PosixPath × β))}
    {p : α → Prop} (hp : ∀ round a, p a → ∃ r, body round a = .ok r) {items : List α} {a : α}
    (h : Lists.Reached p items a) (round : Nat) :
    ∃ n r, body n a = .ok r ∧ ∀ file, r = some file → file ∈ (roundsFrom body round items).opened := by
  induction h generalizing round with
  | here ha =>
    obtain ⟨r, hr⟩ := hp round _ ha
    refine ⟨round, r, hr, ?_⟩
    rintro file rfl
    simp [roundsFrom, hr]
  | later hb _ ih =>
    obtain ⟨r, hr⟩ := hp round _ hb
    obtain ⟨n, r', hr', hmem⟩ := ih (round + 1)
    refine ⟨n, r', hr', fun file hfile => ?_⟩
    simp only [roundsFrom, hr]
    exact List.mem_append_right _ (hmem file hfile)

end Loops

section Rounds

variable (text : PyText) (chars : PyChars) (parseFloat : String → Option FloatValue)
  (generatedAt : String) (testText : String → String → String → String)

/-- The name of the metadata file of a finding. -/
def metadataName (finding : PyDict) : String :=
  metadataFilename (text.format (field finding "id" (.str "unknown")))

/-- A finding whose metadata can be made and whose name an operating system takes. -/
structure MetadataReady (finding : PyDict) : Prop where
  described : Describable parseFloat finding
  named : (pathOf (metadataName text finding)).embedsNull = false

theorem orRaise_ok {α : Type} {x : Py α} {a : α} : orRaise x = .ok a ↔ x = .ok a := by
  cases x <;> simp [orRaise]

theorem WriteError.bind_ok {α γ : Type} {x : Except WriteError α} {f : α → Except WriteError γ}
    {c : γ} : x >>= f = .ok c ↔ ∃ a, x = .ok a ∧ f a = .ok c := by
  cases x <;> simp [bind, Except.bind]

theorem open_ok {disk : Disk} {round : Nat} {path : PosixPath}
    (h : disk.open round path = .ok ()) : path.embedsNull = false := by
  unfold Disk.open at h
  split_ifs at h with hnull
  simpa using hnull

/-- A disk that refuses nothing. -/
def freeDisk : Disk := ⟨fun _ _ => true, fun _ _ => true⟩

theorem mkdir_ok {disk : Disk} {round : Nat} {dir : PosixPath} (h : dir.embedsNull = false)
    (hmakes : disk.makes round dir = true) : disk.mkdir round dir = .ok () := by
  simp [Disk.mkdir, hmakes, h]

theorem open_freeDisk (round : Nat) {path : PosixPath} (h : path.embedsNull = false) :
    freeDisk.open round path = .ok () := by
  simp [Disk.open, freeDisk, h]

theorem metadataRound_ok {disk : Disk} {dir : PosixPath} (hdir : dir.embedsNull = false)
    {round : Nat} {pair : Json × FixSuggestion} {r : Option (PosixPath × ExploitMetadata)}
    (h : metadataRound text chars parseFloat generatedAt disk dir round pair = .ok r) :
    ∃ d m, pair.1 = .obj d ∧ MetadataReady text parseFloat d ∧
      r = some (dir.join (pathOf (metadataName text d)), m) := by
  simp only [metadataRound, writeMetadataFile, WriteError.bind_ok, orRaise_ok] at h
  obtain ⟨m, hm, id, hid, path, ⟨_, _, _, hopen, hpath⟩, hr⟩ := h
  obtain ⟨finding, suggestion⟩ := pair
  cases finding with
  | obj d =>
    obtain rfl : field d "id" (.str "unknown") = id := Except.ok.inj hid
    obtain rfl := Except.ok.inj hpath
    refine ⟨d, m, rfl, ⟨?_, ?_⟩, (Except.ok.inj hr).symm⟩
    · exact (metadataOf_returns text chars parseFloat generatedAt d suggestion).mp ⟨m, hm⟩
    · exact (embedsNull_join hdir).symm.trans (open_ok hopen)
  | null | bool | int | float | str | arr => simp [generateExploitMetadata] at hm

theorem metadataRound_freeDisk {dir : PosixPath} (hdir : dir.embedsNull = false) (round : Nat)
    {d : PyDict} (hd : MetadataReady text parseFloat d) (suggestion : FixSuggestion) :
    ∃ m, metadataRound text chars parseFloat generatedAt freeDisk dir round (.obj d, suggestion) =
      .ok (some (dir.join (pathOf (metadataName text d)), m)) := by
  obtain ⟨m, hm⟩ :=
    (metadataOf_returns text chars parseFloat generatedAt d suggestion).mpr hd.described
  have hopen := open_freeDisk round ((embedsNull_join hdir).trans hd.named)
  refine ⟨m, ?_⟩
  simp only [metadataRound, writeMetadataFile, WriteError.bind_ok, orRaise_ok]
  exact ⟨m, hm, _, rfl, _, ⟨(), mkdir_ok hdir rfl, (), hopen, rfl⟩, rfl⟩

/-- The finding that the test of a suggestion is about. -/
def Tests (findings : List Json) (suggestion : FixSuggestion) (finding : PyDict) : Prop :=
  nextWithId (suggestedId suggestion) findings = .ok (some (.obj finding))

/-- A suggestion without a finding, or one whose test can be made and has a name that an
operating system takes. -/
def TestReady (findings : List Json) (suggestion : FixSuggestion) : Prop :=
  ∀ finding, Tests findings suggestion finding →
    (∃ s, field finding "severity" (.str "UNKNOWN") = .str s) ∧
    (pathOf (testFilename text (suggestedId suggestion))).embedsNull = false

theorem Admitted.truthy {d : PyDict} (h : Admitted d) : truthy (.obj d) = true := by
  obtain ⟨v, hv⟩ := h.id
  cases d with
  | nil => simp [Dict.get?] at hv
  | cons e d => rfl

theorem nextWithId_admitted {findings : List PyDict} (h : ∀ d ∈ findings, Admitted d)
    (id : String) :
    ∃ found : Option PyDict, nextWithId id (findings.map Json.obj) = .ok (found.map Json.obj) ∧
      ∀ d, found = some d → Admitted d ∧ field d "id" (.str "") = .str id := by
  induction findings with
  | nil => exact ⟨none, rfl, by simp⟩
  | cons d findings ih =>
    obtain ⟨hd, hrest⟩ := List.forall_mem_cons.mp h
    have hstep : nextWithId id ((d :: findings).map Json.obj) =
        if isText id (field d "id" (.str "")) then .ok (some (.obj d))
        else nextWithId id (findings.map Json.obj) := rfl
    cases htext : isText id (field d "id" (.str "")) with
    | false =>
      rw [hstep, htext]
      exact ih hrest
    | true =>
      refine ⟨some d, by rw [hstep, htext]; rfl, ?_⟩
      rintro d' hd'
      obtain rfl := Option.some.inj hd'
      refine ⟨hd, ?_⟩
      cases hv : field d "id" (.str "") with
      | str s =>
        rw [hv, isText, beq_iff_eq] at htext
        rw [htext]
      | null | bool | int | float | arr | obj => simp [hv, isText] at htext

theorem generateRegressionTest_returns {d : PyDict} {suggestion : FixSuggestion} {id : String}
    (hadmitted : Admitted d) (hid : field d "id" (.str "") = .str id) :
    (∃ t, generateRegressionTest text testText (.obj d) suggestion = .ok t) ↔
      ∃ s, field d "severity" (.str "UNKNOWN") = .str s := by
  obtain ⟨v, hv⟩ := hadmitted.id
  obtain rfl : v = .str id := by simpa [field, hv] using hid
  have hget : pyGet (.obj d) "severity" (.str "UNKNOWN") =
      .ok (field d "severity" (.str "UNKNOWN")) := rfl
  have hname : pyGet (.obj d) "id" (.str "UNKNOWN") = .ok (.str id) := by
    simp [pyGet, hv, pure, Except.pure]
  rw [← text.uppered_returns]
  simp only [generateRegressionTest, hname, hget, Py.bind_eq_ok]
  constructor
  · rintro ⟨t, -, -, v, hv, s, hs, -⟩
    exact ⟨s, (Except.ok.inj hv) ▸ hs⟩
  · rintro ⟨s, hs⟩
    exact ⟨_, _, rfl, _, rfl, s, hs, _, rfl, rfl⟩

theorem regressionRound_ok {disk : Disk} {dir : PosixPath} (hdir : dir.embedsNull = false)
    {findings : List PyDict} (h : ∀ d ∈ findings, Admitted d) {round : Nat}
    {suggestion : FixSuggestion} {r : Option (PosixPath × String)}
    (hr : regressionRound text testText disk (findings.map Json.obj) dir round suggestion = .ok r) :
    TestReady text (findings.map Json.obj) suggestion ∧ ∀ file, r = some file →
      (∃ d, Tests (findings.map Json.obj) suggestion d) ∧
      file.1 = dir.join (pathOf (testFilename text (suggestedId suggestion))) := by
  obtain ⟨found, hfound, hadmitted⟩ := nextWithId_admitted h (suggestedId suggestion)
  unfold TestReady Tests
  rw [hfound]
  cases found with
  | none =>
    simp only [regressionRound, hfound, orRaise, Option.map_none, bind, Except.bind] at hr
    obtain rfl := Except.ok.inj hr
    simp
  | some d =>
    obtain ⟨hd, hid⟩ := hadmitted d rfl
    simp only [regressionRound, hfound, Option.map_some, WriteError.bind_ok, orRaise_ok] at hr
    obtain ⟨_, hsome, hr⟩ := hr
    obtain rfl := Except.ok.inj hsome
    simp only [hd.truthy, Bool.not_true, Bool.false_eq_true, if_false, WriteError.bind_ok,
      orRaise_ok] at hr
    obtain ⟨code, hcode, _, hopen, hr⟩ := hr
    have hseverity := (generateRegressionTest_returns text testText hd hid).mp ⟨code, hcode⟩
    have hnull := (embedsNull_join hdir).symm.trans (open_ok hopen)
    refine ⟨?_, ?_⟩
    · intro d' hd'
      obtain rfl : d = d' := by simpa using hd'
      exact ⟨hseverity, hnull⟩
    · rintro file rfl
      exact ⟨⟨d, rfl⟩, congrArg Prod.fst (Option.some.inj (Except.ok.inj hr)).symm⟩

theorem regressionRound_freeDisk {dir : PosixPath} (hdir : dir.embedsNull = false)
    {findings : List PyDict} (h : ∀ d ∈ findings, Admitted d) (round : Nat)
    {suggestion : FixSuggestion} (hready : TestReady text (findings.map Json.obj) suggestion) :
    ∃ r, regressionRound text testText freeDisk (findings.map Json.obj) dir round suggestion =
        .ok r ∧
      ((∃ d, Tests (findings.map Json.obj) suggestion d) → ∃ code,
        r = some (dir.join (pathOf (testFilename text (suggestedId suggestion))), code)) := by
  obtain ⟨found, hfound, hadmitted⟩ := nextWithId_admitted h (suggestedId suggestion)
  cases found with
  | none =>
    refine ⟨none, by simp [regressionRound, hfound, orRaise, bind, Except.bind, pure, Except.pure],
      ?_⟩
    rintro ⟨d, hd⟩
    rw [Tests, hfound] at hd
    simp at hd
  | some d =>
    obtain ⟨hd, hid⟩ := hadmitted d rfl
    obtain ⟨hseverity, hnull⟩ := hready d hfound
    obtain ⟨code, hcode⟩ := (generateRegressionTest_returns text testText hd hid).mpr hseverity
    have hopen := open_freeDisk round ((embedsNull_join hdir).trans hnull)
    refine ⟨_, ?_, fun _ => ⟨code, rfl⟩⟩
    simp only [regressionRound, hfound, Option.map_some, WriteError.bind_ok, orRaise_ok]
    refine ⟨_, rfl, ?_⟩
    simp only [hd.truthy, Bool.not_true, Bool.false_eq_true, if_false, WriteError.bind_ok,
      orRaise_ok]
    exact ⟨code, hcode, (), hopen, rfl⟩

end Rounds

section Modes

variable (text : PyText) (chars : PyChars) (parseFloat : String → Option FloatValue)
  (generatedAt : String) (getFixTemplate : String → Json → FixTemplate)
  (testText : String → String → String → String) (combinedText : List PosixPath → String)
  (cwd : List String)

/-- Whatever the disk answers, both modes open files inside their directories only. -/
def OutputsInside (data : Json) (metadataDir regressionDir : String) : Prop :=
  ∀ disk,
    (∀ file ∈ (metadataMode text chars parseFloat generatedAt getFixTemplate disk data
      metadataDir).opened, Inside cwd (pathOf metadataDir) file.1) ∧
    ∀ file ∈ (regressionMode text getFixTemplate testText combinedText disk data
      regressionDir).opened, Inside cwd (pathOf regressionDir) file.1

/-- The metadata names that the loop reaches are contained. -/
def MetadataContained (data : Json) (metadataDir : String) : Prop :=
  let findings := findingsOf data
  ∀ finding suggestion,
    Lists.Reached (fun pair => ∃ d, pair.1 = .obj d ∧ MetadataReady text parseFloat d)
      (findings.zip (generateAllSuggestions text getFixTemplate findings))
      (.obj finding, suggestion) →
    Contained cwd metadataDir (metadataName text finding)

/-- The test names that the loop reaches are contained. -/
def TestsContained (data : Json) (regressionDir : String) : Prop :=
  let findings := findingsOf data
  ∀ suggestion finding,
    Lists.Reached (TestReady text findings) (generateAllSuggestions text getFixTemplate findings)
      suggestion →
    Tests findings suggestion finding →
    Contained cwd regressionDir (testFilename text (suggestedId suggestion))

theorem metadataRounds_inside_iff {dir : String} (hdir : (pathOf dir).embedsNull = false)
    (pairs : List (Json × FixSuggestion)) :
    (∀ disk, ∀ file ∈ (roundsFrom (metadataRound text chars parseFloat generatedAt disk
      (pathOf dir)) 0 pairs).opened, Inside cwd (pathOf dir) file.1) ↔
      ∀ d s, Lists.Reached (fun pair => ∃ d, pair.1 = .obj d ∧ MetadataReady text parseFloat d)
        pairs (.obj d, s) → Contained cwd dir (metadataName text d) := by
  constructor
  · intro h d s hreached
    have hround : ∀ round (pair : Json × FixSuggestion),
        (∃ d, pair.1 = .obj d ∧ MetadataReady text parseFloat d) →
        ∃ r, metadataRound text chars parseFloat generatedAt freeDisk (pathOf dir) round pair =
          .ok r := by
      rintro round ⟨f, s⟩ ⟨d, rfl, hd⟩
      obtain ⟨m, hm⟩ := metadataRound_freeDisk text chars parseFloat generatedAt hdir round hd s
      exact ⟨_, hm⟩
    obtain ⟨round, r, hr, hmem⟩ := mem_opened_of_reached hround hreached 0
    obtain ⟨d', m, hd, -, rfl⟩ := metadataRound_ok text chars parseFloat generatedAt hdir hr
    obtain rfl := Json.obj.inj hd
    exact (inside_join_iff cwd dir _).mp (h freeDisk _ (hmem _ rfl))
  · intro h disk file hfile
    have hround : ∀ round (pair : Json × FixSuggestion) r,
        metadataRound text chars parseFloat generatedAt disk (pathOf dir) round pair = .ok r →
        ∃ d, pair.1 = .obj d ∧ MetadataReady text parseFloat d := by
      intro round pair r hr
      obtain ⟨d, m, hd, hready, -⟩ := metadataRound_ok text chars parseFloat generatedAt hdir hr
      exact ⟨d, hd, hready⟩
    obtain ⟨⟨f, s⟩, round, hreached, hr⟩ := reached_of_mem_opened hround hfile
    obtain ⟨d, m, rfl, -, hfile⟩ := metadataRound_ok text chars parseFloat generatedAt hdir hr
    obtain rfl := Option.some.inj hfile
    exact (inside_join_iff cwd dir _).mpr (h d s hreached)

/-- Without findings there are no pairs either. -/
theorem metadataMode_opened (disk : Disk) (data : Json) (dir : String) :
    (metadataMode text chars parseFloat generatedAt getFixTemplate disk data dir).opened =
      (roundsFrom (metadataRound text chars parseFloat generatedAt disk (pathOf dir)) 0
        ((findingsOf data).zip
          (generateAllSuggestions text getFixTemplate (findingsOf data)))).opened := by
  unfold metadataMode zipped
  cases hfindings : findingsOf data with
  | nil => rfl
  | cons f findings => rfl

theorem regressionRounds_inside_iff {dir : String} (hdir : (pathOf dir).embedsNull = false)
    {findings : List PyDict} (hadmitted : ∀ d ∈ findings, Admitted d)
    (suggestions : List FixSuggestion) :
    (∀ disk, ∀ file ∈ (roundsFrom (regressionRound text testText disk (findings.map Json.obj)
      (pathOf dir)) 0 suggestions).opened, Inside cwd (pathOf dir) file.1) ↔
      ∀ s d, Lists.Reached (TestReady text (findings.map Json.obj)) suggestions s →
        Tests (findings.map Json.obj) s d →
        Contained cwd dir (testFilename text (suggestedId s)) := by
  constructor
  · intro h s d hreached htests
    have hround : ∀ round s, TestReady text (findings.map Json.obj) s →
        ∃ r, regressionRound text testText freeDisk (findings.map Json.obj) (pathOf dir) round s =
          .ok r := by
      intro round s hs
      obtain ⟨r, hr, -⟩ := regressionRound_freeDisk text testText hdir hadmitted round hs
      exact ⟨r, hr⟩
    obtain ⟨round, r, hr, hmem⟩ := mem_opened_of_reached hround hreached 0
    obtain ⟨r', hr', hfile⟩ := regressionRound_freeDisk text testText hdir hadmitted round
      (regressionRound_ok text testText hdir hadmitted hr).1
    obtain rfl := Except.ok.inj (hr.symm.trans hr')
    obtain ⟨code, rfl⟩ := hfile ⟨d, htests⟩
    exact (inside_join_iff cwd dir _).mp (h freeDisk _ (hmem _ rfl))
  · intro h disk file hfile
    have hround : ∀ round s r,
        regressionRound text testText disk (findings.map Json.obj) (pathOf dir) round s = .ok r →
        TestReady text (findings.map Json.obj) s :=
      fun round s r hr => (regressionRound_ok text testText hdir hadmitted hr).1
    obtain ⟨s, round, hreached, hr⟩ := reached_of_mem_opened hround hfile
    obtain ⟨⟨d, hd⟩, hpath⟩ := (regressionRound_ok text testText hdir hadmitted hr).2 file rfl
    rw [hpath]
    exact (inside_join_iff cwd dir _).mpr (h s d hreached hd)

/-- Beyond the files of its loop `write_regression_tests` opens the combined test. -/
theorem mem_writeRegressionTests {disk : Disk} {findings : List Json}
    {suggestions : List FixSuggestion} {dir : PosixPath} {file : PosixPath × String}
    (h : file ∈ (writeRegressionTests text testText combinedText disk findings suggestions
      dir).opened) :
    file ∈ (roundsFrom (regressionRound text testText disk findings dir) 0 suggestions).opened ∨
      file.1 = dir.join (pathOf combinedFilename) := by
  unfold writeRegressionTests at h
  split at h
  · simp at h
  · dsimp only at h
    split at h
    · exact .inl h
    · split at h
      · exact .inl h
      · rcases List.mem_append.mp h with h | h
        · exact .inl h
        · obtain rfl := List.mem_singleton.mp h
          exact .inr rfl

/-- The loop does not ask for directories, so a disk that makes them all sees its files. -/
theorem rounds_subset_writeRegressionTests (disk : Disk) {findings : List Json}
    {suggestions : List FixSuggestion} {dir : PosixPath} (hdir : dir.embedsNull = false) :
    (roundsFrom (regressionRound text testText disk findings dir) 0 suggestions).opened ⊆
      (writeRegressionTests text testText combinedText { disk with makes := fun _ _ => true }
        findings suggestions dir).opened := by
  intro file hfile
  have hmkdir : Disk.mkdir { disk with makes := fun _ _ => true } 0 dir = .ok () :=
    mkdir_ok hdir rfl
  have hround : regressionRound text testText { disk with makes := fun _ _ => true } findings dir =
      regressionRound text testText disk findings dir := rfl
  simp only [writeRegressionTests, hmkdir, hround]
  split
  · exact hfile
  · split
    · exact hfile
    · exact List.mem_append_left _ hfile

theorem regressionMode_inside_iff {data : Json} (hdata : validateFindingsJson data = .ok ())
    {dir : String} (hdir : (pathOf dir).embedsNull = false) :
    (∀ disk, ∀ file ∈ (regressionMode text getFixTemplate testText combinedText disk data
      dir).opened, Inside cwd (pathOf dir) file.1) ↔
      TestsContained text getFixTemplate cwd data dir := by
  obtain ⟨entries, findings, rfl, hfindings, hadmitted⟩ := validateFindingsJson_ok.mp hdata
  have hlist : findingsOf (.obj entries) = findings.map Json.obj := by
    simp [findingsOf, hfindings]
  have hcombined : Inside cwd (pathOf dir) ((pathOf dir).join (pathOf combinedFilename)) :=
    (inside_join_iff cwd dir _).mpr (contained_of_plain cwd dir (by decide) (by decide))
  unfold TestsContained
  rw [hlist]
  simp only
  rw [← regressionRounds_inside_iff text testText cwd hdir hadmitted]
  cases findings with
  | nil => simp [regressionMode, hlist, generateAllSuggestions, suggestionsFrom, roundsFrom]
  | cons d ds =>
    have hmode : ∀ disk, regressionMode text getFixTemplate testText combinedText disk
        (.obj entries) dir = writeRegressionTests text testText combinedText disk
          ((d :: ds).map Json.obj)
          (generateAllSuggestions text getFixTemplate ((d :: ds).map Json.obj)) (pathOf dir) := by
      intro disk
      simp [regressionMode, hlist]
    simp only [hmode]
    constructor
    · intro h disk file hfile
      exact h _ file (rounds_subset_writeRegressionTests text testText combinedText disk hdir hfile)
    · intro h disk file hfile
      rcases mem_writeRegressionTests text testText combinedText hfile with hloop | hlast
      · exact h disk file hloop
      · exact hlast ▸ hcombined

/-- The files of `--metadata` and `--regression` stay inside their directories exactly when every
name that a run reaches is contained: its steps up, if it has any, lead back down. -/
theorem outputs_inside_iff {file : InputFile} {data : Json} (hread : readFindings file = .ok data)
    {metadataArg metadataDir : String} (hmetadata : sanitizePath metadataArg = .ok metadataDir)
    {regressionArg regressionDir : String}
    (hregression : sanitizePath regressionArg = .ok regressionDir) :
    OutputsInside text chars parseFloat generatedAt getFixTemplate testText combinedText cwd data
        metadataDir regressionDir ↔
      MetadataContained text parseFloat getFixTemplate cwd data metadataDir ∧
        TestsContained text getFixTemplate cwd data regressionDir := by
  have hmetadataNull := embedsNull_of_sanitized hmetadata
  have hregressionNull := embedsNull_of_sanitized hregression
  rw [OutputsInside, forall_and]
  refine and_congr ?_ ?_
  · simp only [metadataMode_opened]
    exact metadataRounds_inside_iff text chars parseFloat generatedAt cwd hmetadataNull _
  · exact regressionMode_inside_iff text getFixTemplate testText combinedText cwd
      (readFindings_ok.mp hread).2 hregressionNull

end Modes

section Samples

/-! Names of findings with an id that `validate_finding_id` takes, and with one that it refuses. -/

theorem not_slash_of_valid {id : String} (h : validateFindingId id = .ok ()) :
    '/' ∉ id.toList :=
  fun hslash => absurd (chars_of_validId h '/' hslash) (by decide)

/-- The check that `main` makes of `--finding` would be enough for the metadata files. -/
theorem contained_of_validId (cwd : List String) (dir : String) {id : String}
    (h : validateFindingId id = .ok ()) : Contained cwd dir (metadataFilename id) := by
  refine contained_of_plain cwd dir ?_ ?_
  · simp only [metadataFilename, String.toList_append, List.mem_append, not_or]
    exact ⟨not_slash_of_valid h, by decide⟩
  · simp only [metadataFilename, String.toList_append, List.length_append]
    have hsuffix : "-metadata.json".toList.length = 14 := by decide
    omega

instance (cwd : List String) (dir name : String) : Decidable (Contained cwd dir name) := by
  unfold Contained
  infer_instance

/-- The second id climbs, and comes down again into the directory. -/
theorem outputs_inside_iff_sample :
    OutputsInside PyText.ascii PyChars.ascii (fun _ => none) "2025-01-01T00:00:00+00:00"
      fallbackTemplate (fun _ _ _ => "") (fun _ => "") ["home", "work"]
      (findingsDocument [manualFinding "VULN-01" [], manualFinding "x/../../out/VULN-02" []])
      "out" "out" := by
  have hread : readFindings (.value (findingsDocument
      [manualFinding "VULN-01" [], manualFinding "x/../../out/VULN-02" []])) = .ok _ := rfl
  have hdir : sanitizePath "out" = .ok "out" := rfl
  refine (outputs_inside_iff PyText.ascii PyChars.ascii (fun _ => none) _ fallbackTemplate _ _
    ["home", "work"] hread hdir hdir).mpr ⟨?_, ?_⟩
  · intro finding suggestion h
    have hfinding : finding = manualFinding "VULN-01" [] ∨
        finding = manualFinding "x/../../out/VULN-02" [] := by
      simpa [findingsOf, findingsDocument] using (List.of_mem_zip h.mem).1
    rcases hfinding with rfl | rfl <;> decide
  · intro suggestion finding h htests
    have hids : (generateAllSuggestions PyText.ascii fallbackTemplate (findingsOf (findingsDocument
        [manualFinding "VULN-01" [], manualFinding "x/../../out/VULN-02" []]))).map suggestedId =
          ["VULN-01", "x/../../out/VULN-02"] := rfl
    have hid := List.mem_map_of_mem (f := suggestedId) h.mem
    rw [hids] at hid
    obtain hid | hid : suggestedId suggestion = "VULN-01" ∨
        suggestedId suggestion = "x/../../out/VULN-02" := by simpa using hid
    · rw [hid]
      decide
    · rw [hid]
      decide

/-- One id leads both writers out of their directory. -/
theorem climbing_id_escapes :
    let data := findingsDocument [manualFinding "x/../../../VULN-01" []]
    readFindings (.value data) = .ok data ∧ sanitizePath "out" = .ok "out" ∧
      (metadataMode PyText.ascii PyChars.ascii (fun _ => none) "2025-01-01T00:00:00+00:00"
        fallbackTemplate freeDisk data "out").opened.map (fun f => f.1.resolved ["home", "work"]) =
          [["home", "VULN-01-metadata.json"]] ∧
      (regressionMode PyText.ascii fallbackTemplate (fun _ _ _ => "") (fun _ => "") freeDisk data
        "out").opened.map (fun f => f.1.resolved ["home", "work"]) =
          [["home", "vuln-01_regression.rs"], ["home", "work", "out", "test_all_regressions.rs"]] ∧
      ¬ OutputsInside PyText.ascii PyChars.ascii (fun _ => none) "2025-01-01T00:00:00+00:00"
        fallbackTemplate (fun _ _ _ => "") (fun _ => "") ["home", "work"] data "out" "out" := by
  refine ⟨rfl, rfl, rfl, rfl, ?_⟩
  intro h
  obtain ⟨-, hregression⟩ := h freeDisk
  have hfirst := hregression ((pathOf "out").join (pathOf "test_x/../../../vuln-01_regression.rs"), "")
    (List.mem_of_mem_head? rfl)
  exact absurd hfirst (by unfold Inside; decide)

end Samples

end SolanaAuditor.Suggestions
