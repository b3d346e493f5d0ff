/- SolanaAuditor/Fingerprint/PatternVerdict
   digest: When the words that check_vulnerability_patterns matches stand for whole rules. -/

import SolanaAuditor.Fingerprint.InstructionNames
import SolanaAuditor.Fingerprint.VulnerabilityPatterns
import SolanaAuditor.Lib.Lists

set_option autoImplicit false
set_option relaxedAutoImplicit false

namespace SolanaAuditor.Fingerprint

open SolanaAuditor.Lib SolanaAuditor.Lib.Lists
open SolanaAuditor.History (echoArg)

section Defs

/-- The vulnerabilities of a protocol; none, where the database has no such field. -/
def VulnsOf (tools : Tools) (protocol : String) (vulns : List Json) : Prop :=
  let field := (jqPath ["protocols", protocol, "vulnerabilities"] tools.vulnDb).1
  field = [.arr vulns] ∨ field = [] ∧ vulns = []

/-- What `jq` prints of the vulnerabilities and of findings, and reads again. -/
structure ReadsAgain (parse : List Char → Option Json) (render : Json → String)
    (vulns findings : List Json) : Prop where
  empty : parse "[]".toList = some (.arr [])
  list : parse (render (.arr vulns)).toList = some (.arr vulns)
  brackets : ∃ inner, (render (.arr vulns)).toList = '[' :: (inner ++ [']']) ∧ '\x00' ∉ inner
  braces : ∀ finding ∈ findings, '\x00' ∉ (render finding).toList ∧
    (render finding).toList.getLast? = some '\x7d'
  array : findings ≠ [] →
    parse ("[" ++ ",".intercalate (findings.map render) ++ "]").toList = some (.arr findings)

/-- The vulnerability has an id and a name. -/
def Named (tools : Tools) (vuln : Json) : Prop :=
  vulnField tools "id" vuln ≠ "" ∧ vulnField tools "vulnerability" vuln ≠ ""

instance (tools : Tools) (vuln : Json) : Decidable (Named tools vuln) := by
  unfold Named
  infer_instance

/-- A named vulnerability with a rule that matches as a whole, and the first such rule. -/
def expectedFinding (tools : Tools) (idlContent : String) (vuln : Json) : Option Json :=
  if Named tools vuln then
    ((detectionRules tools vuln).find? (ruleMatches tools idlContent)).map
      (patternFinding tools vuln)
  else none

/-- The text is one array, with the expected findings in order. -/
def ReportsPatterns (parse : List Char → Option Json) (tools : Tools) (idlContent : String)
    (vulns : List Json) (text : String) : Prop :=
  parse text.toList = some (.arr (vulns.filterMap (expectedFinding tools idlContent)))

/-- The first of the texts that matches. -/
def FirstMatching (tools : Tools) (idlContent : String) (rules : List String) (rule : String) :
    Prop :=
  ∃ before after, rules = before ++ rule :: after ∧ ruleMatches tools idlContent rule = true ∧
    ∀ other ∈ before, ruleMatches tools idlContent other = false

/-- No whole rule and no word of the rules matches, or the first word that matches is also the
first rule that matches. -/
def WordsAgree (glob : String → List String) (tools : Tools) (idlContent : String) (vuln : Json) :
    Prop :=
  (∀ rule ∈ ruleWords glob (joinedRules tools vuln) ++ detectionRules tools vuln,
    ruleMatches tools idlContent rule = false) ∨
  ∃ rule, FirstMatching tools idlContent (ruleWords glob (joinedRules tools vuln)) rule ∧
    FirstMatching tools idlContent (detectionRules tools vuln) rule

end Defs

section Rounds

variable {glob : String → List String} {tools : Tools} {idlContent : String} {vuln : Json}

theorem firstMatching_iff {rules : List String} {rule : String} :
    FirstMatching tools idlContent rules rule ↔
      rules.find? (ruleMatches tools idlContent) = some rule := by
  rw [List.find?_eq_some_iff_append]
  constructor
  · rintro ⟨before, after, rfl, hrule, hbefore⟩
    exact ⟨hrule, before, after, rfl, fun other hother => by rw [hbefore other hother]; rfl⟩
  · rintro ⟨hrule, before, after, rfl, hbefore⟩
    exact ⟨before, after, rfl, hrule, fun other hother => by simpa using hbefore other hother⟩

theorem wordsAgree_iff : WordsAgree glob tools idlContent vuln ↔
    (ruleWords glob (joinedRules tools vuln)).find? (ruleMatches tools idlContent) =
      (detectionRules tools vuln).find? (ruleMatches tools idlContent) := by
  have hnone : ∀ rules : List String, rules.find? (ruleMatches tools idlContent) = none ↔
      ∀ rule ∈ rules, ruleMatches tools idlContent rule = false := by
    intro rules
    simp
  unfold WordsAgree
  rw [List.forall_mem_append, ← hnone, ← hnone]
  simp only [firstMatching_iff]
  constructor
  · rintro (⟨hwords, hrules⟩ | ⟨rule, hwords, hrules⟩)
    · rw [hwords, hrules]
    · rw [hwords, hrules]
  · intro h
    rw [h, and_self]
    cases hrules : (detectionRules tools vuln).find? (ruleMatches tools idlContent) with
    | none => exact .inl rfl
    | some rule => exact .inr ⟨rule, rfl, rfl⟩

theorem ruleWords_empty : ruleWords glob "" = [] := by
  have htext : captured ((echoArg "").toList.map fun c => if c = '|' then '\n' else c) = [] := by
    decide
  rw [ruleWords, htext, shellWords, Words.words_nil, List.flatMap_nil]

theorem ruleWords_ne_empty (hglob : ∀ w, "" ∉ glob w) {rules word : String}
    (h : word ∈ ruleWords glob rules) : word ≠ "" := by
  obtain ⟨w, -, hword⟩ := List.mem_flatMap.mp h
  rintro rfl
  exact hglob _ hword

theorem vulnFinding_of_not_named (h : ¬ Named tools vuln) :
    vulnFinding glob tools idlContent vuln = none := by
  rw [vulnFinding, if_pos]
  rw [Named, not_and_or, not_not, not_not] at h
  exact h

/-- A round reports the first word that matches. -/
theorem vulnFinding_of_named (hglob : ∀ w, "" ∉ glob w) (h : Named tools vuln) :
    vulnFinding glob tools idlContent vuln =
      ((ruleWords glob (joinedRules tools vuln)).find? (ruleMatches tools idlContent)).map
        (patternFinding tools vuln) := by
  rw [vulnFinding, if_neg (not_or.mpr h)]
  by_cases hrules : joinedRules tools vuln = ""
  · rw [if_pos hrules, hrules, ruleWords_empty]
    rfl
  · rw [if_neg hrules]
    cases hfind : (ruleWords glob (joinedRules tools vuln)).find? (ruleMatches tools idlContent) with
    | none =>
      simp only [hfind, Option.getD_none, if_true, Option.map_none]
    | some word =>
      have hne := ruleWords_ne_empty hglob (List.mem_of_find?_eq_some hfind)
      simp only [hfind, Option.getD_some, if_neg hne, Option.map_some]

theorem patternFinding_inj {rule rule' : String}
    (h : patternFinding tools vuln rule = patternFinding tools vuln rule') : rule = rule' := by
  simpa only [patternFinding, Json.obj.injEq, List.cons.injEq, Prod.mk.injEq, Json.str.injEq,
    true_and, and_true] using h

/-- A round is right exactly where the words agree with the rules. -/
theorem vulnFinding_eq_iff (hglob : ∀ w, "" ∉ glob w) :
    vulnFinding glob tools idlContent vuln = expectedFinding tools idlContent vuln ↔
      (Named tools vuln → WordsAgree glob tools idlContent vuln) := by
  unfold expectedFinding
  split_ifs with hnamed
  · rw [vulnFinding_of_named hglob hnamed, wordsAgree_iff]
    constructor
    · exact fun h _ => Option.map_injective (fun _ _ => patternFinding_inj) h
    · exact fun h => by rw [h hnamed]
  · rw [vulnFinding_of_not_named hnamed]
    exact iff_of_true rfl fun h => absurd h hnamed

/-- What a round reports begins with the id. -/
theorem id_of_finding {finding : Json} (hglob : ∀ w, "" ∉ glob w)
    (h : vulnFinding glob tools idlContent vuln = some finding ∨
      expectedFinding tools idlContent vuln = some finding) :
    Named tools vuln ∧ finding.get? "id" = some (.str (vulnField tools "id" vuln)) := by
  by_cases hnamed : Named tools vuln
  · rw [vulnFinding_of_named hglob hnamed, expectedFinding, if_pos hnamed] at h
    rw [Option.map_eq_some_iff, Option.map_eq_some_iff] at h
    rcases h with ⟨rule, -, rfl⟩ | ⟨rule, -, rfl⟩
    · exact ⟨hnamed, rfl⟩
    · exact ⟨hnamed, rfl⟩
  · rw [vulnFinding_of_not_named hnamed, expectedFinding, if_neg hnamed] at h
    simp at h

end Rounds

section Text

variable {parse : List Char → Option Json} {glob : String → List String} {tools : Tools}
  {idlContent : String}

theorem vulnLoop_false {vulns : List Json} (findingsJson : String)
    (htext : ∀ finding ∈ vulns.filterMap (vulnFinding glob tools idlContent),
      String.ofList (captured (tools.render finding ++ "\n").toList) = tools.render finding) :
    vulnLoop glob tools idlContent vulns false findingsJson =
      ",".intercalate (findingsJson ::
        (vulns.filterMap (vulnFinding glob tools idlContent)).map tools.render) ++ "]" := by
  induction vulns generalizing findingsJson with
  | nil => simp [vulnLoop]
  | cons vuln vulns ih =>
    rw [vulnLoop]
    cases hround : vulnFinding glob tools idlContent vuln with
    | none =>
      rw [List.filterMap_cons_none hround] at htext ⊢
      exact ih findingsJson htext
    | some finding =>
      rw [List.filterMap_cons_some hround] at htext ⊢
      obtain ⟨hfirst, hrest⟩ := List.forall_mem_cons.mp htext
      dsimp only
      rw [hfirst, if_neg Bool.false_ne_true, ih _ hrest, List.map_cons,
        String.intercalate_cons_append, String.intercalate_cons_cons]

theorem vulnLoop_true {vulns : List Json} (findingsJson : String)
    (htext : ∀ finding ∈ vulns.filterMap (vulnFinding glob tools idlContent),
      String.ofList (captured (tools.render finding ++ "\n").toList) = tools.render finding) :
    vulnLoop glob tools idlContent vulns true findingsJson =
      let findings := vulns.filterMap (vulnFinding glob tools idlContent)
      if findings = [] then "[]" else "[" ++ ",".intercalate (findings.map tools.render) ++ "]" := by
  induction vulns generalizing findingsJson with
  | nil => rfl
  | cons vuln vulns ih =>
    rw [vulnLoop]
    cases hround : vulnFinding glob tools idlContent vuln with
    | none =>
      rw [List.filterMap_cons_none hround] at htext ⊢
      exact ih findingsJson htext
    | some finding =>
      rw [List.filterMap_cons_some hround] at htext ⊢
      obtain ⟨hfirst, hrest⟩ := List.forall_mem_cons.mp htext
      dsimp only
      rw [hfirst, if_pos rfl, vulnLoop_false _ hrest, if_neg (by simp), List.map_cons,
        String.intercalate_cons_append]

theorem jqGet_missing {query : Json → JqOutput} {default : String} {db : Json}
    (hquery : (query db).1 = []) (hnull : '\x00' ∉ default.toList)
    (hlast : default.toList.getLast? ≠ some '\n') (hoption : isEchoOption default = false) :
    jqGet tools query default db = default := by
  have hnothing : String.ofList (captured (rawText tools.render [])) = "" := rfl
  rw [jqGet, hquery, hnothing, if_pos rfl, captureEcho, echoArg_of_not hoption,
    String.toList_append]
  exact (congrArg String.ofList (captured_line hnull hlast)).trans String.ofList_toList

/-- The text that the loop builds is read as the array of the findings. -/
theorem parse_vulnLoop {vulns : List Json}
    (hjq : ReadsAgain parse tools.render vulns
      (vulns.filterMap (vulnFinding glob tools idlContent))) :
    parse (vulnLoop glob tools idlContent vulns true "[]").toList =
      some (.arr (vulns.filterMap (vulnFinding glob tools idlContent))) := by
  have htext : ∀ finding ∈ vulns.filterMap (vulnFinding glob tools idlContent),
      String.ofList (captured (tools.render finding ++ "\n").toList) = tools.render finding := by
    intro finding hfinding
    obtain ⟨hnull, hlast⟩ := hjq.braces finding hfinding
    rw [String.toList_append]
    exact (congrArg String.ofList (captured_line hnull (by simp [hlast]))).trans
      String.ofList_toList
  rw [vulnLoop_true _ htext]
  dsimp only
  split_ifs with hnone
  · rw [hnone]
    exact hjq.empty
  · exact hjq.array hnone

/-- The line that the check prints. -/
theorem check_eq {protocol : String} {vulns : List Json} (hvulns : VulnsOf tools protocol vulns)
    (hjq : ReadsAgain parse tools.render vulns
      (vulns.filterMap (vulnFinding glob tools idlContent))) :
    parse (checkVulnerabilityPatterns parse glob tools protocol idlContent).toList =
      some (.arr (vulns.filterMap (vulnFinding glob tools idlContent))) := by
  unfold checkVulnerabilityPatterns
  rcases hvulns with hlist | ⟨hmissing, rfl⟩
  · obtain ⟨inner, hinner, hnull⟩ := hjq.brackets
    have htext : jqGet tools (jqPath ["protocols", protocol, "vulnerabilities"]) "[]"
        tools.vulnDb = tools.render (.arr vulns) := by
      refine jqGet_text hlist (by simp) ?_ ?_ ?_
      · simpa [hinner] using hnull
      · rw [hinner, ← List.cons_append, List.getLast?_concat]
      · rw [isEchoOption, hinner]
        rfl
    rw [htext]
    dsimp only
    split_ifs with hplain
    · -- the text of the list is that of the empty one
      have hempty : tools.render (.arr vulns) = "[]" := by
        rcases hplain with heq | heq | heq
        · simp [heq] at hinner
        · exact heq
        · simp [heq] at hinner
      have hlist := hjq.list
      rw [hempty, hjq.empty] at hlist
      obtain rfl : [] = vulns := Json.arr.inj (Option.some.inj hlist)
      exact hjq.empty
    · rw [hjq.list]
      exact parse_vulnLoop hjq
  · rw [jqGet_missing hmissing (by decide) (by decide) (by decide)]
    exact hjq.empty

end Text

section Plain

variable {glob : String → List String} {tools : Tools} {idlContent : String}

/-- A rule that is one word for the shell. -/
structure PlainRule (glob : String → List String) (rule : String) : Prop where
  nonempty : rule ≠ ""
  chars : ∀ c ∈ rule.toList, isIfs c = false ∧ c ≠ '|' ∧ c ≠ '\x00'
  noPattern : glob rule = [rule]

theorem chars_joined {rules : List String} (hplain : ∀ rule ∈ rules, PlainRule glob rule) :
    ∀ c ∈ ("|".intercalate rules).toList, c ≠ '\n' ∧ c ≠ '\x00' := by
  have hifs : isIfs '\n' = true := by decide
  induction rules with
  | nil => simp
  | cons rule rules ih =>
    obtain ⟨hrule, hrules⟩ := List.forall_mem_cons.mp hplain
    have hfirst : ∀ c ∈ rule.toList, c ≠ '\n' ∧ c ≠ '\x00' := by
      intro c hc
      obtain ⟨hblank, -, hnull⟩ := hrule.chars c hc
      exact ⟨fun heq => by simp [heq, hifs] at hblank, hnull⟩
    by_cases hnil : rules = []
    · rw [hnil, String.intercalate_singleton]
      exact hfirst
    · rw [String.intercalate_cons_of_ne_nil hnil, String.toList_append, String.toList_append,
        List.forall_mem_append, List.forall_mem_append]
      exact ⟨⟨hfirst, by simp⟩, ih hrules⟩

/-- The lines of the rules after `tr`. -/
theorem translated_rules {rules : List String} (hne : rules ≠ [])
    (hplain : ∀ rule ∈ rules, PlainRule glob rule) :
    (("|".intercalate rules ++ "\n").toList.map fun c => if c = '|' then '\n' else c) =
      (rules.map String.toList).flatMap fun rule => rule ++ ['\n'] := by
  induction rules with
  | nil => contradiction
  | cons rule rules ih =>
    obtain ⟨hrule, hrules⟩ := List.forall_mem_cons.mp hplain
    have hsame : rule.toList.map (fun c => if c = '|' then '\n' else c) = rule.toList := by
      refine (List.map_congr_left fun c hc => ?_).trans (List.map_id _)
      exact if_neg (hrule.chars c hc).2.1
    by_cases hnil : rules = []
    · rw [hnil, String.intercalate_singleton, String.toList_append, List.map_append, hsame]
      simp
    · rw [String.intercalate_cons_of_ne_nil hnil, String.append_assoc, String.append_assoc,
        String.toList_append, List.map_append, hsame, String.toList_append, List.map_append,
        ih hnil hrules]
      simp

/-- Rules that are words of their own stay whole. -/
theorem ruleWords_plain {rules : List String} (hne : rules ≠ [])
    (hplain : ∀ rule ∈ rules, PlainRule glob rule)
    (hoption : isEchoOption ("|".intercalate rules) = false) :
    ruleWords glob ("|".intercalate rules) = rules := by
  have hend : ∀ c, decide (c = '\n') = true → c = '\n' := fun c => of_decide_eq_true
  have hwords : ((rules.map String.toList).flatMap (Words.words isIfs)) =
      rules.map String.toList := by
    rw [List.flatMap_map]
    clear hoption hne
    induction rules with
    | nil => rfl
    | cons rule rules ih =>
      obtain ⟨hrule, hrules⟩ := List.forall_mem_cons.mp hplain
      have hlist : rule.toList ≠ [] := fun heq => hrule.nonempty (String.toList_eq_nil_iff.mp heq)
      rw [List.flatMap_cons, Words.words_single hlist fun c hc => (hrule.chars c hc).1, ih hrules]
      rfl
  have hnull : '\x00' ∉ (rules.map String.toList).flatMap fun rule => rule ++ ['\n'] := by
    intro hmem
    obtain ⟨l, hl, hmem⟩ := List.mem_flatMap.mp hmem
    obtain ⟨rule, hrule, rfl⟩ := List.mem_map.mp hl
    rcases List.mem_append.mp hmem with hmem | hmem
    · exact ((hplain rule hrule).chars _ hmem).2.2 rfl
    · exact absurd hmem (by decide)
  rw [ruleWords, echoArg_of_not hoption, translated_rules hne hplain, shellWords, captured,
    withoutNull_of_notMem hnull, Words.words_rdropWhile hend (by decide),
    Words.words_flatMap_lines (by decide), hwords,
    List.flatMap_map]
  have hglob : ∀ rule ∈ rules, glob (String.ofList rule.toList) = [rule] := by
    intro rule hrule
    rw [String.ofList_toList, (hplain rule hrule).noPattern]
  rw [List.flatMap_congr hglob]
  simp

/-- With such rules only, the words agree with the rules. -/
theorem wordsAgree_of_plain {vuln : Json}
    (hplain : ∀ rule ∈ detectionRules tools vuln, PlainRule glob rule)
    (hoption : isEchoOption ("|".intercalate (detectionRules tools vuln)) = false) :
    WordsAgree glob tools idlContent vuln := by
  have hchars := chars_joined hplain
  have hjoined : joinedRules tools vuln = "|".intercalate (detectionRules tools vuln) := by
    rw [joinedRules, String.toList_append]
    refine (congrArg String.ofList (captured_line ?_ fun hlast => ?_)).trans String.ofList_toList
    · exact fun hmem => (hchars _ hmem).2 rfl
    · exact (hchars _ (List.mem_of_getLast? hlast)).1 rfl
  rw [wordsAgree_iff, hjoined]
  by_cases hnone : detectionRules tools vuln = []
  · rw [hnone, String.intercalate_nil, ruleWords_empty]
  · rw [ruleWords_plain hnone hplain hoption]

end Plain

/-- The findings are the expected ones where the words of every named vulnerability agree with its
rules; and, where no two of them share an id, only there. -/
theorem patterns_reported (parse : List Char → Option Json) (glob : String → List String)
    (tools : Tools) (protocol idlContent : String) (vulns : List Json)
    (hvulns : VulnsOf tools protocol vulns) (hglob : ∀ w, "" ∉ glob w)
    (hjq : ReadsAgain parse tools.render vulns
      (vulns.filterMap (vulnFinding glob tools idlContent))) :
    let text := checkVulnerabilityPatterns parse glob tools protocol idlContent
    ((∀ vuln ∈ vulns, Named tools vuln → WordsAgree glob tools idlContent vuln) →
      ReportsPatterns parse tools idlContent vulns text) ∧
    (vulns.Pairwise (fun vuln vuln' => Named tools vuln → Named tools vuln' →
        vulnField tools "id" vuln ≠ vulnField tools "id" vuln') →
      (ReportsPatterns parse tools idlContent vulns text ↔
        ∀ vuln ∈ vulns, Named tools vuln → WordsAgree glob tools idlContent vuln)) := by
  have hreports : ReportsPatterns parse tools idlContent vulns
      (checkVulnerabilityPatterns parse glob tools protocol idlContent) ↔
      vulns.filterMap (vulnFinding glob tools idlContent) =
        vulns.filterMap (expectedFinding tools idlContent) := by
    rw [ReportsPatterns, check_eq hvulns hjq, Option.some.injEq, Json.arr.injEq]
  have hagree : (∀ vuln ∈ vulns, Named tools vuln → WordsAgree glob tools idlContent vuln) →
      ReportsPatterns parse tools idlContent vulns
        (checkVulnerabilityPatterns parse glob tools protocol idlContent) := by
    intro h
    rw [hreports]
    exact List.filterMap_congr fun vuln hvuln => (vulnFinding_eq_iff hglob).mpr (h vuln hvuln)
  refine ⟨hagree, fun hids => ⟨fun h => ?_, hagree⟩⟩
  rw [hreports] at h
  have hapart : vulns.Pairwise fun vuln vuln' => ∀ finding,
      (vulnFinding glob tools idlContent vuln = some finding ∨
        expectedFinding tools idlContent vuln = some finding) →
      vulnFinding glob tools idlContent vuln' ≠ some finding ∧
        expectedFinding tools idlContent vuln' ≠ some finding := by
    refine hids.imp fun {vuln vuln'} hne finding hfinding => ?_
    obtain ⟨hnamed, hid⟩ := id_of_finding hglob hfinding
    rw [← not_or]
    intro hfinding'
    obtain ⟨hnamed', hid'⟩ := id_of_finding hglob hfinding'
    exact hne hnamed hnamed' (Json.str.inj (Option.some.inj (hid.symm.trans hid')))
  exact fun vuln hvuln =>
    (vulnFinding_eq_iff hglob).mp (eq_of_filterMap_eq hapart h vuln hvuln)

section Samples

mutual

/-- The layout of `jq`, for values without numbers. -/
def prettyText (indent : Nat) : Json → List Char
  | .arr [] => "[]".toList
  | .arr (v :: items) =>
      '[' :: '\n' :: (prettyItems (indent + 2) (v :: items) ++ List.replicate indent ' ' ++ [']'])
  | .obj [] => "\x7b\x7d".toList
  | .obj (e :: entries) =>
      '\x7b' :: '\n' :: (prettyEntries (indent + 2) (e :: entries) ++ List.replicate indent ' ' ++
        ['\x7d'])
  | v => (scalarText v).toList

def prettyItems (indent : Nat) : List Json → List Char
  | [] => []
  | [v] => List.replicate indent ' ' ++ prettyText indent v ++ ['\n']
  | v :: items => List.replicate indent ' ' ++ prettyText indent v ++ [',', '\n'] ++
      prettyItems indent items

def prettyEntries (indent : Nat) : List (String × Json) → List Char
  | [] => []
  | [(k, v)] => List.replicate indent ' ' ++ (scalarText (.str k)).toList ++ [':', ' '] ++
      prettyText indent v ++ ['\n']
  | (k, v) :: entries => List.replicate indent ' ' ++ (scalarText (.str k)).toList ++ [':', ' '] ++
      prettyText indent v ++ [',', '\n'] ++ prettyEntries indent entries

end

/-- One vulnerability with one rule. -/
def sampleVuln (rule : String) : Json :=
  .obj [("id", .str "RAY-001"), ("vulnerability", .str "missing_owner_check"),
    ("detection_rules", .arr [.str rule])]

def patternTools (rule : String) : Tools :=
  { emptyTools with
    vulnDb := .obj [("protocols", .obj [("raydium",
      .obj [("vulnerabilities", .arr [sampleVuln rule])])])]
    render := fun v => String.ofList (prettyText 0 v)
    grep := fun pattern text => decide (pattern.toList.map Char.toLower <:+:
      text.toList.map Char.toLower) }

def noFiles (word : String) : List String := if word = "" then [] else [word]

/-- A parser that knows these texts. -/
def readTexts (texts : List (List Char × Json)) (text : List Char) : Option Json :=
  (texts.find? fun entry => decide (entry.1 = text)).map Prod.snd

def sampleFinding (rule word : String) : Json :=
  patternFinding (patternTools rule) (sampleVuln rule) word

def sampleParse (rule word : String) : List Char → Option Json :=
  readTexts [("[]".toList, .arr []),
    (prettyText 0 (.arr [sampleVuln rule]), .arr [sampleVuln rule]),
    ('[' :: (prettyText 0 (sampleFinding rule word) ++ [']']), .arr [sampleFinding rule word])]

theorem noFiles_nonempty (w : String) : "" ∉ noFiles w := by
  unfold noFiles
  split_ifs with hw
  · simp
  · simpa [eq_comm] using hw

theorem readTexts_first (text : List Char) (v : Json) (texts : List (List Char × Json)) :
    readTexts ((text, v) :: texts) text = some v := by
  simp [readTexts]

theorem readTexts_later {text text' : List Char} (h : text' ≠ text) (v : Json)
    (texts : List (List Char × Json)) :
    readTexts ((text', v) :: texts) text = readTexts texts text := by
  simp [readTexts, h]

theorem sample_readsAgain (rule word : String)
    (hlist : '\x00' ∉ prettyItems 2 [sampleVuln rule])
    (hfinding : '\x00' ∉ prettyText 0 (sampleFinding rule word)) :
    ReadsAgain (sampleParse rule word) (patternTools rule).render [sampleVuln rule]
      [sampleFinding rule word] := by
  have hrender : ∀ v, ((patternTools rule).render v).toList = prettyText 0 v := fun v =>
    String.toList_ofList
  have hbrackets : prettyText 0 (.arr [sampleVuln rule]) =
      '[' :: '\n' :: (prettyItems 2 [sampleVuln rule] ++ [']']) := by
    rw [prettyText]
    simp
  have hbraces : ∃ inner, prettyText 0 (sampleFinding rule word) =
      '\x7b' :: '\n' :: (inner ++ ['\x7d']) := by
    rw [sampleFinding, patternFinding, prettyText, List.replicate_zero, List.append_nil]
    exact ⟨_, rfl⟩
  obtain ⟨inner, hinner⟩ := hbraces
  constructor
  · exact readTexts_first _ _ _
  · rw [hrender, sampleParse, readTexts_later (by simp [hbrackets]), readTexts_first]
  · refine ⟨'\n' :: prettyItems 2 [sampleVuln rule], ?_, by simp [hlist]⟩
    rw [hrender, hbrackets]
    rfl
  · intro finding hmem
    rw [List.mem_singleton.mp hmem, hrender]
    refine ⟨hfinding, ?_⟩
    rw [hinner, ← List.cons_append, ← List.cons_append, List.getLast?_concat]
  · intro _
    have htext : ("[" ++ ",".intercalate ([sampleFinding rule word].map (patternTools rule).render) ++
        "]").toList = '[' :: (prettyText 0 (sampleFinding rule word) ++ [']']) := by
      simp [hrender]
    rw [htext, sampleParse, readTexts_later (by simp [hinner]),
      readTexts_later (by simp [hbrackets, hinner]), readTexts_first]

theorem sample_found {rule word idlContent : String}
    (hwords : (ruleWords noFiles (joinedRules (patternTools rule) (sampleVuln rule))).find?
      (ruleMatches (patternTools rule) idlContent) = some word)
    (hnamed : Named (patternTools rule) (sampleVuln rule)) :
    [sampleVuln rule].filterMap (vulnFinding noFiles (patternTools rule) idlContent) =
      [sampleFinding rule word] := by
  have hround : vulnFinding noFiles (patternTools rule) idlContent (sampleVuln rule) =
      some (sampleFinding rule word) := by
    rw [vulnFinding_of_named noFiles_nonempty hnamed, hwords]
    rfl
  rw [List.filterMap_cons_some hround, List.filterMap_nil]

end Samples

theorem patterns_reported_word : ReportsPatterns (sampleParse "create_pool" "create_pool")
    (patternTools "create_pool") "create_pool" [sampleVuln "create_pool"]
    (checkVulnerabilityPatterns (sampleParse "create_pool" "create_pool") noFiles
      (patternTools "create_pool") "raydium" "create_pool") := by
  have hnamed : Named (patternTools "create_pool") (sampleVuln "create_pool") := by decide
  have hfound : [sampleVuln "create_pool"].filterMap
      (vulnFinding noFiles (patternTools "create_pool") "create_pool") =
        [sampleFinding "create_pool" "create_pool"] := sample_found (by decide) hnamed
  refine (patterns_reported (sampleParse "create_pool" "create_pool") noFiles
    (patternTools "create_pool") "raydium" "create_pool" [sampleVuln "create_pool"] (.inl rfl)
    noFiles_nonempty ?_).1 ?_
  · rw [hfound]
    exact sample_readsAgain _ _ (by decide) (by decide)
  · intro vuln hvuln _
    rw [List.mem_singleton.mp hvuln]
    have hrules : detectionRules (patternTools "create_pool") (sampleVuln "create_pool") =
        ["create_pool"] := rfl
    refine wordsAgree_of_plain ?_ (by decide)
    have hchars : "create_pool".toList.all
        (fun c => !isIfs c && (c != '|' && c != '\x00')) = true := by decide
    rw [hrules, List.forall_mem_singleton]
    exact ⟨by decide, fun c hc => by simpa using List.all_eq_true.mp hchars c hc, by decide⟩

/-- The last word of a rule matches, the rule does not. -/
theorem word_reported :
    let rule := "missing: has_authority check"
    VulnsOf (patternTools rule) "raydium" [sampleVuln rule] ∧
    ReadsAgain (sampleParse rule "check") (patternTools rule).render [sampleVuln rule]
      ([sampleVuln rule].filterMap (vulnFinding noFiles (patternTools rule) "check_balance")) ∧
    ¬ ReportsPatterns (sampleParse rule "check") (patternTools rule) "check_balance"
      [sampleVuln rule] (checkVulnerabilityPatterns (sampleParse rule "check") noFiles
        (patternTools rule) "raydium" "check_balance") := by
  intro rule
  have hvulns : VulnsOf (patternTools rule) "raydium" [sampleVuln rule] := .inl rfl
  have hnamed : Named (patternTools rule) (sampleVuln rule) := by decide
  have hfound : [sampleVuln rule].filterMap
      (vulnFinding noFiles (patternTools rule) "check_balance") = [sampleFinding rule "check"] :=
    sample_found (by decide) hnamed
  have hreads : ReadsAgain (sampleParse rule "check") (patternTools rule).render [sampleVuln rule]
      ([sampleVuln rule].filterMap (vulnFinding noFiles (patternTools rule) "check_balance")) := by
    rw [hfound]
    exact sample_readsAgain _ _ (by decide) (by decide)
  have hnone : (detectionRules (patternTools rule) (sampleVuln rule)).find?
      (ruleMatches (patternTools rule) "check_balance") = none := by decide
  refine ⟨hvulns, hreads, fun h => ?_⟩
  rw [ReportsPatterns, check_eq hvulns hreads, hfound] at h
  have hexpected : [sampleVuln rule].filterMap
      (expectedFinding (patternTools rule) "check_balance") = [] := by
    rw [List.filterMap_cons_none, List.filterMap_nil]
    rw [expectedFinding, if_pos hnamed, hnone]
    rfl
  rw [hexpected] at h
  exact List.cons_ne_nil _ _ (Json.arr.inj (Option.some.inj h))

end SolanaAuditor.Fingerprint
