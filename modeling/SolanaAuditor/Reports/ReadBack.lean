/- SolanaAuditor/Reports/ReadBack
   digest: What the report checks read of a rendered report. -/

import SolanaAuditor.Reports.ReportReaders

set_option autoImplicit false
set_option relaxedAutoImplicit false

namespace SolanaAuditor.Reports.ReportCheck

open SolanaAuditor.Lib SolanaAuditor.Lib.Regex SolanaAuditor.Reports.AuditReport

section Given

/-! The texts that a report takes from its file and shows, in their order. -/

variable (text : PyText)

def headerTexts (summary : PyDict) (generated : String) : List String := [
  text.format (field summary "program_name" (.str "Unknown Program")),
  text.format (field summary "repo" (.str "N/A")),
  text.format (field summary "audit_date" (.str "N/A")),
  text.format (field summary "skill_version" (.str "N/A")),
  generated]

/-- The text of a value that is shown only where it is true, and those after it. -/
def givenIf (v : Json) (rest : List String) : List String :=
  if truthy v then text.format v :: rest else rest

/-- The texts of the `i`-th finding, but for its severity, and those after it. -/
def findingTexts (i : Nat) (f : PyDict) (rest : List String) : List String :=
  let locField := fun key default => ((field f "location" (.obj [])).get? key).getD default
  text.format (field f "id" (.str (defaultId i))) ::
  text.format (field f "title" (.str "Untitled")) ::
  text.format (f.get "cvss") ::
  text.format (field f "cvss_vector" (.str "")) ::
  givenIf text (field f "cwe" (.str "")) (
  text.format (locField "file" (.str "N/A")) ::
  givenIf text (locField "line" .null) (
  givenIf text (locField "function" (.str "")) (
  givenIf text (f.get "poc_path") (
  text.format (field f "description" (.str "No description provided.")) ::
  text.format (field f "impact" (.str "Impact not assessed.")) ::
  text.format (field f "recommendation" (.str "No recommendation provided.")) :: rest))))

def allFindingTexts : Nat → List PyDict → List String → List String
  | _, [], rest => rest
  | i, f :: findings, rest => findingTexts text i f (allFindingTexts (i + 1) findings rest)

def scopeTexts (scope : Json) : List String :=
  match items scope with
  | .ok items => items.map text.format
  | .error _ => []

def summaryFields (raw : PyDict) : PyDict :=
  match summaryOf raw with
  | .ok summary => summary
  | .error _ => []

def givenTexts (generated : String) (raw : PyDict) (findings : List PyDict) : List String :=
  headerTexts text (summaryFields raw) generated ++ allFindingTexts text 1 findings
    (scopeTexts text (field raw "out_of_scope" (.arr [])) ++
      [text.format (field (summaryFields raw) "skill_version" (.str "N/A"))])

end Given

section Framed

def flat (parts : List Part) : List Char := parts.flatMap fun part => part.text.toList

theorem flat_append (parts parts' : List Part) : flat (parts ++ parts') = flat parts ++ flat parts' :=
  List.flatMap_append

theorem flat_lit (s : String) : flat [.lit s] = s.toList := List.append_nil _

theorem flat_split (a b : String) (parts : List Part) :
    flat (.lit (a ++ b) :: parts) = flat (.lit a :: .lit b :: parts) := by
  show (a ++ b).toList ++ flat parts = a.toList ++ (b.toList ++ flat parts)
  rw [String.toList_append, List.append_assoc]

/-- The letters of parts. A literal text is spelled by unfolding it, which is faster than to
decode it. -/
inductive Spells : List Part → List Char → Prop
  | nil : Spells [] []
  | lit {l w : List Char} {parts : List Part} :
      Spells parts w → Spells (.lit (String.ofList l) :: parts) (l ++ w)
  | val {l w : List Char} {parts : List Part} :
      Spells parts w → Spells (.val (String.ofList l) :: parts) (l ++ w)
  | split {a b : String} {w : List Char} {parts : List Part} :
      Spells (.lit a :: .lit b :: parts) w → Spells (.lit (a ++ b) :: parts) w

theorem Spells.flat_eq {parts : List Part} {w : List Char} (h : Spells parts w) :
    flat parts = w := by
  induction h with
  | nil => rfl
  | @lit l w parts _ ih =>
    show (String.ofList l).toList ++ flat parts = l ++ w
    rw [String.toList_ofList, ih]
  | @val l w parts _ ih =>
    show (String.ofList l).toList ++ flat parts = l ++ w
    rw [String.toList_ofList, ih]
  | @split a b w parts _ ih =>
    rw [← ih, flat_split]

/-- Of these parts a pattern finds what stands in the given texts, and nothing across them. -/
def Framed (re : Pattern Char) (parts : List Part) (given : List String) : Prop :=
  ∀ u t, read re (u ++ (flat parts ++ t)) =
    (read re u).or ((given.findSome? fun v => read re v.toList).or (read re t))

/-- A text without the ends of matches. -/
def padText (s : List Char) : Bool := s.all fun c => c != '|' && c != '*' && c != '\r'

variable {chars : PyChars} {re : Pattern Char} {parts fixed lead before after : List Part}
  {given : List String} {w w' w'' : List Char}

theorem framed_of_wall (h : Wall re (flat fixed)) : Framed re fixed [] := by
  intro u t
  rw [h u t]
  rfl

theorem Framed.wall (h : Framed re parts given) (hfixed : Wall re (flat fixed)) :
    Framed re (fixed ++ parts) given := by
  intro u t
  have hnil : read re [] = none := rfl
  have hrest := h [] t
  rw [List.nil_append, hnil, Option.none_or] at hrest
  rw [flat_append, List.append_assoc, hfixed, hrest]

/-- Fixed parts and a value after them. -/
def shownAfter (fixed : List Part) (v : String) (parts : List Part) : List Part :=
  fixed ++ .val v :: parts

/-- A value that is shown only where it is true. -/
def shownIf (text : PyText) (before : List Part) (v : Json) (after parts : List Part) :
    List Part :=
  if truthy v then shownAfter before (text.format v) (after ++ parts) else parts

theorem shownIf_eq (text : PyText) (v : Json) :
    shownIf text before v after parts =
      (if truthy v then before ++ .val (text.format v) :: after else []) ++ parts := by
  unfold shownIf
  cases truthy v <;> simp [shownAfter]

theorem Framed.value (h : Framed re parts given) (v : String) (hfixed : Wall re (flat fixed)) :
    Framed re (shownAfter fixed v parts) (v :: given) := by
  intro u t
  have hflat : flat (shownAfter fixed v parts) = flat fixed ++ (v.toList ++ flat parts) := by
    rw [shownAfter, flat_append]
    rfl
  rw [hflat, List.append_assoc, List.append_assoc, hfixed, h v.toList t, List.findSome?_cons]
  cases read re v.toList <;> rfl

theorem Reader.not_mayEnd (h : Reader chars re) {c : Char} (hbar : c ≠ '|') (hstar : c ≠ '*') :
    re.mayEnd c = false := by
  cases h with
  | mark => exact beq_false_of_ne hstar
  | row => exact beq_false_of_ne hbar

theorem Reader.read_pad (hre : Reader chars re) (hw : padText w = true) (u : List Char) :
    read re (u ++ w) = read re u := by
  induction w generalizing u with
  | nil => rw [List.append_nil]
  | cons c w ih =>
    simp only [padText, List.all_cons, Bool.and_eq_true, bne_iff_ne] at hw
    obtain ⟨⟨⟨hbar, hstar⟩, hcr⟩, hrest⟩ := hw
    have hsplit : u ++ c :: w = (u ++ [c]) ++ w := by simp
    rw [hsplit, ih (by simpa [padText] using hrest), read_snoc hcr (hre.not_mayEnd hbar hstar)]

theorem Framed.pad (h : Framed re parts given) (hre : Reader chars re) (hspells : Spells fixed w)
    (hpad : padText w = true) : Framed re (fixed ++ parts) given := by
  intro u t
  rw [flat_append, List.append_assoc, ← List.append_assoc, h (u ++ flat fixed) t, hspells.flat_eq,
    hre.read_pad hpad]

theorem Reader.wall_of_spells (hre : Reader chars re) (hchars : AsciiChars chars)
    (hspells : Spells fixed w) (h : wallText w = true) : Wall re (flat fixed) := by
  rw [hspells.flat_eq]
  exact hre.wall hchars h

theorem Framed.optional (h : Framed re parts given) (hre : Reader chars re) (text : PyText)
    (v : Json) (hwall : Wall re (flat (lead ++ before))) (hlead : Spells lead w)
    (hleadPad : padText w = true) (hafter : Spells after w') (hafterPad : padText w' = true) :
    Framed re (lead ++ shownIf text before v after parts) (givenIf text v given) := by
  unfold shownIf givenIf
  cases truthy v with
  | false => exact h.pad hre hlead hleadPad
  | true =>
    have hvalue := (h.pad hre hafter hafterPad).value (text.format v) hwall
    simpa [shownAfter] using hvalue

end Framed

section Lines

/-- The parts of lines with a line end after each. -/
def spread (lines : List Line) : List Part := lines.flatMap (· ++ [.lit "\n"])

theorem fileParts_append (line : Line) (lines : List Line) :
    fileParts (line :: lines) ++ [.lit "\n"] = spread (line :: lines) := by
  unfold fileParts spread
  induction lines generalizing line with
  | nil => simp [List.intercalate]
  | cons line' lines ih =>
    have h := ih line'
    simp only [List.intercalate, List.intersperse_cons_cons, List.flatten_cons,
      List.flatMap_cons] at h ⊢
    simp only [List.append_assoc, h]

theorem spread_append (lines lines' : List Line) :
    spread (lines ++ lines') = spread lines ++ spread lines' :=
  List.flatMap_append

theorem spread_cons (line : Line) (lines : List Line) :
    spread (line :: lines) = line ++ .lit "\n" :: spread lines := by
  simp [spread]

theorem spread_nil : spread [] = [] := rfl

theorem spread_optional (b : Bool) (line : Line) :
    spread (if b = true then [line] else []) = if b = true then line ++ [.lit "\n"] else [] := by
  cases b <;> simp [spread]

end Lines

section Findings

variable {text : PyText} {chars : PyChars} {re : Pattern Char} {parts : List Part}
  {given : List String}

/-- What the report is promised of a finding. -/
structure Reportable (f : PyDict) : Prop where
  id : ∃ s, Dict.get? f "id" = some (.str s)
  severity : ∃ p ∈ levels, Dict.get? f "severity" = some (.str p.2)
  cvss : ∃ v, Dict.get? f "cvss" = some v ∧ isNumber v = true
  vector : ∃ s, Dict.get? f "cvss_vector" = some (.str s) ∧
    Cvss.hasPrefix s = true

/-- A level has a badge of its own. -/
theorem severityBadge_level (hcase : LevelCasing text) {s : String} (hs : s ∈ severityLevels) :
    severityBadge text s = .lit ((Dict.get? icons s).getD "") := by
  have hpair : ∃ p ∈ levels, p.2 = s := by
    revert s
    decide
  obtain ⟨p, hp, rfl⟩ := hpair
  have hicon : ∀ q ∈ levels, (Dict.get? icons q.2).isSome = true := by decide
  obtain ⟨icon, hicon⟩ := Option.isSome_iff_exists.mp (hicon p hp)
  rw [severityBadge, hcase.upperLevel p hp, hicon]
  rfl

/-- The text between the title and the score. -/
def badgeParts (level : String) : List Part := [
  .lit " ", .lit ((Dict.get? icons level).getD ""), .lit "\n", .lit "\n",
  .lit "- **Severity:** ", .val level, .lit "\n", .lit "  | **CVSS:** "]

/-- The parts of a finding and the rest of a report, cut at the values. -/
def findingParts (text : PyText) (i : Nat) (f : PyDict) (level : String) (rest : List Part) :
    List Part :=
  let locField := fun key default => ((field f "location" (.obj [])).get? key).getD default
  let value := fun fixed v parts => shownAfter fixed (text.format v) parts
  let ending := value [.lit "\n", .lit "\n", .lit "**Description:** "]
    (field f "description" (.str "No description provided.")) <|
    value [.lit "\n", .lit "\n", .lit "\n**Impact:** "]
    (field f "impact" (.str "Impact not assessed.")) <|
    value [.lit "\n", .lit "\n", .lit "\n**Recommendation:** "]
    (field f "recommendation" (.str "No recommendation provided.")) <|
    [.lit "\n", .lit "\n", .lit "\n---\n\n", .lit "\n"] ++ rest
  let placing := value [.lit "- **Location:** `"] (locField "file" (.str "N/A")) <|
    [.lit "`"] ++ (shownIf text [.lit ":"] (locField "line" .null) [] <|
    shownIf text [.lit " in `"] (locField "function" (.str "")) [.lit "`"] <|
    [.lit "\n"] ++ (shownIf text [.lit "- **PoC:** `examples/"] (f.get "poc_path")
      [.lit "`", .lit "\n"] ending))
  value [.lit "### "] (field f "id" (.str (defaultId i))) <|
  value [.lit ": "] (field f "title" (.str "Untitled")) <|
  value (badgeParts level) (f.get "cvss") <|
  value [.lit " ("] (field f "cvss_vector" (.str "")) <|
  [.lit ")", .lit "\n"] ++ shownIf text [.lit "  | **CWE:** "] (field f "cwe" (.str ""))
    [.lit "\n"] placing

theorem spread_findingLines (hcase : LevelCasing text) {f : PyDict} (hf : Reportable f) {i : Nat}
    {lines : List Line} (h : findingLines text i f = .ok lines) :
    ∃ p ∈ levels, ∀ rest, spread lines ++ rest = findingParts text i f p.2 rest := by
  obtain ⟨p, hp, hseverity⟩ := hf.severity
  obtain ⟨v, hv, hnumber⟩ := hf.cvss
  obtain ⟨vec, hvec, hprefix⟩ := hf.vector
  refine ⟨p, hp, fun rest => ?_⟩
  have hsev : field f "severity" (.str "INFO") = .str p.2 := by simp [field, hseverity]
  have hscore : f.get "cvss" = v := by simp [PyDict.get, hv]
  have hvector : field f "cvss_vector" (.str "") = .str vec := by simp [field, hvec]
  have hlevel : text.format (.str p.2) = p.2 := rfl
  have htrue : truthy (.str vec) = true := by
    rw [truthy, bne_iff_ne]
    rintro rfl
    simp [Cvss.hasPrefix, Cvss.cvssPrefix] at hprefix
  have hlevels : ∀ q ∈ levels, q.2 ∈ severityLevels := by decide
  have hbadge := severityBadge_level hcase (hlevels p hp)
  unfold findingLines at h
  simp only [hsev, pure_bind, Py.bind_eq_ok] at h
  obtain ⟨file, hfile, line, hline, fn, hfn, hlines⟩ := h
  obtain ⟨entries, hloc⟩ := (pyGet_returns _ _).mp ⟨file, hfile⟩
  rw [hloc] at hfile hline hfn
  obtain rfl := Except.ok.inj hfile
  obtain rfl := Except.ok.inj hline
  obtain rfl := Except.ok.inj hfn
  obtain rfl := Except.ok.inj hlines
  simp only [hscore, hvector, htrue, if_true, hbadge]
  unfold findingParts
  rw [hloc]
  cases v with
  | null | str | arr | obj => simp [isNumber] at hnumber
  | bool | int | float =>
    simp [spread_append, spread_cons, spread_nil, spread_optional, hscore, hvector, badgeParts,
      Json.get?, shown, hlevel, shownIf_eq, shownAfter]

theorem wall_badgeParts (hre : Reader chars re) (hchars : AsciiChars chars)
    {p : String × String} (hp : p ∈ levels) : Wall re (flat (badgeParts p.2)) := by
  have hlevels : ∀ q ∈ levels, q.2 ∈ severityLevels := by decide
  have hlevel := hlevels p hp
  simp only [severityLevels, List.mem_cons, List.not_mem_nil, or_false] at hlevel
  rcases hlevel with h | h | h | h | h <;> rw [h]
  all_goals
    exact hre.wall_of_spells hchars
      (.lit (.lit (.lit (.lit (.lit (.val (.lit (.lit .nil)))))))) (by decide +kernel)

theorem framed_findingParts (hre : Reader chars re) (hchars : AsciiChars chars) (i : Nat)
    (f : PyDict) {p : String × String} (hp : p ∈ levels) (h : Framed re parts given) :
    Framed re (findingParts text i f p.2 parts) (findingTexts text i f given) := by
  have hend : Framed re ([.lit "\n", .lit "\n", .lit "\n---\n\n", .lit "\n"] ++ parts) given :=
    h.pad hre (.lit (.lit (.lit (.lit .nil)))) (by decide)
  have hrec : Framed re (shownAfter [.lit "\n", .lit "\n", .lit "\n**Recommendation:** "] _ _) _ :=
    hend.value (text.format (field f "recommendation" (.str "No recommendation provided.")))
      (hre.wall_of_spells hchars (.lit (.lit (.lit .nil))) (by decide))
  have himpact : Framed re (shownAfter [.lit "\n", .lit "\n", .lit "\n**Impact:** "] _ _) _ :=
    hrec.value (text.format (field f "impact" (.str "Impact not assessed.")))
      (hre.wall_of_spells hchars (.lit (.lit (.lit .nil))) (by decide))
  have hdesc : Framed re (shownAfter [.lit "\n", .lit "\n", .lit "**Description:** "] _ _) _ :=
    himpact.value (text.format (field f "description" (.str "No description provided.")))
      (hre.wall_of_spells hchars (.lit (.lit (.lit .nil))) (by decide))
  have hpoc : Framed re ([.lit "\n"] ++ shownIf text [.lit "- **PoC:** `examples/"] _
      [.lit "`", .lit "\n"] _) _ :=
    hdesc.optional hre text (f.get "poc_path")
      (hre.wall_of_spells hchars (.lit (.lit .nil)) (by decide)) (.lit .nil) (by decide)
      (.lit (.lit .nil)) (by decide)
  have hfn : Framed re (shownIf text [.lit " in `"] _ [.lit "`"] _) _ :=
    hpoc.optional hre text (((field f "location" (.obj [])).get? "function").getD (.str ""))
      (hre.wall_of_spells hchars (.lit .nil) (by decide)) .nil (by decide) (.lit .nil) (by decide)
  have hline : Framed re ([.lit "`"] ++ shownIf text [.lit ":"] _ [] _) _ :=
    hfn.optional hre text (((field f "location" (.obj [])).get? "line").getD .null)
      (hre.wall_of_spells hchars (.lit (.lit .nil)) (by decide)) (.lit .nil) (by decide)
      .nil (by decide)
  have hfile : Framed re (shownAfter [.lit "- **Location:** `"] _ _) _ :=
    hline.value (text.format (((field f "location" (.obj [])).get? "file").getD (.str "N/A")))
      (hre.wall_of_spells hchars (.lit .nil) (by decide))
  have hcwe : Framed re ([.lit ")", .lit "\n"] ++ shownIf text [.lit "  | **CWE:** "] _
      [.lit "\n"] _) _ :=
    hfile.optional hre text (field f "cwe" (.str ""))
      (hre.wall_of_spells hchars (.lit (.lit (.lit .nil))) (by decide)) (.lit (.lit .nil))
      (by decide) (.lit .nil) (by decide)
  have hvec : Framed re (shownAfter [.lit " ("] _ _) _ :=
    hcwe.value (text.format (field f "cvss_vector" (.str "")))
      (hre.wall_of_spells hchars (.lit .nil) (by decide))
  have hcvss : Framed re (shownAfter (badgeParts p.2) _ _) _ :=
    hvec.value (text.format (f.get "cvss")) (wall_badgeParts hre hchars hp)
  have htitle : Framed re (shownAfter [.lit ": "] _ _) _ :=
    hcvss.value (text.format (field f "title" (.str "Untitled")))
      (hre.wall_of_spells hchars (.lit .nil) (by decide))
  have hid : Framed re (shownAfter [.lit "### "] _ _) _ :=
    htitle.value (text.format (field f "id" (.str (defaultId i))))
      (hre.wall_of_spells hchars (.lit .nil) (by decide))
  exact hid

theorem framed_findings (hre : Reader chars re) (hchars : AsciiChars chars)
    (hcase : LevelCasing text) {findings : List PyDict} (hfindings : ∀ f ∈ findings, Reportable f)
    {i : Nat} {lines : List Line} (hlines : allFindingLines text i findings = .ok lines)
    (h : Framed re parts given) :
    Framed re (spread lines ++ parts) (allFindingTexts text i findings given) := by
  induction findings generalizing i lines with
  | nil =>
    obtain rfl := Except.ok.inj hlines
    exact h
  | cons f findings ih =>
    obtain ⟨hf, hrest⟩ := List.forall_mem_cons.mp hfindings
    simp only [allFindingLines, Py.bind_eq_ok] at hlines
    obtain ⟨first, hfirst, rest, hrestLines, hlines⟩ := hlines
    obtain rfl := Except.ok.inj hlines
    obtain ⟨p, hp, hspread⟩ := spread_findingLines hcase hf hfirst
    have htail := ih hrest hrestLines
    rw [spread_append, List.append_assoc, hspread]
    exact framed_findingParts hre hchars i f hp htail

end Findings

section Fixed

/-! The lines around the findings. -/

variable {text : PyText} {chars : PyChars} {re : Pattern Char} {parts : List Part}
  {given : List String}

variable (text) in
theorem framed_closing (hre : Reader chars re) (hchars : AsciiChars chars) (skillVersion : Json) :
    Framed re (spread (closingLines text skillVersion)) [text.format skillVersion] := by
  have hend : Framed re [.lit "\n", .lit "\n",
      .lit "- **Rules:** 26 path-scoped Solana Anchor security rules\n", .lit "\n",
      .lit "- **Agents:** 6 specialized audit agents + cross-program agent\n", .lit "\n",
      .lit "- **Framework:** Anchor v0.30+ on Solana v1.18+\n", .lit "\n",
      .lit "\n", .lit "\n"] [] :=
    framed_of_wall (hre.wall_of_spells hchars
      (.lit (.lit (.lit (.lit (.lit (.lit (.lit (.lit (.lit (.lit .nil))))))))))
      (by decide +kernel))
  have htool : Framed re (shownAfter [.lit "- **Tool:** solana-auditor-skill v"] _ _) _ :=
    hend.value (text.format skillVersion) (hre.wall_of_spells hchars (.lit .nil) (by decide))
  have happendix : Framed re ([.lit "\n\n", .lit "\n",
      .lit "## Appendix: Tools & Methodology\n", .lit "\n"] ++ _) _ :=
    htool.pad hre (.lit (.lit (.lit (.lit .nil)))) (by decide)
  have hdisclaimer : Framed re ([.lit "## Disclaimer\n", .lit "\n",
      .lit ("This report is a point-in-time security assessment. New attack vectors or changes to " ++
        "the program may introduce vulnerabilities not identified here. Findings should be " ++
        "re-evaluated after each significant code change."), .lit "\n"] ++ _) _ :=
    happendix.pad hre (.lit (.lit (.split (.split (.lit (.lit (.lit (.lit .nil))))))))
      (by decide +kernel)
  exact hdisclaimer

theorem framed_patterns (hre : Reader chars re) (h : Framed re parts given) :
    Framed re (spread patternLines ++ parts) given :=
  h.pad hre
    (.lit (.lit (.split (.lit (.lit (.lit (.lit (.lit (.lit (.lit .nil)))))))))) (by decide +kernel)

variable (text) in
theorem framed_items (hre : Reader chars re) (hchars : AsciiChars chars) (items : List Json)
    (h : Framed re parts given) :
    Framed re (spread (items.map fun item => [.lit "- ", shown text item, .lit "\n"]) ++ parts)
      (items.map text.format ++ given) := by
  induction items with
  | nil => exact h
  | cons item items ih =>
    have hend : Framed re ([.lit "\n", .lit "\n"] ++ _) _ :=
      ih.pad hre (.lit (.lit .nil)) (by decide)
    have hitem : Framed re (shownAfter [.lit "- "] _ _) _ :=
      hend.value (text.format item) (hre.wall_of_spells hchars (.lit .nil) (by decide))
    exact hitem

theorem framed_scope (hre : Reader chars re) (hchars : AsciiChars chars) {scope : Json}
    {lines : List Line} (hlines : scopeLines text scope = .ok lines) (h : Framed re parts given) :
    Framed re (spread lines ++ parts) (scopeTexts text scope ++ given) := by
  simp only [scopeLines, Py.bind_eq_ok] at hlines
  obtain ⟨members, hmembers, hlines⟩ := hlines
  obtain rfl := Except.ok.inj hlines
  have hline : Framed re ([.lit "\n", .lit "\n"] ++ parts) given :=
    h.pad hre (.lit (.lit .nil)) (by decide)
  have hnone : Framed re
      (spread (if truthy scope then [] else [[.lit "- (None — full program scope)\n"]]) ++
        (spread [[.lit "\n"]] ++ parts)) given := by
    cases truthy scope with
    | true => exact hline
    | false =>
      have hscope : Framed re ([.lit "- (None — full program scope)\n", .lit "\n"] ++ _) given :=
        hline.pad hre (.lit (.lit .nil)) (by decide)
      exact hscope
  have hitems := framed_items text hre hchars members hnone
  have hhead : Framed re ([.lit "## Out of Scope\n", .lit "\n",
      .lit "The following areas were explicitly excluded from this audit:\n", .lit "\n"] ++ _) _ :=
    hitems.pad hre (.lit (.lit (.lit (.lit .nil)))) (by decide)
  simp only [scopeTexts, hmembers, spread_append, List.append_assoc]
  exact hhead

variable (text) in
theorem framed_header (hre : Reader chars re) (hchars : AsciiChars chars) (summary : PyDict)
    (generated : String) (h : Framed re parts given) :
    Framed re (spread (headerLines text summary generated) ++ parts)
      (headerTexts text summary generated ++ given) := by
  have hend : Framed re ([.lit "\n", .lit "\n", .lit "\n", .lit "\n"] ++ parts) given :=
    h.pad hre (.lit (.lit (.lit (.lit .nil)))) (by decide)
  have hgenerated : Framed re (shownAfter [.lit "\n", .lit "\n", .lit "**Generated:** "] _ _) _ :=
    hend.value generated (hre.wall_of_spells hchars (.lit (.lit (.lit .nil))) (by decide))
  have hskill : Framed re (shownAfter [.lit "\n", .lit "\n", .lit "**Skill Version:** "] _ _) _ :=
    hgenerated.value (text.format (field summary "skill_version" (.str "N/A")))
      (hre.wall_of_spells hchars (.lit (.lit (.lit .nil))) (by decide))
  have hdate : Framed re (shownAfter [.lit "\n", .lit "\n", .lit "**Date:** "] _ _) _ :=
    hskill.value (text.format (field summary "audit_date" (.str "N/A")))
      (hre.wall_of_spells hchars (.lit (.lit (.lit .nil))) (by decide))
  have hrepo : Framed re (shownAfter [.lit "\n", .lit "\n", .lit "**Repository:** "] _ _) _ :=
    hdate.value (text.format (field summary "repo" (.str "N/A")))
      (hre.wall_of_spells hchars (.lit (.lit (.lit .nil))) (by decide))
  have hprogram : Framed re (shownAfter [.lit "# Security Audit Report\n", .lit "\n",
      .lit "**Program:** "] _ _) _ :=
    hrepo.value (text.format (field summary "program_name" (.str "Unknown Program")))
      (hre.wall_of_spells hchars (.lit (.lit (.lit .nil))) (by decide))
  exact hprogram

end Fixed

section Summary

/-! The lines with the counts that the report makes itself. -/

variable {text : PyText} {chars : PyChars} {re : Pattern Char} {parts : List Part}
  {given : List String}

theorem Reader.silent_of_spells (hre : Reader chars re) (hchars : AsciiChars chars)
    {fixed : List Part} {w : List Char} (hspells : Spells fixed w) (h : quietText [] w = true) :
    Silent re (flat fixed) := by
  rw [hspells.flat_eq]
  exact hre.silent hchars h

theorem Reader.silent_spells_number (hre : Reader chars re) (hchars : AsciiChars chars)
    {fixed : List Part} {w : List Char} (hspells : Spells fixed w)
    (h : (digits.all fun d => quietText [] (w ++ [d])) = true) (n : Nat) :
    Silent re (flat fixed ++ (toString n).toList) := by
  rw [hspells.flat_eq]
  exact hre.silent_number hchars h n

theorem Reader.silent_lit (hre : Reader chars re) (hchars : AsciiChars chars) {l : List Char}
    (h : quietText [] l = true) : Silent re (String.ofList l).toList := by
  rw [String.toList_ofList]
  exact hre.silent hchars h

theorem Reader.silent_toString (hre : Reader chars re) (hchars : AsciiChars chars) (n : Nat) :
    Silent re (toString n).toList := by
  simpa using hre.silent_number hchars (s := []) (by decide) n

/-- A wall whose last match is ended by the first digit of a number. -/
theorem Reader.wall_spells_number (hre : Reader chars re) (hchars : AsciiChars chars)
    {fixed : List Part} {w r : List Char} (hspells : Spells fixed w)
    (h : (digits.all fun d => wallText (w ++ [d])) = true) (n : Nat) (hr : Silent re r) :
    Wall re ((flat fixed ++ (toString n).toList) ++ r) := by
  obtain ⟨d, ds, htext, hd, hds⟩ := exists_toString n
  rw [hspells.flat_eq, htext]
  simpa using hre.wall_append hchars (List.all_eq_true.mp h d hd)
    ((hre.silent_digits hchars hds).append hr)

/-- The rows of some levels, and everything after them up to the findings. -/
def tableLines (text : PyText) (counts : Counts) (total : Nat) (shownLevels : List String) :
    List Line :=
  shownLevels.map (fun s => [.lit "| ", severityBadge text s,
    .lit (" | " ++ toString ((Dict.get? counts s).getD 0) ++ " |")]) ++
  [[.lit ("| **Total** | **" ++ toString total ++ "** |")], [.lit "\n"], [.lit "## Findings\n"]]

theorem flat_tableLines_nil (counts : Counts) (total : Nat) :
    flat (spread (tableLines text counts total [])) =
      (flat [.lit "| **Total** | **"] ++ (toString total).toList) ++
        flat [.lit "** |", .lit "\n", .lit "\n", .lit "\n", .lit "## Findings\n", .lit "\n"] := by
  simp only [tableLines, spread, flat, Part.text, String.toList_append, List.map_nil,
    List.nil_append, List.flatMap_cons, List.flatMap_nil, List.cons_append, List.append_nil,
    List.append_assoc]

theorem flat_tableLines_cons (counts : Counts) (total : Nat) (s : String)
    (shownLevels : List String) :
    flat (spread (tableLines text counts total (s :: shownLevels))) =
      (flat [.lit "| ", severityBadge text s, .lit " | "] ++
        (toString ((Dict.get? counts s).getD 0)).toList) ++
      (flat [.lit " |", .lit "\n"] ++
        flat (spread (tableLines text counts total shownLevels))) := by
  simp only [tableLines, spread, flat, Part.text, String.toList_append, List.map_cons,
    List.flatMap_cons, List.flatMap_nil, List.cons_append, List.nil_append, List.append_nil,
    List.flatMap_append, List.append_assoc]

theorem silent_table (hre : Reader chars re) (hchars : AsciiChars chars)
    (hcase : LevelCasing text) (counts : Counts) (total : Nat) {shownLevels : List String}
    (hlevels : ∀ s ∈ shownLevels, s ∈ severityLevels) :
    Silent re (flat (spread (tableLines text counts total shownLevels))) ∧
      ∃ r, flat (spread (tableLines text counts total shownLevels)) = '|' :: r := by
  induction shownLevels with
  | nil =>
    rw [flat_tableLines_nil]
    have hnumber : Silent re (flat [.lit "| **Total** | **"] ++ _) :=
      hre.silent_spells_number hchars (.lit .nil) (by decide +kernel) total
    have hend : Silent re (flat [.lit "** |", .lit "\n", .lit "\n", .lit "\n",
        .lit "## Findings\n", .lit "\n"]) :=
      hre.silent_of_spells hchars (.lit (.lit (.lit (.lit (.lit (.lit .nil)))))) (by decide)
    exact ⟨hnumber.append hend, _, rfl⟩
  | cons s shownLevels ih =>
    obtain ⟨hs, hrest⟩ := List.forall_mem_cons.mp hlevels
    obtain ⟨hsilent, r, hr⟩ := ih hrest
    rw [hr] at hsilent
    rw [flat_tableLines_cons, hr, severityBadge_level hcase hs]
    have hspells : Spells [.lit " |", .lit "\n"] _ := .lit (.lit .nil)
    have hover : Silent re (flat [.lit " |", .lit "\n"] ++ (['|'] ++ r)) := by
      rw [hspells.flat_eq]
      exact hre.silent_over hchars (by decide) hsilent
    have hrow : Silent re (flat [.lit "| ", .lit ((Dict.get? icons s).getD ""), .lit " | "] ++
        (toString ((Dict.get? counts s).getD 0)).toList) := by
      simp only [severityLevels, List.mem_cons, List.not_mem_nil, or_false] at hs
      rcases hs with h | h | h | h | h <;> rw [h]
      all_goals
        exact hre.silent_spells_number hchars (.lit (.lit (.lit .nil))) (by decide +kernel) _
    exact ⟨hrow.append hover, _, rfl⟩

theorem wall_table (hre : Reader chars re) (hchars : AsciiChars chars) (hcase : LevelCasing text)
    (counts : Counts) (total : Nat) {shownLevels : List String}
    (hlevels : ∀ s ∈ shownLevels, s ∈ severityLevels) :
    Wall re (flat (spread ([[.lit "## Severity Summary\n"], [.lit "| Severity | Count |"],
      [.lit "|----------|------:|"]] ++ tableLines text counts total shownLevels))) := by
  obtain ⟨hsilent, r, hr⟩ := silent_table hre hchars hcase counts total hlevels
  have hflat : flat (spread ([[.lit "## Severity Summary\n"], [.lit "| Severity | Count |"],
      [.lit "|----------|------:|"]] ++ tableLines text counts total shownLevels)) =
      flat [.lit "## Severity Summary\n", .lit "\n"] ++
        (flat [.lit "| Severity | Count |", .lit "\n", .lit "|----------|------:|", .lit "\n"] ++
          (['|'] ++ r)) := by
    rw [spread_append, flat_append, hr]
    simp only [spread, flat, List.flatMap_cons, List.flatMap_nil, List.cons_append,
      List.nil_append, List.append_nil, List.append_assoc]
  rw [hr] at hsilent
  have hhead : Spells [.lit "## Severity Summary\n", .lit "\n"] _ := .lit (.lit .nil)
  have htitles : Spells [.lit "| Severity | Count |", .lit "\n", .lit "|----------|------:|",
    .lit "\n"] _ := .lit (.lit (.lit (.lit .nil)))
  rw [hflat, hhead.flat_eq, htitles.flat_eq]
  exact hre.wall_append hchars (by decide) (hre.silent_over hchars (by decide) hsilent)

/-- The sentence with the counts; `counted` is the number of findings of a level. -/
def summarySentence (total : Nat) (counted : String → Nat) : String :=
  "This audit identified **" ++ toString total ++ "** finding" ++
    (if total ≠ 1 then "s" else "") ++ " across " ++ toString severityLevels.length ++
    " severity levels. " ++ toString (counted "CRITICAL") ++ " critical and " ++
    toString (counted "HIGH") ++ " high severity issues require immediate attention." ++
    (if counted "MEDIUM" ≠ 0 then " " ++ toString (counted "MEDIUM") ++
      " medium severity issues should be addressed in a timely manner." else "") ++ "\n"

theorem toList_summarySentence (total : Nat) (counted : String → Nat) :
    (summarySentence total counted).toList =
      ("This audit identified **".toList ++ (toString total).toList) ++
        ("** finding".toList ++ ((if total ≠ 1 then "s" else "").toList ++
        (" across ".toList ++ ((toString severityLevels.length).toList ++
        (" severity levels. ".toList ++ ((toString (counted "CRITICAL")).toList ++
        (" critical and ".toList ++ ((toString (counted "HIGH")).toList ++
        (" high severity issues require immediate attention.".toList ++
        ((if counted "MEDIUM" ≠ 0 then " " ++ toString (counted "MEDIUM") ++
          " medium severity issues should be addressed in a timely manner." else "").toList ++
        "\n".toList)))))))))) := by
  unfold summarySentence
  simp only [String.toList_append, List.append_assoc]

theorem wall_sentence (hre : Reader chars re) (hchars : AsciiChars chars) (total : Nat)
    (counted : String → Nat) : Wall re (flat [.lit (summarySentence total counted)]) := by
  have hplural : Silent re (if total ≠ 1 then "s" else "").toList := by
    split_ifs
    · exact hre.silent_lit hchars (by decide)
    · exact hre.silent_lit hchars (by decide)
  have hmedium : Silent re (if counted "MEDIUM" ≠ 0 then " " ++ toString (counted "MEDIUM") ++
      " medium severity issues should be addressed in a timely manner." else "").toList := by
    split_ifs
    · rw [String.toList_append, String.toList_append]
      exact ((hre.silent_lit hchars (by decide)).append (hre.silent_toString hchars _)).append
        (hre.silent_lit hchars (by decide))
    · exact hre.silent_lit hchars (by decide)
  rw [flat_lit, toList_summarySentence, ← flat_lit "This audit identified **"]
  refine hre.wall_spells_number hchars (.lit .nil) (by decide +kernel) total ?_
  refine .append (hre.silent_lit hchars (by decide)) (.append hplural ?_)
  refine .append (hre.silent_lit hchars (by decide)) (.append (hre.silent_toString hchars _) ?_)
  refine .append (hre.silent_lit hchars (by decide)) (.append (hre.silent_toString hchars _) ?_)
  refine .append (hre.silent_lit hchars (by decide)) (.append (hre.silent_toString hchars _) ?_)
  exact .append (hre.silent_lit hchars (by decide))
    (.append hmedium (hre.silent_lit hchars (by decide)))

/-- The lines of the table, from its title to the title of the findings. -/
def tableSection (text : PyText) (counts : Counts) (total : Nat) : List Line :=
  [[.lit "## Severity Summary\n"], [.lit "| Severity | Count |"], [.lit "|----------|------:|"]] ++
    tableLines text counts total
      (severityLevels.filter fun s => decide (0 < (Dict.get? counts s).getD 0))

theorem spread_summaryLines (counts : Counts) (total : Nat) :
    spread (summaryLines text counts total) ++ (spread [[.lit "## Findings\n"]] ++ parts) =
      [.lit "## Executive Summary\n", .lit "\n"] ++
        ([.lit (summarySentence total fun s => (Dict.get? counts s).getD 0)] ++
        ([.lit "\n", .lit "\n", .lit "\n"] ++ (spread (tableSection text counts total) ++ parts))) := by
  rw [summaryLines, tableSection, tableLines]
  simp only [spread_append, spread_cons, spread_nil, List.append_assoc, List.cons_append,
    List.nil_append]
  rfl

theorem framed_summary (hre : Reader chars re) (hchars : AsciiChars chars)
    (hcase : LevelCasing text) (counts : Counts) (total : Nat) (h : Framed re parts given) :
    Framed re (spread (summaryLines text counts total) ++
      (spread [[.lit "## Findings\n"]] ++ parts)) given := by
  have htable : Framed re (spread (tableSection text counts total) ++ parts) given :=
    h.wall (wall_table hre hchars hcase counts total fun s hs => List.mem_of_mem_filter hs)
  have hblank : Framed re ([.lit "\n", .lit "\n", .lit "\n"] ++
      (spread (tableSection text counts total) ++ parts)) given :=
    htable.pad hre (.lit (.lit (.lit .nil))) (by decide)
  have hsentence := hblank.wall
    (wall_sentence hre hchars total fun s => (Dict.get? counts s).getD 0)
  rw [spread_summaryLines]
  exact hsentence.pad hre (.lit (.lit .nil)) (by decide)

end Summary

section Report

variable {text : PyText} {chars : PyChars} {re : Pattern Char} {generated report : String}
  {raw : PyDict} {findings : List PyDict}

theorem framed_report (hre : Reader chars re) (hchars : AsciiChars chars)
    (hcase : LevelCasing text) (hfindings : ∀ f ∈ findings, Reportable f) {lines : List Line}
    (hlines : reportLines text generated raw findings = .ok lines) :
    Framed re (spread lines) (givenTexts text generated raw findings) := by
  simp only [reportLines, Py.bind_eq_ok] at hlines
  obtain ⟨summary, hsummary, counts, -, middle, hmiddle, scope, hscope, hlines⟩ := hlines
  obtain rfl := Except.ok.inj hlines
  have hfields : summaryFields raw = summary := by simp [summaryFields, hsummary]
  have hclosing := framed_closing text hre hchars
    (field summary "skill_version" (.str "N/A"))
  have hscopeLines := framed_scope hre hchars hscope hclosing
  have hpatterns := framed_patterns hre hscopeLines
  have hmiddleLines := framed_findings hre hchars hcase hfindings hmiddle hpatterns
  have hcounts := framed_summary hre hchars hcase counts findings.length hmiddleLines
  have hheader := framed_header text hre hchars summary generated hcounts
  rw [givenTexts, hfields]
  simpa only [spread_append, List.append_assoc] using hheader

theorem toList_written (parts : List Part) : (written parts).toList = flat parts := by
  rw [written, String.toList_join, List.flatMap_map]
  rfl

/-- The report shows a reader nothing but what its given texts show. -/
theorem read_report (hre : Reader chars re) (hchars : AsciiChars chars)
    (hcase : LevelCasing text) (hfindings : ∀ f ∈ findings, Reportable f)
    (hreport : renderReport text generated raw findings = .ok report) :
    read re report.toList =
      (givenTexts text generated raw findings).findSome? fun v => read re v.toList := by
  obtain ⟨lines, hlines, hreport⟩ := Py.bind_eq_ok.mp hreport
  obtain rfl := Except.ok.inj hreport
  have hframed := framed_report hre hchars hcase hfindings hlines [] []
  have hnil : read re [] = none := rfl
  rw [List.nil_append, List.append_nil, hnil, Option.none_or, Option.or_none] at hframed
  rw [toList_written, ← hframed]
  cases lines with
  | nil => rfl
  | cons line lines =>
    rw [← fileParts_append, flat_append, flat_lit]
    exact (read_snoc (by decide) (hre.not_mayEnd (by decide) (by decide)) _).symm

end Report

end SolanaAuditor.Reports.ReportCheck
