/- SolanaAuditor/Sast/RootSpellings
   digest: When a scan does not depend on how the root of the program is spelled. -/

import SolanaAuditor.Lib.Glob
import SolanaAuditor.Sast.FindingIds
import SolanaAuditor.Suggestions.OutputFiles

set_option autoImplicit false
set_option relaxedAutoImplicit false

namespace SolanaAuditor.Sast

open SolanaAuditor.Lib SolanaAuditor.Suggestions

section Paths

open Lib.LexicalPath

def nameOf : Segment String → String
  | .up => ".."
  | .down name => name

/-- `path.parts` -/
def partsOf (path : PosixPath) : List String :=
  (if path.absolute then ["/"] else []) ++ path.segments.map nameOf

/-- `str(path)` -/
def pathText (path : PosixPath) : String :=
  if (partsOf path).isEmpty then "."
  else (if path.absolute then "/" else "") ++ "/".intercalate (path.segments.map nameOf)

/-- `path.match(glob)`: a relative pattern is matched from the right, `**` as `*`. -/
def pathMatch (file : SourceFile) (glob : String) : Py Bool :=
  let pattern := pathOf glob
  if (partsOf pattern).isEmpty then .error .valueError
  else if pattern.absolute then return Glob.matchesWhole Glob.fnmatch (partsOf pattern) file.parts
  else return Glob.matchesEnd Glob.fnmatch (partsOf pattern) file.parts

def excludedNames : List String := ["target", "tests", ".git"]

/-- A file below the root of a program, none of whose names is left out. -/
structure TreeFile where
  rel : List String
  content : Option String
  clean : ∀ name ∈ excludedNames, name ∉ rel

/-- The file as `root.rglob` yields it. -/
def fileUnder (root : PosixPath) (f : TreeFile) : SourceFile :=
  let path := root.join ⟨false, f.rel.map .down⟩
  { path := pathText path, parts := partsOf path, content := f.content }

theorem parts_fileUnder (root : PosixPath) (f : TreeFile) :
    (fileUnder root f).parts = partsOf root ++ f.rel := by
  have hnames : (f.rel.map Segment.down).map nameOf = f.rel := by
    rw [List.map_map]
    exact List.map_id _
  simp only [fileUnder, PosixPath.join, partsOf, Bool.false_eq_true, if_false, List.map_append,
    hnames, List.append_assoc]

/-- One of the names of the root is left out. -/
def LeftOut (root : PosixPath) : Prop := ∃ name ∈ excludedNames, name ∈ partsOf root

theorem excluded_iff (file : SourceFile) :
    excluded file = true ↔ ∃ name ∈ excludedNames, name ∈ file.parts := by
  simp [excluded, excludedNames, or_assoc]

/-- A file below the root is skipped for the names of the root only. -/
theorem excluded_fileUnder (root : PosixPath) (f : TreeFile) :
    excluded (fileUnder root f) = true ↔ LeftOut root := by
  rw [excluded_iff, parts_fileUnder]
  constructor
  · rintro ⟨name, hname, hmem⟩
    exact ⟨name, hname, (List.mem_append.mp hmem).resolve_right (f.clean name hname)⟩
  · rintro ⟨name, hname, hmem⟩
    exact ⟨name, hname, List.mem_append_left _ hmem⟩

end Paths

section Globs

/-- The last names of a glob, as many as there are below the root, select the file. -/
def RelSelected (glob : String) (f : TreeFile) : Prop :=
  let pats := Glob.lastPatterns f.rel.length (partsOf (pathOf glob))
  if (pathOf glob).absolute then Glob.matchesWhole Glob.fnmatch pats f.rel = true
  else Glob.matchesEnd Glob.fnmatch pats f.rel = true

/-- The names of a glob before the last `n` select a root. -/
def RootSelected (glob : String) (n : Nat) (root : PosixPath) : Prop :=
  let pats := Glob.firstPatterns n (partsOf (pathOf glob))
  if (pathOf glob).absolute then Glob.matchesWhole Glob.fnmatch pats (partsOf root) = true
  else Glob.matchesEnd Glob.fnmatch pats (partsOf root) = true

theorem pathMatch_fileUnder {glob : String} (hglob : partsOf (pathOf glob) ≠ [])
    (root : PosixPath) (f : TreeFile) :
    ∃ b, pathMatch (fileUnder root f) glob = .ok b ∧
      (b = true ↔ RootSelected glob f.rel.length root ∧ RelSelected glob f) := by
  have hparts := parts_fileUnder root f
  have hempty : (partsOf (pathOf glob)).isEmpty = false := by simpa using hglob
  unfold pathMatch RootSelected RelSelected
  cases habsolute : (pathOf glob).absolute with
  | true =>
    simp only [hempty, habsolute, Bool.false_eq_true, if_false, if_true, pure, Except.pure,
      Except.ok.injEq, exists_eq_left']
    rw [hparts, Glob.matchesWhole_under, Bool.and_eq_true]
  | false =>
    simp only [hempty, habsolute, Bool.false_eq_true, if_false, pure, Except.pure,
      Except.ok.injEq, exists_eq_left']
    rw [hparts, Glob.matchesEnd_append, Bool.and_eq_true]

/-- Two roots give a glob the same answer for a file exactly when it selects both or neither, as
far as it selects the file. -/
theorem pathMatch_eq_iff (glob : String) (f : TreeFile) (root root' : PosixPath) :
    pathMatch (fileUnder root f) glob = pathMatch (fileUnder root' f) glob ↔
      (RelSelected glob f →
        (RootSelected glob f.rel.length root ↔ RootSelected glob f.rel.length root')) := by
  by_cases hglob : partsOf (pathOf glob) = []
  · have habsolute : (pathOf glob).absolute = false := by
      rw [Bool.eq_false_iff]
      intro htrue
      simp [partsOf, htrue] at hglob
    refine iff_of_true (by simp [pathMatch, hglob]) fun _ => ?_
    simp [RootSelected, habsolute, hglob, Glob.firstPatterns, Glob.matchesEnd_nil]
  · obtain ⟨b, hb, hselect⟩ := pathMatch_fileUnder hglob root f
    obtain ⟨b', hb', hselect'⟩ := pathMatch_fileUnder hglob root' f
    rw [hb, hb', Except.ok.injEq, Bool.eq_iff_iff, hselect, hselect']
    exact and_congr_left_iff

end Globs

section Scans

variable (text : PyText) (finditer : String → String → Py (Option (List Match)))

def scanner : Engine := ⟨pathMatch, finditer⟩

/-- A finding of a file below the root, with the path that the root gives it. -/
def placed (root : PosixPath) (p : TreeFile × Finding) : Finding :=
  { p.2 with
    file := (fileUnder root p.1).path
    location := [("file", .str (fileUnder root p.1).path), ("line", .int p.2.line)] }

/-- Two scans end alike: with the same findings up to the root in front of their paths. -/
def SameFindings (root root' : PosixPath) (scan scan' : Py (List Finding)) : Prop :=
  ∃ found : Py (List (TreeFile × Finding)), scan = found.map (List.map (placed root)) ∧
    scan' = found.map (List.map (placed root'))

variable {text finditer} {root root' : PosixPath}

theorem SameFindings.append {scan scan' rest rest' : Py (List Finding)}
    (h : SameFindings root root' scan scan') (hrest : SameFindings root root' rest rest') :
    SameFindings root root' (do return (← scan) ++ (← rest)) (do return (← scan') ++ (← rest')) := by
  obtain ⟨found, rfl, rfl⟩ := h
  obtain ⟨later, rfl, rfl⟩ := hrest
  refine ⟨do return (← found) ++ (← later), ?_, ?_⟩
  · cases found <;> cases later <;>
      simp [Except.map, bind, Except.bind, pure, Except.pure]
  · cases found <;> cases later <;>
      simp [Except.map, bind, Except.bind, pure, Except.pure]

/-- Of a file, `make_finding` reads the path only. -/
theorem makeFinding_fileUnder (root : PosixPath) (f : TreeFile) (rule : Rule) (m : Match)
    (content : String) :
    makeFinding text rule (fileUnder root f) m content =
      (makeFinding text rule ⟨"", [], none⟩ m content).map fun g => placed root (f, g) := by
  unfold makeFinding
  cases text.uppered rule.severity with
  | error e => rfl
  | ok severity =>
    cases pySlice rule.description 80 with
    | error e => rfl
    | ok shortened => rfl

theorem makeFindings_fileUnder (root : PosixPath) (f : TreeFile)
    (matched : List (Rule × Match × String)) :
    makeFindings text (fileUnder root f) matched =
      (makeFindings text ⟨"", [], none⟩ matched).map (List.map fun g => placed root (f, g)) := by
  induction matched with
  | nil => rfl
  | cons p matched ih =>
    obtain ⟨rule, m, content⟩ := p
    rw [makeFindings, makeFindings, makeFinding_fileUnder, ih]
    cases makeFinding text rule ⟨"", [], none⟩ m content with
    | error e => rfl
    | ok g =>
      cases makeFindings text ⟨"", [], none⟩ matched with
      | error e => rfl
      | ok gs => rfl

theorem sameFindings_makeFindings (f : TreeFile) (matched : List (Rule × Match × String)) :
    SameFindings root root' (makeFindings text (fileUnder root f) matched)
      (makeFindings text (fileUnder root' f) matched) := by
  refine ⟨(makeFindings text ⟨"", [], none⟩ matched).map (List.map fun g => (f, g)), ?_, ?_⟩ <;>
  · rw [makeFindings_fileUnder]
    cases makeFindings text ⟨"", [], none⟩ matched <;> simp [Except.map]

/-- The rules match a file below two roots alike where their globs answer alike. -/
theorem detectInFile_congr {f : TreeFile} {rules : List Rule}
    (h : f.content.isSome = true → ∀ rule ∈ rules, ∀ glob, rule.fileGlob = .str glob →
      pathMatch (fileUnder root f) glob = pathMatch (fileUnder root' f) glob) :
    detectInFile (scanner finditer) (fileUnder root f) rules =
      detectInFile (scanner finditer) (fileUnder root' f) rules := by
  have hcontent : ∀ root, (fileUnder root f).content = f.content := fun _ => rfl
  rw [detectInFile, detectInFile, hcontent, hcontent]
  cases hread : f.content with
  | none => rfl
  | some content =>
    have hglobs := h (by rw [hread]; rfl)
    simp only
    clear h
    induction rules with
    | nil => rfl
    | cons rule rules ih =>
      obtain ⟨hhead, htail⟩ := List.forall_mem_cons.mp hglobs
      have hmatches : matchesOf (scanner finditer) rule (fileUnder root f) content =
          matchesOf (scanner finditer) rule (fileUnder root' f) content := by
        unfold matchesOf
        cases hglob : rule.fileGlob with
        | str glob =>
          have hsame : (scanner finditer).pathMatch (fileUnder root f) glob =
              (scanner finditer).pathMatch (fileUnder root' f) glob := hhead glob hglob
          simp only [hsame]
        | null | bool | int | float | arr | obj => rfl
      rw [detectInContent, detectInContent, hmatches, ih htail]

/-- The part of a scan that a file below the root adds. -/
theorem runAudit_cons (file : SourceFile) (files : List SourceFile) (engine : Engine)
    (rules : List Rule) (h : excluded file = false) :
    runAudit text engine rules (file :: files) =
      do return (← (do makeFindings text file (← detectInFile engine file rules))) ++
        (← runAudit text engine rules files) := by
  rw [runAudit, if_neg (by simp [h])]
  cases detectInFile engine file rules <;> rfl

theorem sameFindings_runAudit {rules : List Rule} {tree : List TreeFile}
    (hskipped : ∀ f ∈ tree, excluded (fileUnder root f) = excluded (fileUnder root' f))
    (hmatched : ∀ f ∈ tree, excluded (fileUnder root f) = false → f.content.isSome = true →
      ∀ rule ∈ rules, ∀ glob, rule.fileGlob = .str glob →
        pathMatch (fileUnder root f) glob = pathMatch (fileUnder root' f) glob) :
    SameFindings root root' (runAudit text (scanner finditer) rules (tree.map (fileUnder root)))
      (runAudit text (scanner finditer) rules (tree.map (fileUnder root'))) := by
  induction tree with
  | nil => exact ⟨.ok [], rfl, rfl⟩
  | cons f tree ih =>
    obtain ⟨hskip, hskips⟩ := List.forall_mem_cons.mp hskipped
    obtain ⟨hmatch, hmatches⟩ := List.forall_mem_cons.mp hmatched
    have hrest := ih hskips hmatches
    rw [List.map_cons, List.map_cons]
    cases hexcluded : excluded (fileUnder root f) with
    | true =>
      rw [runAudit, runAudit, if_pos hexcluded, if_pos (hskip ▸ hexcluded)]
      exact hrest
    | false =>
      rw [runAudit_cons _ _ _ _ hexcluded, runAudit_cons _ _ _ _ (hskip ▸ hexcluded),
        detectInFile_congr (hmatch hexcluded)]
      refine SameFindings.append ?_ hrest
      cases detectInFile (scanner finditer) (fileUnder root' f) rules with
      | error e => exact ⟨.error e, rfl, rfl⟩
      | ok matched => exact sameFindings_makeFindings f matched

end Scans

section Verdict

variable (text : PyText) (finditer : String → String → Py (Option (List Match)))
  (rules : List Rule) (tree : List TreeFile) (root root' : PosixPath)

/-- A scan of the tree below two roots: the findings are the same but for their paths, as many
files are scanned, and each file is skipped or matched alike. -/
structure RootFree : Prop where
  findings : SameFindings root root'
    (runAudit text (scanner finditer) rules (tree.map (fileUnder root)))
    (runAudit text (scanner finditer) rules (tree.map (fileUnder root')))
  scanned : ((tree.map (fileUnder root)).filter fun f => !excluded f).length =
    ((tree.map (fileUnder root')).filter fun f => !excluded f).length
  skipped : ∀ f ∈ tree, excluded (fileUnder root f) = excluded (fileUnder root' f)
  matched : ∀ f ∈ tree, excluded (fileUnder root f) = false → f.content.isSome = true →
    ∀ rule ∈ rules, ∀ glob, rule.fileGlob = .str glob →
      pathMatch (fileUnder root f) glob = pathMatch (fileUnder root' f) glob

/-- Both roots are left out or neither is; and what a glob has before the names of a file, which it
selects up to there, selects both roots or neither. -/
structure AlikeRoots : Prop where
  leftOut : tree ≠ [] → (LeftOut root ↔ LeftOut root')
  selected : ¬ LeftOut root → ∀ f ∈ tree, f.content.isSome = true → ∀ rule ∈ rules,
    ∀ glob, rule.fileGlob = .str glob → RelSelected glob f →
      (RootSelected glob f.rel.length root ↔ RootSelected glob f.rel.length root')

variable {text finditer rules tree root root'}

theorem SameFindings.length_eq {found found' : List Finding}
    (h : SameFindings root root' (.ok found) (.ok found')) : found.length = found'.length := by
  obtain ⟨common, hleft, hright⟩ := h
  cases common with
  | error e => simp [Except.map] at hleft
  | ok ps =>
    obtain rfl := Except.ok.inj hleft
    obtain rfl := Except.ok.inj hright
    rw [List.length_map, List.length_map]

/-- A program with one source file right below its root. -/
def flatTree : List TreeFile := [⟨["lib.rs"], some "invoke_signed(&ix)?;\n", by decide⟩]

end Verdict

end SolanaAuditor.Sast
