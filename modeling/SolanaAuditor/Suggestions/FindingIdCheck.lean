/- SolanaAuditor/Suggestions/FindingIdCheck
   digest: Which ids validate_finding_id lets pass, and the file names that they give. -/

import SolanaAuditor.Suggestions.RegressionFiles

set_option autoImplicit false
set_option relaxedAutoImplicit false

namespace SolanaAuditor.Suggestions

open SolanaAuditor.Lib

section Defs

/-- At least one and at most 64 letters, digits, `_` and `-`. -/
structure PlainId (id : String) : Prop where
  nonempty : id ≠ ""
  short : id.length ≤ maxFindingIdLength
  chars : ∀ c ∈ id.toList, isIdChar c = true

/-- A plain id with a line end after it, 64 characters together. -/
def BreakId (id : String) : Prop :=
  ∃ body : List Char, id.toList = body ++ ['\n'] ∧ body ≠ [] ∧ body.length < maxFindingIdLength ∧
    ∀ c ∈ body, isIdChar c = true

def isControl (c : Char) : Bool := c.toNat < 32 || 127 ≤ c.toNat && c.toNat < 160

def isPlainChar (c : Char) : Bool := c != '/' && !isControl c

/-- The name, joined to the directory, is one more segment, and a plain one. -/
structure SingleFile (dir : PosixPath) (name : String) : Prop where
  directly : dir.join (pathOf name) = { dir with segments := dir.segments ++ [.down name] }
  separator : '/' ∉ name.toList
  parent : name ≠ ".."
  control : ∀ c ∈ name.toList, isControl c = false

/-- The check lets exactly the plain ids pass, and an id that it lets pass names single files. -/
structure ChecksId (text : PyText) (id : String) : Prop where
  passes : validateFindingId id = .ok () ↔ PlainId id
  files : validateFindingId id = .ok () → ∀ dir : PosixPath,
    SingleFile dir (metadataFilename id) ∧ SingleFile dir (testFilename text id)

end Defs

section Passes

theorem validateFindingId_iff {id : String} :
    validateFindingId id = .ok () ↔ PlainId id ∨ BreakId id := by
  unfold validateFindingId
  split_ifs with hempty hlong hpattern
  · rw [String.isEmpty_iff] at hempty
    subst hempty
    refine iff_of_false (by simp) (not_or.mpr ⟨fun h => h.nonempty rfl, ?_⟩)
    rintro ⟨body, hbody, -⟩
    simp at hbody
  · refine iff_of_false (by simp) (not_or.mpr ⟨fun h => absurd hlong (not_lt.mpr h.short), ?_⟩)
    rintro ⟨body, hbody, -, hshort, -⟩
    rw [← String.length_toList, hbody, List.length_append, List.length_singleton] at hlong
    omega
  · refine iff_of_false (by simp) fun h => ?_
    rw [Bool.not_eq_true', Bool.eq_false_iff, ne_eq, matchesIdPattern_iff, not_or] at hpattern
    rcases h with h | ⟨body, hbody, hne, -, hchars⟩
    · exact hpattern.1 ⟨fun heq => h.nonempty (String.toList_eq_nil_iff.mp heq), h.chars⟩
    · exact hpattern.2 ⟨body, hbody, hne, hchars⟩
  · refine iff_of_true rfl ?_
    rw [Bool.not_eq_true', Bool.not_eq_false, matchesIdPattern_iff] at hpattern
    rcases hpattern with ⟨hne, hchars⟩ | ⟨body, hbody, hne, hchars⟩
    · exact .inl ⟨fun heq => hne (by rw [heq]; rfl), not_lt.mp hlong, hchars⟩
    · refine .inr ⟨body, hbody, hne, ?_, hchars⟩
      rw [← String.length_toList, hbody, List.length_append, List.length_singleton] at hlong
      omega

theorem BreakId.not_plain {id : String} (h : BreakId id) : ¬ PlainId id := by
  obtain ⟨body, hbody, -⟩ := h
  intro hplain
  have hbreak := hplain.chars '\n' (by rw [hbody]; simp)
  exact absurd hbreak (by decide)

end Passes

section Files

variable {text : PyText}

theorem isIdChar_toLower {c : Char} (h : isIdChar c = true) : isIdChar c.toLower = true := by
  have hsame : ∀ d, isIdOrBreak d = true → isIdChar d = true → isIdChar d.toLower = true :=
    fun d => of_isIdOrBreak (P := fun c => isIdChar c = true → isIdChar c.toLower = true) (by decide)
  exact hsame c (by rw [isIdOrBreak, h, Bool.true_or]) h

/-- The characters of an id are no separators and no control characters. -/
theorem isPlainChar_of_isIdChar {c : Char} (h : isIdChar c = true) : isPlainChar c = true := by
  have hall : isIdOrBreak c = true → isIdChar c = true → isPlainChar c = true :=
    of_isIdOrBreak (P := fun c => isIdChar c = true → isPlainChar c = true) (by decide)
  exact hall (by rw [isIdOrBreak, h, Bool.true_or]) h

theorem singleFile_of_chars (dir : PosixPath) {name : String} (hlength : 2 < name.toList.length)
    (hchars : name.toList.all isPlainChar = true) : SingleFile dir name := by
  have hplain : ∀ c ∈ name.toList, c ≠ '/' ∧ isControl c = false := by
    intro c hc
    have hchar := List.all_eq_true.mp hchars c hc
    rwa [isPlainChar, Bool.and_eq_true, bne_iff_ne, Bool.not_eq_true'] at hchar
  have hslash : '/' ∉ name.toList := fun hmem => (hplain _ hmem).1 rfl
  refine ⟨join_plain dir hslash hlength, hslash, ?_, fun c hc => (hplain c hc).2⟩
  rintro rfl
  simp at hlength

theorem singleFile_metadata (dir : PosixPath) {id : String} (h : PlainId id) :
    SingleFile dir (metadataFilename id) := by
  have hlist : (metadataFilename id).toList = id.toList ++ "-metadata.json".toList :=
    String.toList_append
  have hid : id.toList.all isPlainChar = true :=
    List.all_eq_true.mpr fun c hc => isPlainChar_of_isIdChar (h.chars c hc)
  have hsuffix : "-metadata.json".toList.all isPlainChar = true := by decide
  refine singleFile_of_chars dir ?_ ?_ <;> rw [hlist]
  · have hlength : "-metadata.json".toList.length = 14 := by decide
    rw [List.length_append]
    omega
  · rw [List.all_append, hid, hsuffix, Bool.and_self]

theorem singleFile_test (hlower : AsciiLower text) (dir : PosixPath) {id : String}
    (h : PlainId id) : SingleFile dir (testFilename text id) := by
  have hlow : (text.lower id).toList.all isPlainChar = true := by
    rw [hlower id fun c hc => isIdOrBreak_lt (by rw [isIdOrBreak, h.chars c hc, Bool.true_or]),
      PyText.ascii, String.toList_ofList, List.all_eq_true]
    exact List.forall_mem_map.mpr fun c hc =>
      isPlainChar_of_isIdChar (isIdChar_toLower (h.chars c hc))
  have hprefix : "test_".toList.all isPlainChar = true := by decide
  have hsuffix : "_regression.rs".toList.all isPlainChar = true := by decide
  refine singleFile_of_chars dir ?_ ?_ <;> rw [testFilename_toList]
  · have hlength : "_regression.rs".toList.length = 14 := by decide
    rw [List.length_append]
    omega
  · rw [List.all_append, List.all_append, hprefix, hlow, hsuffix, Bool.and_self, Bool.and_self]

end Files

/-- The check is right about every text but an id with a line end after it, which it lets pass. -/
theorem checksId_iff (text : PyText) (hlower : AsciiLower text) (id : String) :
    ChecksId text id ↔ ¬ BreakId id := by
  constructor
  · intro h hbreak
    exact hbreak.not_plain (h.passes.mp (validateFindingId_iff.mpr (.inr hbreak)))
  · intro hbreak
    have hpasses : validateFindingId id = .ok () ↔ PlainId id := by
      rw [validateFindingId_iff, or_iff_left hbreak]
    refine ⟨hpasses, fun h dir => ?_⟩
    exact ⟨singleFile_metadata dir (hpasses.mp h), singleFile_test hlower dir (hpasses.mp h)⟩

theorem checksId_iff_sample : ChecksId PyText.ascii "VULN-01" :=
  (checksId_iff PyText.ascii asciiLower_ascii "VULN-01").mpr (by
    rintro ⟨body, hbody, -⟩
    have hlast := congrArg List.getLast? hbody
    rw [List.getLast?_concat] at hlast
    exact absurd hlast (by decide))

/-- The line end gets into the names of the files. -/
theorem line_end_passes : validateFindingId "VULN-01\n" = .ok () ∧
    ¬ PlainId "VULN-01\n" ∧ ∀ dir, ¬ SingleFile dir (metadataFilename "VULN-01\n") := by
  refine ⟨by decide, fun h => ?_, fun dir h => ?_⟩
  · exact absurd (h.chars '\n' (by decide)) (by decide)
  · exact absurd (h.control '\n' (by decide)) (by decide)

end SolanaAuditor.Suggestions
