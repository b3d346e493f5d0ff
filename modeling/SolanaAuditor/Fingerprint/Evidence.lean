/- SolanaAuditor/Fingerprint/Evidence
   digest: What analyze_protocol makes of a known program id, and of two detections that agree. -/

import SolanaAuditor.Fingerprint.InstructionNames

set_option autoImplicit false
set_option relaxedAutoImplicit false

namespace SolanaAuditor.Fingerprint

open SolanaAuditor.Lib SolanaAuditor.Lib.Lists
open SolanaAuditor.History (echoArg)

section Defs

/-- A text on one line that `echo` prints as it is. -/
structure PlainText (s : String) : Prop where
  nonempty : s ≠ ""
  noOption : isEchoOption s = false
  chars : ∀ c ∈ s.toList, c ≠ '\n' ∧ c ≠ '\x00'

/-- A database in which every protocol has a program id of its own. -/
structure IdDb (sigDb : Json) (entries : List (String × Json)) : Prop
    extends Database sigDb entries where
  names : ∀ e ∈ entries, PlainText e.1
  ids : ∀ e ∈ entries, ∃ id, e.2.get? "program_id" = some (.str id) ∧ PlainText id
  distinctIds : ∀ e ∈ entries, ∀ e' ∈ entries,
    e.2.get? "program_id" = e'.2.get? "program_id" → e.1 = e'.1

/-- The first lines of the printed object. -/
def reportHead (programId protocol level : String) : String :=
  "\x7b\n" ++ fieldLine "program_id" (quoted programId) ++ ",\n" ++
    fieldLine "protocol" (quoted protocol) ++ ",\n" ++ fieldLine "confidence" (quoted level) ++ ",\n"

def Reported (text programId protocol level : String) : Prop :=
  ∃ rest, text = reportHead programId protocol level ++ rest

/-- Two confidences for one protocol give their mean, which lies below the larger; the level stays
but for a known id with one or two instruction names. -/
structure Averaged (text programId protocol : String) (byId byInstr : Nat) : Prop where
  reported : Reported text programId protocol (confidenceLevel ((byId + byInstr) / 2))
  least : min byId byInstr ≤ (byId + byInstr) / 2
  below : (byId + byInstr) / 2 < max byId byInstr
  level : ¬ (byId = 100 ∧ byInstr = 50) →
    ∀ threshold, threshold = highConfidenceThreshold ∨ threshold = mediumConfidenceThreshold →
      threshold ≤ max byId byInstr → threshold ≤ (byId + byInstr) / 2

end Defs

section ById

variable {tools : Tools} {entries : List (String × Json)} {programId : String}

theorem jqGet_plain {query : Json → JqOutput} {default s : String} {db : Json}
    (hquery : (query db).1 = [.str s]) (hs : PlainText s) : jqGet tools query default db = s := by
  have hnull : '\x00' ∉ s.toList := fun hmem => (hs.chars _ hmem).2 rfl
  have hlast : s.toList.getLast? ≠ some '\n' := fun hlast =>
    (hs.chars _ (List.mem_of_getLast? hlast)).1 rfl
  have hraw : rawText tools.render [.str s] = s.toList ++ ['\n'] := by simp [rawText, rawValue]
  rw [jqGet, hquery, hraw, captured_line hnull hlast, String.ofList_toList, if_neg hs.nonempty,
    captureEcho, echoArg_of_not hs.noOption, String.toList_append]
  exact (congrArg String.ofList (captured_line hnull hlast)).trans String.ofList_toList

/-- The id that the loop reads of a protocol. -/
def knownId (tools : Tools) (protocol : String) : String :=
  jqGet tools (jqPath ["protocols", protocol, "program_id"]) "" tools.sigDb

theorem idMatch_cons (first : String) (rest : List String) (best : String × Nat) :
    idMatch tools programId (first :: rest) best =
      if first = "" ∨ knownId tools first = "" then idMatch tools programId rest best
      else if knownId tools first = programId then (first, 100)
      else if programId.toList.take 20 = (knownId tools first).toList.take 20 then
        idMatch tools programId rest (first, 75)
      else idMatch tools programId rest best := rfl

theorem knownId_eq (h : IdDb tools.sigDb entries) {e : String × Json} (he : e ∈ entries)
    {id : String} (hid : e.2.get? "program_id" = some (.str id)) : knownId tools e.1 = id := by
  obtain ⟨id', hid', hplain⟩ := h.ids e he
  obtain rfl : id = id' := Json.str.inj (Option.some.inj (hid.symm.trans hid'))
  refine jqGet_plain ?_ hplain
  rw [jqPath_field h.toDatabase he, jqPath_get hid (by simp) (by simp)]

theorem namesRead_eq (h : IdDb tools.sigDb entries) : namesRead entries = sortedNames entries := by
  have hplain : ∀ name ∈ sortedNames entries, PlainText name := by
    intro name hname
    obtain ⟨e, he, rfl⟩ := List.mem_map.mp (StableSort.mem_sort.mp hname)
    exact h.names e he
  have hfilter : (sortedNames entries).filter (· ≠ "") = sortedNames entries :=
    List.filter_eq_self.mpr fun name hname => decide_eq_true (hplain name hname).nonempty
  unfold namesRead
  split
  · rename_i name hnames
    rw [hnames] at hplain hfilter
    rw [if_neg (by simp [(hplain name (by simp)).noOption]), hfilter, hnames]
  · exact hfilter

theorem mem_protocols_iff (h : IdDb tools.sigDb entries) {name : String} :
    name ∈ protocols tools ∧ name ≠ "" ↔ name ∈ entries.map Prod.fst := by
  have hread : name ∈ (protocols tools).filter (· ≠ "") ↔ name ∈ entries.map Prod.fst := by
    rw [filter_protocols h.toDatabase, namesRead_eq h, sortedNames, StableSort.mem_sort]
  rw [← hread, List.mem_filter, decide_eq_true_eq]

/-- A known id wins, whatever stands before and after its protocol. -/
theorem idMatch_known {names : List String} {name : String} (hmem : name ∈ names)
    (hname : name ≠ "") (hprogram : programId ≠ "") (hknown : knownId tools name = programId)
    (hunique : ∀ other ∈ names, other ≠ "" → knownId tools other = programId → other = name)
    (best : String × Nat) : idMatch tools programId names best = (name, 100) := by
  induction names generalizing best with
  | nil => simp at hmem
  | cons first rest ih =>
    obtain ⟨hfirst, hrest⟩ := List.forall_mem_cons.mp hunique
    have hlater : first ≠ name → ∀ best, idMatch tools programId rest best = (name, 100) := by
      intro hne
      exact ih ((List.mem_cons.mp hmem).resolve_left (Ne.symm hne)) hrest
    rw [idMatch_cons]
    by_cases heq : first = name
    · subst heq
      rw [if_neg (by simp [hname, hknown, hprogram]), if_pos hknown]
    · split_ifs with hskip hexact hpartial
      · exact hlater heq _
      · exact absurd (hfirst (fun h => hskip (.inl h)) hexact) heq
      · exact hlater heq _
      · exact hlater heq _

theorem detectByProgramId_known (h : IdDb tools.sigDb entries) {e : String × Json}
    (he : e ∈ entries) (hid : e.2.get? "program_id" = some (.str programId)) :
    detectByProgramId tools programId = (e.1, 100) := by
  obtain ⟨id, hid', hplain⟩ := h.ids e he
  obtain rfl : programId = id := Json.str.inj (Option.some.inj (hid.symm.trans hid'))
  obtain ⟨hread, hname⟩ := (mem_protocols_iff h).mpr (List.mem_map_of_mem he)
  refine idMatch_known hread hname hplain.nonempty (knownId_eq h he hid) ?_ _
  intro other hother hne hknown
  obtain ⟨e', he', rfl⟩ := List.mem_map.mp ((mem_protocols_iff h).mp ⟨hother, hne⟩)
  obtain ⟨id', hid', -⟩ := h.ids e' he'
  rw [knownId_eq h he' hid'] at hknown
  refine h.distinctIds e' he' e he ?_
  rw [hid', hid, hknown]

end ById

section Both

variable {tools : Tools} {entries : List (String × Json)} {programId idl : String}

/-- The names and confidences that the loop over the ids can give. -/
theorem idMatch_found {p : String → Prop} {names : List String} {best : String × Nat}
    (hnames : ∀ name ∈ names, name ≠ "" → p name)
    (hbest : best.1 ≠ "" → p best.1 ∧ (best.2 = 75 ∨ best.2 = 100)) :
    let found := idMatch tools programId names best
    found.1 ≠ "" → p found.1 ∧ (found.2 = 75 ∨ found.2 = 100) := by
  induction names generalizing best with
  | nil => exact hbest
  | cons first rest ih =>
    obtain ⟨hfirst, hrest⟩ := List.forall_mem_cons.mp hnames
    rw [idMatch_cons]
    split_ifs with hskip hexact hpartial
    · exact ih hrest hbest
    · exact fun hne => ⟨hfirst hne, .inr rfl⟩
    · exact ih hrest fun hne => ⟨hfirst hne, .inl rfl⟩
    · exact ih hrest hbest

theorem detectByProgramId_found (h : IdDb tools.sigDb entries) {protocol : String} {byId : Nat}
    (hfound : detectByProgramId tools programId = (protocol, byId)) (hne : protocol ≠ "") :
    protocol ∈ entries.map Prod.fst ∧ (byId = 75 ∨ byId = 100) := by
  have hloop : ∀ found, idMatch tools programId (protocols tools) ("", 0) = found → found.1 ≠ "" →
      found.1 ∈ entries.map Prod.fst ∧ (found.2 = 75 ∨ found.2 = 100) := by
    rintro found rfl
    exact idMatch_found (fun _ hname hne => (mem_protocols_iff h).mp ⟨hname, hne⟩)
      (fun hempty => absurd rfl hempty)
  exact hloop (protocol, byId) hfound hne

theorem detectByInstructions_eq (tools : Tools) (idl : String) :
    let best := instructionMatch tools idl (protocols tools) ("", 0)
    detectByInstructions tools idl = (best.1, confidenceOf best.2) := rfl

theorem detectByInstructions_le : (detectByInstructions tools idl).2 ≤ 90 := by
  rw [detectByInstructions_eq]
  unfold confidenceOf
  split_ifs <;> simp

theorem detectByInstructions_found {protocol : String} {byInstr : Nat}
    (hfound : detectByInstructions tools idl = (protocol, byInstr)) (hne : protocol ≠ "") :
    byInstr = 50 ∨ byInstr = 70 ∨ byInstr = 90 := by
  rw [detectByInstructions_eq, instructionMatch_eq, Prod.mk.injEq] at hfound
  obtain ⟨hprotocol, hconfidence⟩ := hfound
  rcases foldl_keepLarger (instructionCount tools idl)
    ((protocols tools).filter (· ≠ "")) ("", 0) with ⟨-, hend⟩ | ⟨name, -, hpos, hend⟩
  · rw [hend] at hprotocol
    exact absurd hprotocol.symm hne
  · rw [← hconfidence, hend]
    unfold confidenceOf
    dsimp only at hpos ⊢
    split_ifs <;> omega

theorem bestMatch_known {protocol : String} (hprotocol : protocol ≠ "") {byInstr : String × Nat}
    (h : byInstr.2 ≤ 90) : (bestMatch (protocol, 100) byInstr).1 = protocol := by
  have hless : ¬ (byInstr.1 ≠ "" ∧ 0 < byInstr.2 ∧ 100 < byInstr.2) := fun hlarger => by omega
  have hbest : (if protocol ≠ "" ∧ 0 < 100 then (protocol, 100) else ("", 0)) = (protocol, 100) :=
    if_pos ⟨hprotocol, by decide⟩
  simp only [bestMatch, hbest, hless, if_false]
  split_ifs <;> rfl

theorem bestMatch_same {protocol : String} (hprotocol : protocol ≠ "") {byId byInstr : Nat}
    (hid : 0 < byId) : bestMatch (protocol, byId) (protocol, byInstr) =
      (protocol, (byId + byInstr) / 2) := by
  have hbest : (if protocol ≠ "" ∧ 0 < byId then (protocol, byId) else ("", 0)) =
      (protocol, byId) := if_pos ⟨hprotocol, hid⟩
  have hboth : protocol ≠ "" ∧ protocol ≠ "" := ⟨hprotocol, hprotocol⟩
  simp only [bestMatch, hbest, if_pos hboth, if_true]
  split_ifs <;> simp

end Both

section Report

variable {tools : Tools} {programId idl : String}

/-- The last line of the object is kept, and so is all that stands before it. -/
theorem captured_object {before : List Char} (h : '\x00' ∉ before) (after : List Char) :
    captured (before ++ (after ++ "\n\x7d\n".toList)) =
      before ++ (withoutNull after ++ "\n\x7d".toList) := by
  have hend : "\n\x7d\n".toList = ['\n', '\x7d'] ++ ['\n'] := by decide
  have hbrace : "\n\x7d".toList = ['\n'] ++ ['\x7d'] := by decide
  have hsame : withoutNull (before ++ (after ++ (['\n', '\x7d'] ++ ['\n']))) =
      before ++ (withoutNull after ++ ['\n']) ++ ['\x7d'] ++ ['\n'] := by
    have happend : ∀ a b, withoutNull (a ++ b) = withoutNull a ++ withoutNull b := fun a b =>
      List.filter_append a b
    rw [happend, happend, withoutNull_of_notMem h]
    simp [withoutNull]
  rw [captured, hend, hsame, List.rdropWhile_concat_pos _ _ _ (by simp),
    List.rdropWhile_concat_neg _ _ _ (by simp), hbrace]
  simp

/-- What the analysis prints begins with the program id, the protocol and the level. -/
theorem analyzeProtocol_reported {protocol : String} {confidence : Nat}
    (hbest : bestMatch (detectByProgramId tools programId) (detectByInstructions tools idl) =
      (protocol, confidence))
    (hprogram : '\x00' ∉ programId.toList) (hprotocol : '\x00' ∉ protocol.toList) :
    Reported (analyzeProtocol tools programId idl) programId protocol
      (confidenceLevel confidence) := by
  have hlevel : '\x00' ∉ (confidenceLevel confidence).toList := by
    unfold confidenceLevel
    split_ifs <;> decide
  let before := reportHead programId protocol (confidenceLevel confidence)
  have hbefore : '\x00' ∉ before.toList := by
    simp [before, reportHead, fieldLine, quoted, hprogram, hprotocol, hlevel]
  have htext : ∀ after : String, ("\x7b\n" ++ (fieldLine "program_id" (quoted programId) ++ ",\n" ++
      (fieldLine "protocol" (quoted protocol) ++ ",\n" ++
      (fieldLine "confidence" (quoted (confidenceLevel confidence)) ++ ",\n" ++ after))) ++
      "\n\x7d\n").toList = before.toList ++ (after.toList ++ "\n\x7d\n".toList) := by
    simp [before, reportHead]
  simp only [analyzeProtocol, hbest]
  rw [String.intercalate_cons_of_ne_nil (by simp), String.intercalate_cons_of_ne_nil (by simp),
    String.intercalate_cons_of_ne_nil (by simp), htext, captured_object hbefore,
    String.ofList_append, String.ofList_toList]
  exact ⟨_, rfl⟩

end Report

/-- A known program id decides the protocol; a protocol that the instruction names agree on gets the
mean of the two confidences. -/
theorem analysis_reports (tools : Tools) (programId idl : String) (entries : List (String × Json))
    (h : IdDb tools.sigDb entries) (hprogram : '\x00' ∉ programId.toList) :
    (∀ e ∈ entries, e.2.get? "program_id" = some (.str programId) →
      ∃ level, Reported (analyzeProtocol tools programId idl) programId e.1 level) ∧
    (∀ protocol byId byInstr, protocol ≠ "" → detectByProgramId tools programId = (protocol, byId) →
      detectByInstructions tools idl = (protocol, byInstr) →
      Averaged (analyzeProtocol tools programId idl) programId protocol byId byInstr) := by
  have hnull : ∀ name ∈ entries.map Prod.fst, '\x00' ∉ name.toList := by
    intro name hname hmem
    obtain ⟨e, he, rfl⟩ := List.mem_map.mp hname
    exact ((h.names e he).chars _ hmem).2 rfl
  refine ⟨fun e he hid => ?_, fun protocol byId byInstr hprotocol hbyId hbyInstr => ?_⟩
  · have hbest : (bestMatch (detectByProgramId tools programId)
        (detectByInstructions tools idl)).1 = e.1 := by
      rw [detectByProgramId_known h he hid]
      exact bestMatch_known (h.names e he).nonempty detectByInstructions_le
    cases hpair : bestMatch (detectByProgramId tools programId) (detectByInstructions tools idl) with
    | mk protocol confidence =>
      rw [hpair] at hbest
      obtain rfl : protocol = e.1 := hbest
      exact ⟨confidenceLevel confidence,
        analyzeProtocol_reported hpair hprogram (hnull e.1 (List.mem_map_of_mem he))⟩
  · obtain ⟨hmem, hid⟩ := detectByProgramId_found h hbyId hprotocol
    have hinstr := detectByInstructions_found hbyInstr hprotocol
    have hpos : 0 < byId := by omega
    refine ⟨?_, by omega, by omega, ?_⟩
    · refine analyzeProtocol_reported ?_ hprogram (hnull protocol hmem)
      rw [hbyId, hbyInstr, bestMatch_same hprotocol hpos]
    · rintro hother threshold (rfl | rfl) hle
      · unfold highConfidenceThreshold at hle ⊢
        omega
      · unfold mediumConfidenceThreshold at hle ⊢
        omega

section Samples

theorem swapTools_ids : IdDb swapTools.sigDb swapEntries where
  toDatabase := swapTools_db.toDatabase
  names e he := by
    rw [List.mem_singleton.mp he]
    exact ⟨by decide, by decide, by simp⟩
  ids e he := by
    rw [List.mem_singleton.mp he]
    exact ⟨"Amm111", rfl, by decide, by decide, by simp⟩
  distinctIds e he e' he' _ := by rw [List.mem_singleton.mp he, List.mem_singleton.mp he']

theorem swapTools_byId : detectByProgramId swapTools "Amm111" = ("amm", 100) :=
  detectByProgramId_known swapTools_ids List.mem_cons_self rfl

theorem swapTools_byInstr :
    detectByInstructions swapTools swapIdl = ("amm", 50) := by
  have hread : namesRead swapEntries = ["amm"] := by decide
  have hline : lineCount asciiChars swapTools swapEntries swapIdl "amm" = 1 := by decide
  rcases detectByInstructions_cases swapTools_db swapTools_prints (swapTools_finds _) with
    ⟨hzero, -⟩ | ⟨name, hlargest, -, hresult⟩
  · exact absurd (hzero "amm" (by simp [hread])) (by rw [hline]; decide)
  · obtain rfl : name = "amm" := by simpa [hread] using hlargest.mem
    rw [hresult, hline]
    rfl

end Samples

theorem analysis_reports_amm :
    (∃ level, Reported (analyzeProtocol swapTools "Amm111" swapIdl) "Amm111" "amm" level) ∧
      Averaged (analyzeProtocol swapTools "Amm111" swapIdl) "Amm111" "amm" 100 50 :=
  have h := analysis_reports swapTools "Amm111" swapIdl swapEntries swapTools_ids
    (by simp)
  ⟨h.1 ("amm", _) List.mem_cons_self rfl, h.2 "amm" 100 50 (by decide) swapTools_byId swapTools_byInstr⟩

/-- The known id alone has the level high; with one instruction name the level is medium. -/
theorem agreement_lowers : IdDb swapTools.sigDb swapEntries ∧
    detectByProgramId swapTools "Amm111" = ("amm", 100) ∧
    detectByInstructions swapTools swapIdl = ("amm", 50) ∧
    bestMatch (detectByProgramId swapTools "Amm111")
      (detectByInstructions swapTools swapIdl) = ("amm", 75) ∧
    confidenceLevel 100 = "high" ∧ confidenceLevel 75 = "medium" := by
  refine ⟨swapTools_ids, swapTools_byId, swapTools_byInstr, ?_, by decide, by decide⟩
  rw [swapTools_byId, swapTools_byInstr]
  decide

end SolanaAuditor.Fingerprint
