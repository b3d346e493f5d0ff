/- SolanaAuditor/Cpi/GraphIntegrity
   digest: For which source trees the graph of scripts/generate-cpi-graph.sh is well formed. -/

import SolanaAuditor.Cpi.CpiGraph

set_option autoImplicit false
set_option relaxedAutoImplicit false

namespace SolanaAuditor.Cpi

open SolanaAuditor.Lib

/-- Some node has the value of the key of an edge as its id. -/
def EndsInNode (nodes : List Json) (k : String) (edge : Json) : Prop :=
  ∃ node ∈ nodes, ∃ id, node.get? "id" = some id ∧ edge.get? k = some id

structure WellFormedGraph (discovered : List String) (nodes edges : List Json) (metadata : Json) :
    Prop where
  source : ∀ edge ∈ edges, EndsInNode nodes "source" edge
  target : ∀ edge ∈ edges, EndsInNode nodes "target" edge
  distinct : (nodes.map fun node => node.get? "id").Nodup
  discovered : ∀ pubkey ∈ discovered, programNode pubkey ∈ nodes
  programs : metadata.get? "total_programs" = some (.int nodes.length)
  calls : metadata.get? "total_cpi_calls" = some (.int edges.length)

/-- The written document is a well-formed graph. -/
def WellFormedSurface (discovered : List String) (doc : Json) : Prop :=
  ∃ nodes edges metadata, doc.get? "nodes" = some (.arr nodes) ∧
    doc.get? "edges" = some (.arr edges) ∧ doc.get? "metadata" = some metadata ∧
    WellFormedGraph discovered nodes edges metadata

variable {tonumber : String → Option Json} {tree : SourceTree}

section Records

variable (tonumber tree) in
/-- A record that makes no edge and discovers no program. -/
def Silent (record : String) : Prop :=
  (readFields record).file = "" ∨
    ((tree.jqFound = true → tonumber (readFields record).line = none) ∧
      ((readFields record).programId = "" ∨ (readFields record).programId = "unknown"))

/-- Nothing is in the graph yet. -/
def Graph.Empty (g : Graph) : Prop := g.edges = [] ∧ g.discovered = []

theorem edgeOf_eq_none (call : CallFields) (signer : Bool) :
    edgeOf tonumber tree call signer = none ↔
      (tree.jqFound = true → tonumber call.line = none) := by
  cases hjq : tree.jqFound <;> simp [edgeOf, hjq]

theorem addProgram_ne_nil (discovered : List String) (pubkey : String) :
    addProgram discovered pubkey ≠ [] := by
  unfold addProgram
  split
  next h => exact List.ne_nil_of_mem h
  next => simp

/-- A step keeps the graph empty exactly when it was and the record is silent. -/
theorem addRecord_empty (signer : CallFields → Bool) (g : Graph) (record : String) :
    (addRecord tonumber tree signer g record).Empty ↔ g.Empty ∧ Silent tonumber tree record := by
  unfold addRecord Silent
  generalize readFields record = call
  by_cases hfile : call.file = ""
  · simp [hfile]
  · have hedges : g.edges ++ (edgeOf tonumber tree call (signer call)).toList = [] ↔
        g.edges = [] ∧ (tree.jqFound = true → tonumber call.line = none) := by
      rw [List.append_eq_nil_iff, Option.toList_eq_nil_iff, edgeOf_eq_none]
    by_cases hprogram : call.programId ≠ "" ∧ call.programId ≠ "unknown"
    · have hne := addProgram_ne_nil g.discovered call.programId
      simp [Graph.Empty, hfile, hprogram, hne]
    · have hor : call.programId = "" ∨ call.programId = "unknown" := by
        by_contra hcon
        exact hprogram (not_or.mp hcon)
      simp only [Graph.Empty, hfile, if_false, if_neg hprogram, hedges, hor, and_true, false_or]
      exact and_right_comm

theorem foldl_addRecord_empty (signer : CallFields → Bool) (records : List String) (g : Graph) :
    (records.foldl (addRecord tonumber tree signer) g).Empty ↔
      g.Empty ∧ ∀ record ∈ records, Silent tonumber tree record := by
  induction records generalizing g with
  | nil => simp
  | cons record records ih =>
    rw [List.foldl_cons, ih, addRecord_empty, List.forall_mem_cons, and_assoc]

theorem graphOf_empty (scan : Scan) :
    (graphOf tonumber tree scan).Empty ↔
      ∀ record ∈ scan.invokes ++ scan.signedInvokes, Silent tonumber tree record := by
  have hstart : Graph.Empty ⟨[], []⟩ := ⟨rfl, rfl⟩
  rw [graphOf, foldl_addRecord_empty, foldl_addRecord_empty, List.forall_mem_append]
  simp [hstart]

/-- The target of every edge is a discovered program, or `unknown`. -/
def Graph.Targets (g : Graph) : Prop :=
  ∀ edge ∈ g.edges, ∃ target, edge.get? "target" = some (.str target) ∧
    (target = "unknown" ∨ target ∈ g.discovered)

theorem mem_addProgram {discovered : List String} {pubkey p : String} :
    p ∈ addProgram discovered pubkey ↔ p ∈ discovered ∨ p = pubkey := by
  unfold addProgram
  split
  next h =>
    refine ⟨.inl, ?_⟩
    rintro (hp | rfl)
    · exact hp
    · exact h
  next => simp

theorem addRecord_targets (signer : CallFields → Bool) {g : Graph} (h : g.Targets)
    (record : String) : (addRecord tonumber tree signer g record).Targets := by
  unfold addRecord
  generalize readFields record = call
  by_cases hfile : call.file = ""
  · simpa only [hfile, if_true] using h
  · simp only [hfile, if_false]
    intro edge hedge
    rcases List.mem_append.mp hedge with hedge | hedge
    · obtain ⟨target, htarget, hor⟩ := h edge hedge
      refine ⟨target, htarget, hor.imp_right fun hmem => ?_⟩
      split
      · exact mem_addProgram.mpr (.inl hmem)
      · exact hmem
    · obtain ⟨line, rfl⟩ : ∃ line, edge = edgeRecord call line (signer call) := by
        rw [Option.mem_toList, edgeOf] at hedge
        split at hedge
        · obtain ⟨line, -, hline⟩ := Option.map_eq_some_iff.mp hedge
          exact ⟨line, hline.symm⟩
        · simp at hedge
      refine ⟨_, rfl, ?_⟩
      by_cases hempty : call.programId = ""
      · exact .inl (by rw [if_pos hempty])
      · rw [if_neg hempty]
        by_cases hunknown : call.programId = "unknown"
        · exact .inl hunknown
        · rw [if_pos ⟨hempty, hunknown⟩]
          exact .inr (mem_addProgram.mpr (.inr rfl))

theorem foldl_addRecord_targets (signer : CallFields → Bool) (records : List String) {g : Graph}
    (h : g.Targets) : (records.foldl (addRecord tonumber tree signer) g).Targets := by
  induction records generalizing g with
  | nil => exact h
  | cons record records ih => exact ih (addRecord_targets signer h record)

theorem graphOf_targets (scan : Scan) : (graphOf tonumber tree scan).Targets :=
  foldl_addRecord_targets _ _ (foldl_addRecord_targets _ _ (by simp [Graph.Targets]))

end Records

section Nodes

/-- Only the main node survives: the loop over the programs assigns in a subshell. -/
theorem nodesOf_eq (discovered : List String) :
    nodesOf tree discovered = if tree.jqFound then [mainNode] else [] := rfl

theorem programNode_ne_mainNode (pubkey : String) : programNode pubkey ≠ mainNode := by
  intro h
  have hlabel : pubkey = "target_program" :=
    Json.str.inj (Option.some.inj (congrArg (fun node => node.get? "label") h))
  have hid : getProgramName pubkey = "program" :=
    Json.str.inj (Option.some.inj (congrArg (fun node => node.get? "id") h))
  rw [hlabel] at hid
  exact absurd hid (by decide)

theorem eq_mainNode_of_mem {node : Json} {discovered : List String}
    (h : node ∈ nodesOf tree discovered) : node = mainNode := by
  rw [nodesOf_eq] at h
  split at h
  · exact List.mem_singleton.mp h
  · simp at h

/-- The document is well formed exactly where nothing is in the graph. -/
theorem cpiSurface_wellFormed_iff {g : Graph} (hg : g.Targets) :
    WellFormedSurface g.discovered (cpiSurface tree g) ↔ g.Empty := by
  constructor
  · rintro ⟨nodes, edges, metadata, hnodes, hedges, -, hgraph⟩
    obtain rfl : nodesOf tree g.discovered = nodes := by simpa [cpiSurface, Dict.get?] using hnodes
    obtain rfl : g.edges = edges := by simpa [cpiSurface, Dict.get?] using hedges
    have hnone : g.discovered = [] := by
      refine List.eq_nil_iff_forall_not_mem.mpr fun pubkey hpubkey => ?_
      exact programNode_ne_mainNode pubkey
        (eq_mainNode_of_mem (hgraph.discovered pubkey hpubkey))
    refine ⟨List.eq_nil_iff_forall_not_mem.mpr fun edge hedge => ?_, hnone⟩
    obtain ⟨node, hnode, id, hid, htarget⟩ := hgraph.target edge hedge
    obtain ⟨target, htarget', hor⟩ := hg edge hedge
    obtain rfl := eq_mainNode_of_mem hnode
    rw [hnone] at hor
    have hprogram : id = .str "program" := (Option.some.inj hid).symm
    have hunknown : target = "unknown" := by simpa using hor
    rw [htarget, hprogram, hunknown] at htarget'
    simp at htarget'
  · rintro ⟨hedges, hdiscovered⟩
    refine ⟨_, _, _, rfl, rfl, rfl, ?_⟩
    rw [hedges, hdiscovered]
    refine ⟨by simp, by simp, ?_, by simp, ?_, ?_⟩
    · rw [nodesOf_eq]
      split <;> simp
    · have htotal : total tree (nodesOf tree []) = (nodesOf tree []).length := by
        rw [nodesOf_eq, total]
        cases tree.jqFound <;> rfl
      rw [← htotal]
      rfl
    · have htotal : total tree [] = 0 := by
        rw [total]
        cases tree.jqFound <;> rfl
      show some (Json.int (total tree [])) = _
      rw [htotal]
      rfl

end Nodes

section Scans

theorem mem_callRecords {kind : CallKind} {f : SourceFile} {calls : List (Nat × List Char)}
    {records : List String} (h : callRecords kind f calls = some records) (record : String) :
    record ∈ records ↔ ∃ c ∈ calls, callRecord kind f c = some record := by
  induction calls generalizing records with
  | nil =>
    cases h
    simp
  | cons c calls ih =>
    simp only [callRecords, Option.bind_eq_bind, Option.bind_eq_some_iff, Option.pure_def,
      Option.some.injEq] at h
    obtain ⟨first, hfirst, rest, hrest, rfl⟩ := h
    rw [List.mem_cons, ih hrest, List.exists_mem_cons_iff, hfirst, Option.some.injEq, eq_comm]

/-- The records of a file are those of its calls outside comments. -/
theorem mem_scanCalls {kind : CallKind} {f : SourceFile} {records : List String}
    (h : scanCalls kind f = some records) (record : String) :
    record ∈ records ↔ ∃ c ∈ liveCalls kind f, callRecord kind f c = some record := by
  unfold scanCalls at h
  split at h
  next hempty =>
    have hnone : liveCalls kind f = [] := by
      rw [liveCalls, List.isEmpty_iff.mp hempty, List.filter_nil]
    cases h
    simp [hnone]
  next =>
    split at h
    · cases h
    · exact mem_callRecords h record

theorem mem_scanFiles {files : List SourceFile} {scan : Scan} (h : scanFiles files = some scan)
    (record : String) :
    (record ∈ scan.invokes ↔ ∃ f ∈ files, ∃ c ∈ liveCalls .invoke f,
      callRecord .invoke f c = some record) ∧
    (record ∈ scan.signedInvokes ↔ ∃ f ∈ files, ∃ c ∈ liveCalls .invokeSigned f,
      callRecord .invokeSigned f c = some record) := by
  induction files generalizing scan with
  | nil =>
    cases h
    simp
  | cons f files ih =>
    simp only [scanFiles, Option.bind_eq_bind, Option.bind_eq_some_iff, Option.pure_def,
      Option.some.injEq] at h
    obtain ⟨invokes, hinvokes, signed, hsigned, -, -, rest, hrest, rfl⟩ := h
    obtain ⟨hi, hs⟩ := ih hrest
    constructor
    · rw [List.mem_append, List.exists_mem_cons_iff, mem_scanCalls hinvokes, hi]
    · rw [List.mem_append, List.exists_mem_cons_iff, mem_scanCalls hsigned, hs]

theorem callRecords_some {kind : CallKind} {f : SourceFile} {calls : List (Nat × List Char)}
    {records : List String} (h : callRecords kind f calls = some records) :
    ∀ c ∈ calls, ∃ record, callRecord kind f c = some record := by
  induction calls generalizing records with
  | nil => simp
  | cons c calls ih =>
    simp only [callRecords, Option.bind_eq_bind, Option.bind_eq_some_iff] at h
    obtain ⟨first, hfirst, rest, hrest, -⟩ := h
    exact List.forall_mem_cons.mpr ⟨⟨first, hfirst⟩, ih hrest⟩

theorem scanCalls_some {kind : CallKind} {f : SourceFile} {records : List String}
    (h : scanCalls kind f = some records) :
    ∀ c ∈ liveCalls kind f, ∃ record, callRecord kind f c = some record := by
  unfold scanCalls at h
  split at h
  next hempty => simp [liveCalls, List.isEmpty_iff.mp hempty]
  next =>
    split at h
    · cases h
    · exact callRecords_some h

/-- A scan that gets through has a record of every call. -/
theorem scanFiles_some {files : List SourceFile} {scan : Scan} (h : scanFiles files = some scan) :
    ∀ f ∈ files, ∀ kind, (kind = .invoke ∨ kind = .invokeSigned) →
      ∀ c ∈ liveCalls kind f, ∃ record, callRecord kind f c = some record := by
  induction files generalizing scan with
  | nil => simp
  | cons f files ih =>
    simp only [scanFiles, Option.bind_eq_bind, Option.bind_eq_some_iff] at h
    obtain ⟨invokes, hinvokes, signed, hsigned, -, -, rest, hrest, -⟩ := h
    refine List.forall_mem_cons.mpr ⟨?_, ih hrest⟩
    rintro kind (rfl | rfl)
    · exact scanCalls_some hinvokes
    · exact scanCalls_some hsigned

end Scans

section PlainPaths

theorem not_bar_of_digits (n : Nat) : ∀ c ∈ (toString n).toList, (c == '|') = false := by
  intro c hc
  have hdigit : c.isDigit = true := by
    have htext : (toString n).toList = Nat.toDigits 10 n := Nat.toList_repr
    rw [htext] at hc
    exact Nat.isDigit_of_mem_toDigits (by decide) (by decide) hc
  rw [beq_eq_false_iff_ne]
  rintro rfl
  simp at hdigit

/-- A path without bars comes back from its record, and so does the line number. -/
theorem readFields_recordText (kind : CallKind) {f : SourceFile} (n : Nat) (programId : String)
    (hpath : '|' ∉ f.path.toList) :
    (readFields (recordText kind f n programId)).file = f.path ∧
      (readFields (recordText kind f n programId)).line = toString n := by
  have htext : (recordText kind f n programId).toList = kind.tag.toList ++ '|' ::
      (f.path.toList ++ '|' :: ((toString n).toList ++ '|' ::
        (programId.toList ++ '|' :: (functionOf f).toList))) := by
    simp [recordText]
  have htag : ∀ c ∈ kind.tag.toList, (c == '|') = false := by
    cases kind <;> simp [CallKind.tag]
  have hbar : ∀ c ∈ f.path.toList, (c == '|') = false := by
    intro c hc
    rw [beq_eq_false_iff_ne]
    exact fun h => hpath (h ▸ hc)
  have hsplit := List.splitOnP_append_cons_of_forall_mem htag '|' (by simp)
    (f.path.toList ++ '|' :: ((toString n).toList ++ '|' ::
        (programId.toList ++ '|' :: (functionOf f).toList)))
  rw [List.splitOnP_append_cons_of_forall_mem hbar '|' (by simp),
    List.splitOnP_append_cons_of_forall_mem (not_bar_of_digits n) '|' (by simp), ← htext] at hsplit
  rw [readFields, hsplit]
  exact ⟨String.ofList_toList, String.ofList_toList⟩

/-- A call in a file with a plain path is never silent: it makes an edge. -/
theorem not_silent_of_plain {kind : CallKind} {f : SourceFile} {c : Nat × List Char}
    {record : String} (hjq : tree.jqFound = true) (hpath : '|' ∉ f.path.toList)
    (hne : f.path ≠ "") (hnumber : tonumber (toString c.1) ≠ none)
    (h : callRecord kind f c = some record) : ¬ Silent tonumber tree record := by
  obtain ⟨programId, -, rfl⟩ := Option.map_eq_some_iff.mp h
  obtain ⟨hfile, hline⟩ := readFields_recordText kind c.1 programId hpath
  rintro (hempty | ⟨hnone, -⟩)
  · exact hne (hfile.symm.trans hempty)
  · rw [hline] at hnone
    exact hnumber (hnone hjq)

end PlainPaths

/-- No call outside a comment in a scanned file makes an edge or discovers a program. -/
def Quiet (tonumber : String → Option Json) (tree : SourceTree) : Prop :=
  ∀ f ∈ scannedFiles tree, ∀ kind, (kind = .invoke ∨ kind = .invokeSigned) →
    ∀ c ∈ liveCalls kind f, ∀ record, callRecord kind f c = some record →
      Silent tonumber tree record

theorem graphOf_empty_iff_quiet {scan : Scan} (h : scanTree tree = some scan) :
    (graphOf tonumber tree scan).Empty ↔ Quiet tonumber tree := by
  have hscan : scanFiles (scannedFiles tree) = some scan := by
    unfold scanTree at h
    split at h
    · cases h
    · exact h
  rw [graphOf_empty, Quiet]
  constructor
  · rintro hsilent f hf kind (rfl | rfl) c hc record hrecord
    · have hmem := (mem_scanFiles hscan record).1.mpr ⟨f, hf, c, hc, hrecord⟩
      exact hsilent record (List.mem_append_left _ hmem)
    · have hmem := (mem_scanFiles hscan record).2.mpr ⟨f, hf, c, hc, hrecord⟩
      exact hsilent record (List.mem_append_right _ hmem)
  · intro hquiet record hmem
    rcases List.mem_append.mp hmem with hmem | hmem
    · obtain ⟨f, hf, c, hc, hrecord⟩ := (mem_scanFiles hscan record).1.mp hmem
      exact hquiet f hf .invoke (.inl rfl) c hc record hrecord
    · obtain ⟨f, hf, c, hc, hrecord⟩ := (mem_scanFiles hscan record).2.mp hmem
      exact hquiet f hf .invokeSigned (.inr rfl) c hc record hrecord

/-- A written graph is well formed exactly where no call makes an edge or discovers a program. -/
theorem cpi_surface_wellFormed_iff (tonumber : String → Option Json) (tree : SourceTree)
    (discovered : List String) (doc : Json)
    (h : generateCpiGraph tonumber tree = some (discovered, doc)) :
    WellFormedSurface discovered doc ↔ Quiet tonumber tree := by
  simp only [generateCpiGraph, Option.bind_eq_bind, Option.bind_eq_some_iff, Option.pure_def,
    Option.some.injEq, Prod.mk.injEq] at h
  obtain ⟨scan, hscan, rfl, rfl⟩ := h
  rw [cpiSurface_wellFormed_iff (graphOf_targets scan), graphOf_empty_iff_quiet hscan]

/-- With plain paths the graph is well formed exactly where every call is in a comment. -/
theorem quiet_iff_no_calls {scan : Scan} (hscan : scanTree tree = some scan)
    (hjq : tree.jqFound = true) (hnumber : ∀ n : Nat, tonumber (toString n) ≠ none)
    (hpaths : ∀ f ∈ scannedFiles tree, '|' ∉ f.path.toList) :
    Quiet tonumber tree ↔ ∀ f ∈ scannedFiles tree, ∀ kind,
      (kind = .invoke ∨ kind = .invokeSigned) → liveCalls kind f = [] := by
  have hfiles : scanFiles (scannedFiles tree) = some scan := by
    unfold scanTree at hscan
    split at hscan
    · cases hscan
    · exact hscan
  constructor
  · intro hquiet f hf kind hkind
    refine List.eq_nil_iff_forall_not_mem.mpr fun c hc => ?_
    obtain ⟨record, hrecord⟩ := scanFiles_some hfiles f hf kind hkind c hc
    have hne : f.path ≠ "" := by
      rintro hempty
      have hkept := (List.mem_filter.mp hf).2
      simp [hempty] at hkept
    exact not_silent_of_plain hjq (hpaths f hf) hne (hnumber c.1) hrecord
      (hquiet f hf kind hkind c hc record hrecord)
  · intro hnone f hf kind hkind c hc
    simp [hnone f hf kind hkind] at hc

/-- `tonumber` on the first line number. -/
def sampleNumber (text : String) : Option Json := if text = "1" then some (.int 1) else none

def sampleTree (rustFiles : List SourceFile) : SourceTree where
  programsDir := true
  rustFiles := rustFiles
  targetProgramId := ""
  timestamp := "2026-01-01T00:00:00Z"
  jqFound := true

theorem cpi_surface_wellFormed_iff_no_files :
    WellFormedSurface [] (cpiSurface (sampleTree []) ⟨[], []⟩) :=
  (cpi_surface_wellFormed_iff sampleNumber (sampleTree []) [] _ rfl).mpr
    (by simp [Quiet, scannedFiles, selectedFiles, sampleTree])

def sampleLine : List Char := ['i', 'n', 'v', 'o', 'k', 'e', '(', ')', '?', ';']

def sampleFile : SourceFile := ⟨"/p/lib.rs", [sampleLine]⟩

/-- The one call of the file leads to no node. -/
theorem one_call_not_wellFormed : ∃ discovered doc,
    generateCpiGraph sampleNumber (sampleTree [sampleFile]) = some (discovered, doc) ∧
      ¬ WellFormedSurface discovered doc := by
  have hpath : sampleFile.path.toList = ['/', 'p', '/', 'l', 'i', 'b', '.', 'r', 's'] := by
    simp [sampleFile]
  have hscanned : scannedFiles (sampleTree [sampleFile]) = [sampleFile] := by
    have htests : containsWord "/tests/" ['/', 'p', '/', 'l', 'i', 'b', '.', 'r', 's'] = false := by
      decide
    have htarget : containsWord "/target/" ['/', 'p', '/', 'l', 'i', 'b', '.', 'r', 's'] = false :=
      by decide
    simp [scannedFiles, selectedFiles, sampleTree, hpath, htests, htarget]
  have hinvoke : callLines .invoke sampleFile = [(1, sampleLine)] := by decide
  have hsigned : callLines .invokeSigned sampleFile = [] := by decide
  have hcontext : callLines .cpiContext sampleFile = [] := by decide
  have hlive : liveCalls .invoke sampleFile = [(1, sampleLine)] := by decide
  have hkey : containsWord "program_id.key()" sampleLine = false := by decide
  have hrecord : callRecord .invoke sampleFile (1, sampleLine) =
      some (recordText .invoke sampleFile 1 "") := by
    simp [callRecord, programIdAt, hkey]
  have hscan : scanTree (sampleTree [sampleFile]) =
      some ⟨[recordText .invoke sampleFile 1 ""], []⟩ := by
    rw [scanTree, hscanned]
    simp [sampleTree, scanFiles, scanCalls, scanContexts, hinvoke, hsigned, hcontext, hlive,
      callRecords, hrecord]
  refine ⟨_, _, by rw [generateCpiGraph, hscan]; rfl, fun hwf => ?_⟩
  have hquiet := (graphOf_empty_iff_quiet hscan).mp
    ((cpiSurface_wellFormed_iff (graphOf_targets _)).mp hwf)
  have hsilent := hquiet sampleFile (by simp [hscanned]) .invoke (.inl rfl) (1, sampleLine)
    (by simp [hlive]) _ hrecord
  have hbar : '|' ∉ sampleFile.path.toList := by rw [hpath]; decide
  exact not_silent_of_plain rfl hbar (by decide) (by decide) hrecord hsilent

end SolanaAuditor.Cpi
