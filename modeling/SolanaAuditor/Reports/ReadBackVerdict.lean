/- SolanaAuditor/Reports/ReadBackVerdict
   digest: Which rendered reports the report checks accept. -/

import SolanaAuditor.Reports.ReadBack

set_option autoImplicit false
set_option relaxedAutoImplicit false

namespace SolanaAuditor.Reports.ReportCheck

open SolanaAuditor.Lib SolanaAuditor.Lib.Regex SolanaAuditor.Reports.AuditReport

/-- The report checks find in a report what they read in the document. -/
structure ReadBack (text : PyText) (chars : PyChars) (raw : PyDict) (report : String) : Prop where
  counts : checkReport text chars (.obj raw) report = .ok 0
  scores : checkCvssConsistency text chars (.obj raw) report = .ok 0

/-- The count in the row that is found for a level; without a row it is 0. -/
def rowCount (chars : PyChars) : Option (List Char) → Py Nat
  | none => return 0
  | some digits => chars.int digits

/-- The first rows among some texts show the counts of the findings. -/
def RowsShown (text : PyText) (chars : PyChars) (texts : List String) (findings : List PyDict) :
    Prop :=
  ∀ p ∈ levels, rowCount chars (texts.findSome? fun v => read (rowPattern chars p.2) v.toList) =
    .ok (lowerCount text findings p.1)

/-- One of the texts has the mark in front of which `check_cvss_consistency` finds no score. -/
def Marked (texts : List String) : Prop := ∃ s ∈ texts, isSubstring "**CVSS**" s = true

section Counts

variable {text : PyText} {chars : PyChars} {report : List Char} {findings : List PyDict}

theorem pyGet_findings {raw : PyDict}
    (hraw : Dict.get? raw "findings" = some (.arr (findings.map Json.obj))) :
    pyGet (.obj raw) "findings" (.arr []) = .ok (.arr (findings.map Json.obj)) := by
  rw [pyGet, hraw]
  rfl

theorem parseLevels_absent {ls : List (String × String)} {counts : PyDict}
    (h : parseLevels chars report ls = .ok counts) {sev : String} (hsev : sev ∉ ls.map Prod.fst) :
    Dict.get? counts sev = none := by
  induction ls generalizing counts with
  | nil =>
    obtain rfl := Except.ok.inj h
    rfl
  | cons p ls ih =>
    simp only [List.map_cons, List.mem_cons, not_or] at hsev
    unfold parseLevels at h
    split at h
    · exact ih h hsev.2
    · simp only [Py.bind_eq_ok] at h
      obtain ⟨count, -, rest, hrest, h⟩ := h
      obtain rfl := Except.ok.inj h
      rw [Dict.get?_cons, if_neg (Ne.symm hsev.1), ih hrest hsev.2]

/-- Where the counts are read, every level has the count of its row. -/
theorem parseLevels_get {ls : List (String × String)} (hnodup : (ls.map Prod.fst).Nodup)
    {counts : PyDict} (h : parseLevels chars report ls = .ok counts) {p : String × String}
    (hp : p ∈ ls) : ∃ n, rowCount chars (search (rowPattern chars p.2) report) = .ok n ∧
      (Dict.get? counts p.1).getD (.int 0) = .int n := by
  induction ls generalizing counts with
  | nil => simp at hp
  | cons q ls ih =>
    rw [List.map_cons, List.nodup_cons] at hnodup
    unfold parseLevels at h
    split at h
    · rename_i hnone
      rcases List.mem_cons.mp hp with rfl | hp
      · exact ⟨0, by rw [hnone]; rfl, by rw [parseLevels_absent h hnodup.1]; rfl⟩
      · exact ih hnodup.2 h hp
    · rename_i digits hsome
      simp only [Py.bind_eq_ok] at h
      obtain ⟨count, hcount, rest, hrest, h⟩ := h
      obtain rfl := Except.ok.inj h
      rcases List.mem_cons.mp hp with rfl | hp
      · exact ⟨count, by rw [hsome]; exact hcount, by simp⟩
      · have hne : q.1 ≠ p.1 := fun heq =>
          hnodup.1 (heq ▸ List.mem_map_of_mem hp)
        rw [Dict.get?_cons, if_neg hne]
        exact ih hnodup.2 hrest hp

theorem parseLevels_returns {ls : List (String × String)}
    (h : ∀ p ∈ ls, ∃ n, rowCount chars (search (rowPattern chars p.2) report) = .ok n) :
    ∃ counts, parseLevels chars report ls = .ok counts := by
  induction ls with
  | nil => exact ⟨[], rfl⟩
  | cons p ls ih =>
    obtain ⟨⟨n, hn⟩, hrest⟩ := List.forall_mem_cons.mp h
    obtain ⟨counts, hcounts⟩ := ih hrest
    unfold parseLevels
    cases hsearch : search (rowPattern chars p.2) report with
    | none => exact ⟨counts, hcounts⟩
    | some digits =>
      rw [hsearch] at hn
      have hint : chars.int digits = .ok n := hn
      exact ⟨(p.1, .int n) :: counts, by simp only [hint, hcounts]; rfl⟩

/-- `check_report` accepts exactly when the row of every level shows its count. -/
theorem checkReport_eq_zero {raw : PyDict} {report : String}
    (hraw : Dict.get? raw "findings" = some (.arr (findings.map Json.obj)))
    (htexts : ∀ f ∈ findings, TextSeverity f) :
    checkReport text chars (.obj raw) report = .ok 0 ↔ ∀ p ∈ levels,
      rowCount chars (read (rowPattern chars p.2) report.toList) =
        .ok (lowerCount text findings p.1) := by
  obtain ⟨expected, hexpected, hget⟩ :=
    SeverityCounts.expectedCounts_ok (pyGet_findings hraw) (lowered_severities text htexts)
  have hsevs : SeverityCounts.severities = levels.map Prod.fst := rfl
  have hcount : ∀ p ∈ levels,
      (Dict.get? expected p.1).getD 0 = lowerCount text findings p.1 := by
    intro p hp
    rw [hget p.1 (hsevs ▸ List.mem_map_of_mem hp), Option.getD_some, count_lowered]
  have hnodup : (levels.map Prod.fst).Nodup := by decide
  unfold checkReport
  rw [hexpected]
  constructor
  · intro h p hp
    simp only [Py.bind_eq_ok] at h
    obtain ⟨_, hexpected', counts, hcounts, h⟩ := h
    obtain rfl := Except.ok.inj hexpected'
    have hnil : SeverityCounts.mismatches expected counts = [] := by
      by_contra hne
      simp [hne, pure, Except.pure] at h
    obtain ⟨n, hn, hvalue⟩ := parseLevels_get hnodup hcounts hp
    have hkey := SeverityCounts.mismatches_eq_nil.mp hnil p.1 (hsevs ▸ List.mem_map_of_mem hp)
    rw [hvalue, hcount p hp] at hkey
    have hcounted : n = lowerCount text findings p.1 := by
      simpa [pyKey] using hkey
    rw [← hcounted]
    exact hn
  · intro h
    obtain ⟨counts, hcounts⟩ := parseLevels_returns fun p hp => ⟨_, h p hp⟩
    have hnil : SeverityCounts.mismatches expected counts = [] := by
      rw [SeverityCounts.mismatches_eq_nil]
      intro sev hsev
      obtain ⟨p, hp, rfl⟩ := List.mem_map.mp (hsevs ▸ hsev)
      obtain ⟨n, hn, hvalue⟩ := parseLevels_get hnodup hcounts hp
      obtain rfl := Except.ok.inj (hn.symm.trans (h p hp))
      rw [hvalue, hcount p hp]
      rfl
    have hparse : parseReportCounts chars (universalNewlines report.toList) = .ok counts := hcounts
    simp [hparse, hnil, bind, Except.bind, pure, Except.pure]

end Counts

section Scores

variable {text : PyText} {chars : PyChars} {findings : List PyDict}

theorem untilStop_front (prev : Char) (s : List Char) : untilStop prev s <+: s := by
  induction s generalizing prev with
  | nil => exact List.prefix_refl []
  | cons c s ih =>
    unfold untilStop
    split_ifs
    · exact List.nil_prefix
    · exact List.cons_prefix_cons.mpr ⟨rfl, ih c⟩

theorem findSection_within {head report s : List Char} (h : findSection head report = some s) :
    s <:+: report := by
  induction report with
  | nil => simp [findSection] at h
  | cons c report ih =>
    unfold findSection at h
    split_ifs at h with hhead
    · obtain rfl := Option.some.inj h
      obtain ⟨rest, hrest⟩ := List.isPrefixOf_iff_prefix.mp hhead
      rw [← hrest, List.drop_left]
      exact ((List.prefix_append_right_inj head).mpr (untilStop_front ':' rest)).isInfix
    · exact (ih h).trans (List.suffix_cons c report).isInfix

theorem fits_literally {mark : String} {w : List Char} :
    Fits (literally mark) w ↔ w = mark.toList := by
  have heq : (fun b c : Char => (c == b) = true) = Eq := by
    funext b c
    exact propext (beq_iff_eq.trans eq_comm)
  rw [literally, fits_classes, heq, List.forall₂_eq_eq_eq]
  exact eq_comm

theorem occurs_mark {s : List Char} : Occurs markPattern s ↔ "**CVSS**".toList <:+: s := by
  constructor
  · rintro ⟨a, w, b, rfl, hw⟩
    obtain rfl := fits_literally.mp hw
    exact ⟨a, b, by simp⟩
  · rintro ⟨a, b, rfl⟩
    exact ⟨a, _, b, by simp, fits_literally.mpr rfl⟩

theorem occurs_mark_of_score {s : List Char} (h : Occurs (scorePattern chars) s) :
    Occurs markPattern s := by
  obtain ⟨a, w, b, rfl, hw⟩ := h
  have hpieces : (scorePattern chars).pieces = markPattern.pieces ++
      (literally ":" ++ [.many chars.isSpace] ++ (scorePattern chars).group) := rfl
  rw [hpieces, fits_append] at hw
  obtain ⟨u, v, rfl, hu, -⟩ := hw
  exact ⟨a, u, v ++ b, by simp, hu⟩

theorem prefix_of_newlines {w s : List Char} (hw : '\n' ∉ w) (h : w <+: universalNewlines s) :
    w <+: s := by
  induction s generalizing w with
  | nil => exact h
  | cons c s ih =>
    cases w with
    | nil => exact List.nil_prefix
    | cons d w =>
      rw [List.mem_cons, not_or] at hw
      have hline : ∀ t, ¬ d :: w <+: '\n' :: t := fun t hd =>
        hw.1 (List.cons_prefix_cons.mp hd).1.symm
      unfold universalNewlines at h
      split_ifs at h with hcr hnewline
      · obtain ⟨t, rfl⟩ := List.head?_eq_some_iff.mp hnewline
        rw [newlines_cons (by decide)] at h
        exact absurd h (hline _)
      · exact absurd h (hline _)
      · obtain ⟨rfl, htail⟩ := List.cons_prefix_cons.mp h
        exact List.cons_prefix_cons.mpr ⟨rfl, ih hw.2 htail⟩

/-- What stands on one line of a text as it is read stands in the text as it is written. -/
theorem infix_of_newlines {w s : List Char} (hw : '\n' ∉ w) (h : w <:+: universalNewlines s) :
    w <:+: s := by
  induction s with
  | nil => exact h
  | cons c s ih =>
    have htail : w <:+: universalNewlines s → w <:+: c :: s := fun hrest =>
      (ih hrest).trans (List.suffix_cons c s).isInfix
    have hstep : universalNewlines (c :: s) = universalNewlines s ∨
        ∃ d, universalNewlines (c :: s) = d :: universalNewlines s := by
      rw [universalNewlines]
      split_ifs
      · exact .inl rfl
      · exact .inr ⟨_, rfl⟩
      · exact .inr ⟨_, rfl⟩
    rcases hstep with hskip | ⟨d, hd⟩
    · exact htail (hskip ▸ h)
    · rcases List.infix_cons_iff.mp (hd ▸ h) with hprefix | hinfix
      · exact (prefix_of_newlines hw (hd ▸ hprefix)).isInfix
      · exact htail hinfix

/-- Where the score of a finding is read from its section, the report has the mark. -/
theorem mark_of_cvssDiffs {report : List Char} {f : PyDict} (hf : Reportable f)
    (hnone : text.format (f.get "cvss") ≠ "None")
    (h : cvssDiffs text chars report f = .ok []) : Occurs markPattern report := by
  obtain ⟨fid, hid⟩ := hf.id
  have hfid : f.get "id" = .str fid := by simp [PyDict.get, hid]
  have hscore : ¬ Fits (scorePattern chars).pieces [] :=
    not_fits_nil (p := (· == '*')) List.mem_cons_self
  unfold cvssDiffs at h
  simp only [hfid] at h
  cases hsection : findSection (sectionHead fid) report with
  | none =>
    simp only [hsection] at h
    exact absurd (Except.ok.inj h) (List.cons_ne_nil _ _)
  | some sectionText =>
    simp only [hsection] at h
    have hdiffs := (List.append_eq_nil_iff.mp (Except.ok.inj h)).1
    have hfound : search (scorePattern chars) sectionText ≠ none := by
      intro hsearch
      rw [hsearch] at hdiffs
      simp [groupText, hnone] at hdiffs
    have hoccurs : Occurs (scorePattern chars) sectionText := by
      by_contra hnot
      exact hfound ((search_eq_none hscore).mpr hnot)
    rw [occurs_mark]
    exact (occurs_mark.mp (occurs_mark_of_score hoccurs)).trans (findSection_within hsection)

theorem checkCvssConsistency_nil {raw : PyDict} {report : String}
    (hraw : Dict.get? raw "findings" = some (.arr [])) :
    checkCvssConsistency text chars (.obj raw) report = .ok 0 := by
  rw [checkCvssConsistency, pyGet, hraw]
  rfl

/-- A list that is not empty is accepted only where the report has the mark. -/
theorem mark_of_checkCvssConsistency {raw : PyDict} {report : String} {f : PyDict}
    (hraw : Dict.get? raw "findings" = some (.arr ((f :: findings).map Json.obj)))
    (hf : Reportable f) (hnone : text.format (f.get "cvss") ≠ "None")
    (h : checkCvssConsistency text chars (.obj raw) report = .ok 0) :
    read markPattern report.toList ≠ none := by
  have hrows : pyRows (.arr ((f :: findings).map Json.obj)) = .ok (f :: findings) :=
    pyDicts_map_obj _
  simp only [checkCvssConsistency, Py.bind_eq_ok] at h
  obtain ⟨v, hv, rows, hrows', diffs, hdiffs, h⟩ := h
  obtain rfl := Except.ok.inj ((pyGet_findings hraw).symm.trans hv)
  obtain rfl := Except.ok.inj (hrows.symm.trans hrows')
  have hempty : diffs = [] := by
    by_contra hne
    simp [hne, pure, Except.pure] at h
  simp only [allCvssDiffs, Py.bind_eq_ok] at hdiffs
  obtain ⟨first, hfirst, rest, -, hdiffs⟩ := hdiffs
  obtain ⟨rfl, -⟩ := List.append_eq_nil_iff.mp ((Except.ok.inj hdiffs).trans hempty)
  intro hread
  have hmark : ¬ Fits markPattern.pieces [] := (Reader.mark : Reader chars markPattern).not_fits_nil
  exact (search_eq_none hmark).mp hread (mark_of_cvssDiffs hf hnone hfirst)

end Scores

/-- A report of an empty list is read back exactly when the given texts show no other counts. A
report of other findings is read back only where the given texts have the mark themselves. -/
theorem read_back_iff (text : PyText) (chars : PyChars) (generated : String) (raw : PyDict)
    (findings : List PyDict) (report : String) (hcase : LevelCasing text)
    (hnumbers : ∀ v, isNumber v = true → text.str v ≠ "None") (hchars : AsciiChars chars)
    (hfindings : ∀ f ∈ findings, Reportable f)
    (hraw : Dict.get? raw "findings" = some (.arr (findings.map Json.obj)))
    (hreport : renderReport text generated raw findings = .ok report) :
    (findings = [] → (ReadBack text chars raw report ↔
      RowsShown text chars (givenTexts text generated raw findings) findings)) ∧
    (findings ≠ [] → ReadBack text chars raw report →
      RowsShown text chars (givenTexts text generated raw findings) findings ∧
        Marked (givenTexts text generated raw findings)) := by
  have htexts : ∀ f ∈ findings, TextSeverity f := by
    intro f hf v hv
    obtain ⟨p, -, hseverity⟩ := (hfindings f hf).severity
    exact ⟨p.2, Option.some.inj (hv.symm.trans hseverity)⟩
  have hrows : checkReport text chars (.obj raw) report = .ok 0 ↔
      RowsShown text chars (givenTexts text generated raw findings) findings := by
    rw [checkReport_eq_zero hraw htexts]
    refine forall₂_congr fun p hp => ?_
    rw [read_report (.row hp) hchars hcase hfindings hreport]
  constructor
  · rintro rfl
    exact ⟨fun h => hrows.mp h.counts, fun h => ⟨hrows.mpr h, checkCvssConsistency_nil hraw⟩⟩
  · intro hne hback
    refine ⟨hrows.mp hback.counts, ?_⟩
    cases findings with
    | nil => exact absurd rfl hne
    | cons f rest =>
      have hf : Reportable f := hfindings f List.mem_cons_self
      have hnone : text.format (f.get "cvss") ≠ "None" := by
        obtain ⟨v, hv, hnumber⟩ := hf.cvss
        have hstr : text.format v = text.str v := by
          cases v with
          | str => simp [isNumber] at hnumber
          | _ => rfl
        rw [PyDict.get, hv, Option.getD_some, hstr]
        exact hnumbers v hnumber
      have hmark := mark_of_checkCvssConsistency hraw hf hnone hback.scores
      rw [read_report .mark hchars hcase hfindings hreport] at hmark
      obtain ⟨found, hfound⟩ := Option.ne_none_iff_exists'.mp hmark
      obtain ⟨s, hs, hread⟩ := List.exists_of_findSome?_eq_some hfound
      refine ⟨s, hs, decide_eq_true (infix_of_newlines (by decide) (occurs_mark.mp ?_))⟩
      by_contra hnot
      rw [read, (search_eq_none (Reader.mark : Reader chars markPattern).not_fits_nil).mpr hnot]
        at hread
      exact absurd hread (by simp)

section Ascii

theorem asciiChars_ascii : AsciiChars PyChars.ascii where
  isSpace _ _ := rfl
  decimal _ _ := rfl
  sameLetter _ _ _ _ := rfl

theorem ascii_number_ne_none {v : Json} (h : isNumber v = true) :
    PyText.ascii.str v ≠ "None" := by
  intro hnone
  have hletters : (PyText.ascii.str v).toList = "None".toList := congrArg String.toList hnone
  cases v with
  | null | str | arr | obj => simp [isNumber] at h
  | bool b => cases b <;> exact absurd hnone (by decide)
  | float x => exact absurd hnone (by show ("" : String) ≠ "None"; decide)
  | int n =>
    cases n with
    | ofNat m =>
      obtain ⟨d, ds, htext, hd, -⟩ := exists_toString m
      have hdigit : d = 'N' := (List.cons.inj (htext.symm.trans hletters)).1
      rw [hdigit] at hd
      exact absurd hd (by decide)
    | negSucc m =>
      have hminus : '-' :: (toString (m + 1)).toList = "None".toList := by
        rw [← hletters]
        show _ = ("-" ++ toString (m + 1)).toList
        rw [String.toList_append]
        rfl
      exact absurd (List.cons.inj hminus).1 (by decide)

end Ascii

/-- A finding of an ordinary audit. -/
def plainFinding : PyDict := [
  ("id", .str "VULN-01"), ("title", .str "Missing signer check"), ("severity", .str "HIGH"),
  ("cvss", .int 8), ("cvss_vector", .str "CVSS:3.1/AV:N/AC:L/PR:L/UI:N/S:U/C:H/I:H/A:N")]

def plainRaw : PyDict := [("findings", .arr [.obj plainFinding])]

theorem reportable_plainFinding : Reportable plainFinding where
  id := ⟨_, rfl⟩
  severity := ⟨("high", "HIGH"), by decide, rfl⟩
  cvss := ⟨_, rfl, rfl⟩
  vector := ⟨_, rfl, by decide⟩


theorem exists_plainReport : ∃ report,
    renderReport PyText.ascii "2026-01-01" plainRaw [plainFinding] = .ok report := by
  have hok : (renderReport PyText.ascii "2026-01-01" plainRaw [plainFinding]).isOk = true := by
    decide +kernel
  cases hreport : renderReport PyText.ascii "2026-01-01" plainRaw [plainFinding] with
  | ok report => exact ⟨report, rfl⟩
  | error e =>
    rw [hreport] at hok
    contradiction

theorem read_back_iff_plain : ∃ report,
    renderReport PyText.ascii "2026-01-01" plainRaw [plainFinding] = .ok report ∧
      ¬ ReadBack PyText.ascii PyChars.ascii plainRaw report := by
  obtain ⟨report, hreport⟩ := exists_plainReport
  refine ⟨report, hreport, fun hback => ?_⟩
  have hshown := (read_back_iff PyText.ascii PyChars.ascii "2026-01-01" plainRaw [plainFinding]
    report levelCasing_ascii (fun _ => ascii_number_ne_none) asciiChars_ascii
    (List.forall_mem_singleton.mpr reportable_plainFinding) rfl hreport).2
    (List.cons_ne_nil _ _) hback
  have hplain : ¬ ∃ s ∈ givenTexts PyText.ascii "2026-01-01" plainRaw [plainFinding],
      isSubstring "**CVSS**" s = true := by
    decide +kernel
  exact hplain hshown.2

/-- The rows have badges where `check_report` looks for names, and the colon of the score stands
inside the bold text and not after it. -/
theorem plain_report_not_read_back :
    Reportable plainFinding ∧
    Dict.get? plainRaw "findings" = some (.arr ([plainFinding].map Json.obj)) ∧ ∃ report,
      renderReport PyText.ascii "2026-01-01" plainRaw [plainFinding] = .ok report ∧
      checkReport PyText.ascii PyChars.ascii (.obj plainRaw) report ≠ .ok 0 ∧
      checkCvssConsistency PyText.ascii PyChars.ascii (.obj plainRaw) report ≠ .ok 0 := by
  have hall : ∀ f ∈ [plainFinding], Reportable f :=
    List.forall_mem_singleton.mpr reportable_plainFinding
  have hraw : Dict.get? plainRaw "findings" = some (.arr ([plainFinding].map Json.obj)) := rfl
  obtain ⟨report, hreport⟩ := exists_plainReport
  refine ⟨reportable_plainFinding, hraw, report, hreport, fun hcheck => ?_, fun hcheck => ?_⟩
  · have htexts : ∀ f ∈ [plainFinding], TextSeverity f :=
      List.forall_mem_singleton.mpr fun v hv => ⟨"HIGH", (Option.some.inj hv).symm⟩
    have hlevel : ("high", "HIGH") ∈ levels := by decide
    have hrow := (checkReport_eq_zero hraw htexts).mp hcheck _ hlevel
    rw [read_report (.row hlevel) asciiChars_ascii levelCasing_ascii hall hreport] at hrow
    have hnone : (givenTexts PyText.ascii "2026-01-01" plainRaw [plainFinding]).findSome?
        (fun v => read (rowPattern PyChars.ascii "HIGH") v.toList) = none := by
      decide +kernel
    rw [hnone] at hrow
    exact absurd (Except.ok.inj hrow) (by decide)
  · have hmark := mark_of_checkCvssConsistency hraw reportable_plainFinding (by decide) hcheck
    rw [read_report .mark asciiChars_ascii levelCasing_ascii hall hreport] at hmark
    have hnone : (givenTexts PyText.ascii "2026-01-01" plainRaw [plainFinding]).findSome?
        (fun v => read markPattern v.toList) = none := by
      decide +kernel
    exact hmark hnone

end SolanaAuditor.Reports.ReportCheck
