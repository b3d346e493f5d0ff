/- SolanaAuditor/Reports/SectionIsolation
   digest: When check_cvss_consistency keeps the section of a finding apart from the others. -/

import SolanaAuditor.Reports.ReadBackVerdict
import SolanaAuditor.Reports.Sections

set_option autoImplicit false
set_option relaxedAutoImplicit false

namespace SolanaAuditor.Reports.ReportCheck

open SolanaAuditor.Lib SolanaAuditor.Lib.Regex

variable {text : PyText} {chars : PyChars}

section Mismatches

/-- The check of a report prints a difference for the finding with this id. -/
def Mismatch (text : PyText) (chars : PyChars) (d : Json) (report : String) (fid : String) :
    Prop :=
  ∃ findings diffs, (pyGet d "findings" (.arr []) >>= pyRows) = .ok findings ∧
    allCvssDiffs text chars (universalNewlines report.toList) findings = .ok diffs ∧
    ∃ x ∈ diffs, x.fid = fid

/-- The findings of a document, with ids that are pairwise distinct. -/
structure IdList (d : Json) (findings : List PyDict) : Prop where
  rows : (pyGet d "findings" (.arr []) >>= pyRows) = .ok findings
  ids : ∀ f ∈ findings, ∃ fid, f.get "id" = .str fid ∧ IdText fid
  distinct : (findings.map fun f => f.get "id").Nodup

/-- A text has the score of a finding, and no other vector than that of the finding. -/
def Agrees (text : PyText) (chars : PyChars) (f : PyDict) (s : List Char) : Prop :=
  groupText (search (scorePattern chars) s) = text.format (f.get "cvss") ∧
    ∀ v, search (vectorPattern chars) s = some v →
      truthy (field f "cvss_vector" (.str "")) = true →
        isText (String.ofList v) (field f "cvss_vector" (.str "")) = true

/-- The section that the check finds agrees with the finding. -/
def Accepts (text : PyText) (chars : PyChars) (f : PyDict) (fid : String) (report : List Char) :
    Prop :=
  ∃ s, findSection (sectionHead fid) report = some s ∧ Agrees text chars f s

variable (text chars) in
theorem cvssDiffs_spec (report : List Char) {f : PyDict} {fid : String}
    (hid : f.get "id" = .str fid) :
    ∃ diffs, cvssDiffs text chars report f = .ok diffs ∧ (∀ x ∈ diffs, x.fid = fid) ∧
      (diffs = [] ↔ Accepts text chars f fid report) := by
  unfold cvssDiffs Accepts
  simp only [hid]
  cases hs : findSection (sectionHead fid) report with
  | none => exact ⟨_, rfl, by simp, by simp⟩
  | some s =>
    refine ⟨_, rfl, ?_, ?_⟩
    · intro x hx
      rcases List.mem_append.mp hx with hx | hx
      · split_ifs at hx
        · rw [List.mem_singleton.mp hx]
        · simp at hx
      · cases hv : search (vectorPattern chars) s with
        | none => simp [hv] at hx
        | some v =>
          simp only [hv] at hx
          split_ifs at hx
          · rw [List.mem_singleton.mp hx]
          · simp at hx
    · simp only [Option.some.injEq, exists_eq_left', List.append_eq_nil_iff, Agrees]
      refine and_congr ?_ ?_
      · rw [eq_comm (a := groupText _)]
        simp
      · cases hv : search (vectorPattern chars) s with
        | none => simp
        | some v => simp

variable (text chars) in
theorem allCvssDiffs_spec (report : List Char) {findings : List PyDict}
    (hids : ∀ f ∈ findings, ∃ fid, f.get "id" = .str fid) :
    ∃ diffs, allCvssDiffs text chars report findings = .ok diffs ∧ ∀ x, x ∈ diffs ↔
      ∃ f ∈ findings, ∃ ds, cvssDiffs text chars report f = .ok ds ∧ x ∈ ds := by
  induction findings with
  | nil => exact ⟨[], rfl, by simp⟩
  | cons f findings ih =>
    obtain ⟨⟨fid, hid⟩, hrest⟩ := List.forall_mem_cons.mp hids
    obtain ⟨ds, hds, -, -⟩ := cvssDiffs_spec text chars report hid
    obtain ⟨diffs, hdiffs, hmem⟩ := ih hrest
    refine ⟨ds ++ diffs, by simp [allCvssDiffs, hds, hdiffs, bind, Except.bind, pure, Except.pure],
      fun x => ?_⟩
    rw [List.mem_append, hmem]
    simp [hds]

/-- A finding is reported exactly when the check does not accept it. -/
theorem mismatch_iff {d : Json} {findings : List PyDict} (hd : IdList d findings) {f : PyDict}
    (hf : f ∈ findings) {fid : String} (hid : f.get "id" = .str fid) (report : String) :
    Mismatch text chars d report fid ↔
      ¬ Accepts text chars f fid (universalNewlines report.toList) := by
  obtain ⟨diffs, hdiffs, hmem⟩ :=
    allCvssDiffs_spec text chars (universalNewlines report.toList) fun g hg =>
      (hd.ids g hg).imp fun _ h => h.1
  obtain ⟨ds, hds, hfid, hnil⟩ :=
    cvssDiffs_spec text chars (universalNewlines report.toList) hid
  rw [← hnil]
  constructor
  · rintro ⟨findings', diffs', hrows, hdiffs', x, hx, hxid⟩ rfl
    obtain rfl := Except.ok.inj (hrows.symm.trans hd.rows)
    obtain rfl := Except.ok.inj (hdiffs'.symm.trans hdiffs)
    obtain ⟨g, hg, ds', hds', hx⟩ := (hmem x).mp hx
    obtain ⟨gid, hgid, -⟩ := hd.ids g hg
    obtain ⟨ds'', hds'', hgfid, -⟩ :=
      cvssDiffs_spec text chars (universalNewlines report.toList) hgid
    obtain rfl := Except.ok.inj (hds'.symm.trans hds'')
    have hsame : g = f := List.inj_on_of_nodup_map hd.distinct hg hf (by
      rw [hgid, hid, ← hgfid x hx, hxid])
    rw [hsame, hds] at hds'
    rw [← Except.ok.inj hds'] at hx
    simp at hx
  · intro hne
    obtain ⟨x, hx⟩ := List.exists_mem_of_ne_nil ds hne
    exact ⟨findings, diffs, hd.rows, hdiffs, x, (hmem x).mpr ⟨f, hf, ds, hds, hx⟩, hfid x hx⟩

end Mismatches

section Patterns

/-! What the two patterns make of the texts that are put together below. -/

theorem search_fits {re : Pattern Char} {s g : List Char} (h : search re s = some g) :
    Fits re.group g := by
  induction s with
  | nil => simp [search] at h
  | cons c s ih =>
    unfold search at h
    split at h
    · next m hm =>
      obtain rfl := Option.some.inj h
      obtain ⟨-, -, -, -, hg, -⟩ := matchAt_eq_some hm
      exact hg
    · exact ih h

theorem search_none_of_not_mem {re : Pattern Char} {mark : Char}
    (hmark : Piece.one (· == mark) ∈ re.pieces) {s : List Char} (hs : mark ∉ s) :
    search re s = none := by
  refine (search_eq_none (not_fits_nil hmark)).mpr ?_
  rintro ⟨a, w, b, rfl, hw⟩
  refine hs (List.mem_append_right _ (List.mem_append_left _ ?_))
  generalize re.pieces = ps at hmark hw
  clear hs
  induction hw with
  | nil => simp at hmark
  | one hc _ ih =>
    rcases List.mem_cons.mp hmark with heq | hmem
    · obtain rfl := Piece.one.inj heq
      rw [beq_iff_eq.mp hc]
      exact List.mem_cons_self
    · exact List.mem_cons_of_mem _ (ih hmem)
  | stop _ ih => exact ih (by simpa using hmark)
  | more _ _ ih => exact List.mem_cons_of_mem _ (ih hmark)

/-- One of the patterns that are searched for in a section. -/
inductive SectionPattern (chars : PyChars) : Pattern Char → Prop
  | score : SectionPattern chars (scorePattern chars)
  | vector : SectionPattern chars (vectorPattern chars)

variable {re : Pattern Char}

theorem isSpace_ascii (hchars : AsciiChars chars) {c : Char} (hc : c.toNat < 128)
    {b : Bool} (hb : PyChars.ascii.isSpace c = b) : chars.isSpace c = b := by
  rw [hchars.isSpace c hc, hb]

theorem literal_admits (hchars : AsciiChars chars) {s : String}
    (hs : (s.toList.all fun c => decide (c.toNat < 128) && !PyChars.ascii.isSpace c) = true)
    {c : Char} (hc : chars.isSpace c = true) :
    ∀ piece ∈ literally s, piece.admits c = false := by
  intro piece hpiece
  obtain ⟨d, hd, rfl⟩ := List.mem_map.mp hpiece
  have hplain := List.all_eq_true.mp hs d hd
  simp only [Bool.and_eq_true, decide_eq_true_eq, Bool.not_eq_true'] at hplain
  have hne : c ≠ d := by
    rintro rfl
    rw [hchars.isSpace c hplain.1, hplain.2] at hc
    contradiction
  simpa [Piece.admits] using hne

/-- White space ends a score or a vector. -/
theorem SectionPattern.group_admits (h : SectionPattern chars re) (hchars : AsciiChars chars)
    {c : Char} (hc : chars.isSpace c = true) :
    ∀ piece ∈ re.group ++ re.after, piece.admits c = false := by
  cases h with
  | score => simp [scorePattern, Piece.admits, hc]
  | vector =>
    intro piece hpiece
    simp only [vectorPattern, List.append_nil, List.mem_append, List.mem_cons, List.not_mem_nil,
      or_false] at hpiece
    rcases hpiece with hliteral | rfl | rfl
    · exact literal_admits hchars (by decide) hc piece hliteral
    · simp [Piece.admits, isVectorChar, hc]
    · simp [Piece.admits, isVectorChar, hc]

theorem SectionPattern.before_admits (h : SectionPattern chars re) (hchars : AsciiChars chars) :
    ∀ piece ∈ re.before, piece.admits '#' = false := by
  cases h with
  | score =>
    intro piece hpiece
    simp only [scorePattern, List.mem_append, List.mem_singleton] at hpiece
    rcases hpiece with hliteral | rfl
    · obtain ⟨d, hd, rfl⟩ := List.mem_map.mp hliteral
      have hall : ("**CVSS**:".toList.all fun c => !('#' == c)) = true := by decide
      simpa [Piece.admits] using List.all_eq_true.mp hall d hd
    · exact isSpace_ascii hchars (by decide) (by decide)
  | vector => simp [vectorPattern]

/-- No match begins with white space. -/
theorem SectionPattern.search_space (h : SectionPattern chars re) (hchars : AsciiChars chars)
    {c : Char} (hc : chars.isSpace c = true) (s : List Char) :
    search re (c :: s) = search re s := by
  have hnone : matchAt re (c :: s) = none := by
    rw [← Option.not_isSome_iff_eq_none, matchAt_isSome]
    rintro ⟨w, r, hs, hw⟩
    have hfirst : ∀ (l : String) (ps : List (Piece Char)), l.toList ≠ [] →
        (l.toList.all fun c => decide (c.toNat < 128) && !PyChars.ascii.isSpace c) = true →
        ¬ Fits (literally l ++ ps) w := by
      intro l ps hne hl hfits
      obtain ⟨u, v, rfl, hu, -⟩ := fits_append.mp hfits
      rw [fits_literally] at hu
      cases hl' : l.toList with
      | nil => exact hne hl'
      | cons d l' =>
        rw [hu, hl', List.cons_append, List.cons_append] at hs
        obtain rfl := (List.cons.inj hs).1
        rw [hl', List.all_cons, Bool.and_eq_true] at hl
        simp only [Bool.and_eq_true, decide_eq_true_eq, Bool.not_eq_true'] at hl
        rw [hchars.isSpace c hl.1.1, hl.1.2] at hc
        contradiction
    cases h with
    | score =>
      refine hfirst "**CVSS**:" ([.many chars.isSpace] ++ (scorePattern chars).group)
        (by decide) (by decide) ?_
      simpa [Pattern.pieces, scorePattern] using hw
    | vector =>
      refine hfirst "CVSS:3.1/" [.one (isVectorChar chars), .many (isVectorChar chars)]
        (by decide) (by decide) ?_
      simpa [Pattern.pieces, vectorPattern] using hw
  rw [search, hnone]

/-- After `#` and white space the search goes on as at the front of a text. -/
theorem SectionPattern.search_put (h : SectionPattern chars re) (hchars : AsciiChars chars)
    {b : Char} (hb : chars.isSpace b = true) (w s : List Char) :
    search re (w ++ '#' :: b :: s) = (search re (w ++ ['#'])).or (search re s) := by
  rw [search_barriers (h.before_admits hchars) (h.group_admits hchars hb) w s,
    h.search_space hchars hb]

theorem SectionPattern.no_space (h : SectionPattern chars re) (hchars : AsciiChars chars)
    {s g : List Char} (hg : search re s = some g) : ∀ c ∈ g, chars.isSpace c = false := by
  intro c hc
  by_contra hspace
  rw [Bool.not_eq_false] at hspace
  have hfits := search_fits hg
  have hadmits := fun piece hpiece => h.group_admits hchars hspace piece
    (List.mem_append_left _ hpiece)
  generalize re.group = ps at hfits hadmits
  clear hg
  induction hfits with
  | nil => simp at hc
  | one hp _ ih =>
    obtain ⟨hpiece, hps⟩ := List.forall_mem_cons.mp hadmits
    rcases List.mem_cons.mp hc with rfl | hc
    · rw [Piece.admits, hp] at hpiece
      contradiction
    · exact ih hc hps
  | stop _ ih => exact ih hc (List.forall_mem_cons.mp hadmits).2
  | more hp _ ih =>
    rcases List.mem_cons.mp hc with rfl | hc
    · have hpiece := (List.forall_mem_cons.mp hadmits).1
      rw [Piece.admits, hp] at hpiece
      contradiction
    · exact ih hc hadmits

end Patterns

section Shield

/-- The text in front of another section already decides about a finding: it has a score, which
is wrong or comes with a vector where one matters, or it has a wrong vector. -/
def Decided (text : PyText) (chars : PyChars) (f : PyDict) (s : List Char) : Prop :=
  (∃ g, search (scorePattern chars) s = some g ∧
    (groupText (some g) ≠ text.format (f.get "cvss") ∨
      (search (vectorPattern chars) s).isSome = true ∨
      truthy (field f "cvss_vector" (.str "")) = false)) ∨
  ∃ v, search (vectorPattern chars) s = some v ∧
    truthy (field f "cvss_vector" (.str "")) = true ∧
    isText (String.ofList v) (field f "cvss_vector" (.str "")) = false

/-- The section with the id `gid` behind the text cannot matter to a finding: no text whatever
agrees with the finding; or the head of the finding stands in the text, and its section is
closed there or by the head of the other, or what it has there decides. -/
def Shielded (text : PyText) (chars : PyChars) (f : PyDict) (fid gid : String)
    (before : List Char) : Prop :=
  (∀ s, ¬ Agrees text chars f s) ∨
    ∃ own, afterHead (sectionHead fid) before = some own ∧
      (untilStop ':' (own ++ sectionHead gid) ≠ own ++ sectionHead gid ∨
        Decided text chars f (sectionHead fid ++ own ++ "###".toList))

variable {f : PyDict} {fid gid : String} {before : List Char}

/-- A section that is open at the head of another one goes on behind it. -/
theorem findSection_open {own : List Char} (hown : afterHead (sectionHead fid) before = some own)
    (hopen : untilStop ':' (own ++ sectionHead gid) = own ++ sectionHead gid) (t : List Char) :
    findSection (sectionHead fid) (before ++ (sectionHead gid ++ t)) =
      some (sectionHead fid ++ own ++ "##".toList ++
        '#' :: ' ' :: (gid.toList ++ ':' :: untilStop ':' t)) := by
  rw [findSection_eq, afterHead_append hown, Option.map_some]
  have hwall : own ++ (sectionHead gid ++ t) =
      (own ++ ("### ".toList ++ gid.toList)) ++ ':' :: t := by
    simp [sectionHead_eq]
  have hhead : own ++ sectionHead gid = (own ++ ("### ".toList ++ gid.toList)) ++ [':'] := by
    simp [sectionHead_eq]
  rw [hhead] at hopen
  rw [hwall, untilStop_open hopen]
  simp

theorem findSection_closed {own : List Char} (hown : afterHead (sectionHead fid) before = some own)
    (hclosed : untilStop ':' (own ++ sectionHead gid) ≠ own ++ sectionHead gid) (t : List Char) :
    findSection (sectionHead fid) (before ++ (sectionHead gid ++ t)) =
      some (sectionHead fid ++ untilStop ':' (own ++ sectionHead gid)) := by
  rw [findSection_eq, afterHead_append hown, Option.map_some]
  have hwall : own ++ (sectionHead gid ++ t) =
      (own ++ ("### ".toList ++ gid.toList)) ++ ':' :: t := by
    simp [sectionHead_eq]
  have hhead : own ++ sectionHead gid = (own ++ ("### ".toList ++ gid.toList)) ++ [':'] := by
    simp [sectionHead_eq]
  rw [hhead] at hclosed ⊢
  rw [hwall, untilStop_closed hclosed]

/-- What is searched for in an open section stands in front of the other head or behind it. -/
theorem SectionPattern.search_open {re : Pattern Char} (h : SectionPattern chars re)
    (hchars : AsciiChars chars) (own t : List Char) :
    search re (sectionHead fid ++ own ++ "##".toList ++ '#' :: ' ' :: t) =
      (search re (sectionHead fid ++ own ++ "###".toList)).or (search re t) := by
  rw [h.search_put hchars (isSpace_ascii hchars (by decide) (by decide))]
  simp

/-- The text of the other section does not matter to a finding that is shielded. -/
theorem accepts_of_shielded (hchars : AsciiChars chars)
    (h : Shielded text chars f fid gid before) {t t' : List Char}
    (haccepts : Accepts text chars f fid (before ++ (sectionHead gid ++ t))) :
    Accepts text chars f fid (before ++ (sectionHead gid ++ t')) := by
  obtain ⟨s, hs, hagrees⟩ := haccepts
  rcases h with hnone | ⟨own, hown, h⟩
  · exact absurd hagrees (hnone s)
  · by_cases hclosed : untilStop ':' (own ++ sectionHead gid) = own ++ sectionHead gid
    · have hdecided := h.resolve_left (not_not.mpr hclosed)
      rw [findSection_open hown hclosed] at hs
      obtain rfl := Option.some.inj hs
      refine ⟨_, findSection_open hown hclosed t', ?_⟩
      unfold Agrees at hagrees ⊢
      rw [SectionPattern.score.search_open hchars, SectionPattern.vector.search_open hchars]
        at hagrees ⊢
      obtain ⟨hscore, hvector⟩ := hagrees
      rcases hdecided with ⟨g, hg, hrest⟩ | ⟨v, hv, htruthy, hwrong⟩
      · rw [hg, Option.some_or] at hscore ⊢
        refine ⟨hscore, fun v hv htruthy => ?_⟩
        rcases hrest with hne | hsome | hfalsy
        · exact absurd hscore hne
        · obtain ⟨w, hw⟩ := Option.isSome_iff_exists.mp hsome
          rw [hw, Option.some_or] at hv hvector
          exact hvector v hv htruthy
        · rw [hfalsy] at htruthy
          contradiction
      · rw [hv, Option.some_or] at hvector
        rw [hvector v rfl htruthy] at hwrong
        contradiction
    · rw [findSection_closed hown hclosed] at hs
      exact ⟨s, by rw [findSection_closed hown hclosed]; exact hs, hagrees⟩

end Shield

section Bodies

/-! Bodies of the other section that make the check accept or report the finding. -/

variable {f : PyDict} {fid gid : String} {before : List Char}

/-- The text with every white space replaced by a tabulator. -/
def flatten (chars : PyChars) (s : List Char) : List Char :=
  s.map fun c => if chars.isSpace c then '\t' else c

/-- Text that holds no stop and no line end. -/
def Flat (s : List Char) : Prop := ' ' ∉ s ∧ '\n' ∉ s ∧ '\r' ∉ s

theorem flat_flatten (hchars : AsciiChars chars) (s : List Char) : Flat (flatten chars s) := by
  have hnot : ∀ b : Char, b ≠ '\t' → chars.isSpace b = true → b ∉ flatten chars s := by
    intro b hb hspace hmem
    obtain ⟨c, -, hc⟩ := List.mem_map.mp hmem
    split_ifs at hc with hs
    · exact hb hc.symm
    · exact hs (hc ▸ hspace)
  exact ⟨hnot _ (by decide) (isSpace_ascii hchars (by decide) (by decide)),
    hnot _ (by decide) (isSpace_ascii hchars (by decide) (by decide)),
    hnot _ (by decide) (isSpace_ascii hchars (by decide) (by decide))⟩

/-- The patterns tell no white space from other white space. -/
theorem SectionPattern.admits_space {re : Pattern Char} (h : SectionPattern chars re)
    (hchars : AsciiChars chars) {b c : Char} (hb : chars.isSpace b = true)
    (hc : chars.isSpace c = true) {piece : Piece Char} (hpiece : piece ∈ re.pieces) :
    piece.admits b = piece.admits c := by
  rw [Pattern.pieces, List.append_assoc, List.mem_append] at hpiece
  rcases hpiece with hbefore | hrest
  · cases h with
    | vector => simp [vectorPattern] at hbefore
    | score =>
      rcases List.mem_append.mp hbefore with hliteral | hspace
      · rw [literal_admits hchars (by decide) hb piece hliteral,
          literal_admits hchars (by decide) hc piece hliteral]
      · obtain rfl := List.mem_singleton.mp hspace
        simp [Piece.admits, hb, hc]
  · rw [h.group_admits hchars hb piece hrest, h.group_admits hchars hc piece hrest]

theorem SectionPattern.search_flatten {re : Pattern Char} (h : SectionPattern chars re)
    (hchars : AsciiChars chars) (s : List Char) : search re (flatten chars s) = search re s := by
  have htab : chars.isSpace '\t' = true := isSpace_ascii hchars (by decide) (by decide)
  rw [flatten, search_map]
  · cases hg : search re s with
    | none => rfl
    | some g =>
      have hfix : g.map (fun c => if chars.isSpace c then '\t' else c) = g := by
        calc g.map (fun c => if chars.isSpace c then '\t' else c)
            = g.map id := List.map_congr_left fun c hc => by simp [h.no_space hchars hg c hc]
          _ = g := List.map_id g
      rw [Option.map_some, hfix]
  · intro piece hpiece c
    split_ifs with hc
    · exact h.admits_space hchars htab hc hpiece
    · rfl

/-- A text that does not decide can be followed by one with which it agrees with the finding. -/
theorem exists_agreeing (hchars : AsciiChars chars) {s pre : List Char}
    (hs : Agrees text chars f s) (hpre : ¬ Decided text chars f (pre ++ ['#'])) :
    ∃ c, Flat c ∧ Agrees text chars f (pre ++ '#' :: '\t' :: c) := by
  have htab : chars.isSpace '\t' = true := isSpace_ascii hchars (by decide) (by decide)
  have hwrong : ∀ v, search (vectorPattern chars) (pre ++ ['#']) = some v →
      truthy (field f "cvss_vector" (.str "")) = true →
        isText (String.ofList v) (field f "cvss_vector" (.str "")) = true := by
    intro v hv htruthy
    by_contra hnot
    exact hpre (.inr ⟨v, hv, htruthy, Bool.eq_false_iff.mpr hnot⟩)
  unfold Agrees
  cases hscore : search (scorePattern chars) (pre ++ ['#']) with
  | some g =>
    have hg : groupText (some g) = text.format (f.get "cvss") := by
      by_contra hne
      exact hpre (.inl ⟨g, hscore, .inl hne⟩)
    refine ⟨[], by simp [Flat], ?_, ?_⟩
    · rw [SectionPattern.score.search_put hchars htab, hscore, Option.some_or, hg]
    · intro v hv
      rw [SectionPattern.vector.search_put hchars htab, search, Option.or_none] at hv
      exact hwrong v hv
  | none =>
    refine ⟨flatten chars s, flat_flatten hchars s, ?_, ?_⟩
    · rw [SectionPattern.score.search_put hchars htab, hscore, Option.none_or,
        SectionPattern.score.search_flatten hchars, hs.1]
    · intro v hv
      rw [SectionPattern.vector.search_put hchars htab,
        SectionPattern.vector.search_flatten hchars] at hv
      cases hvector : search (vectorPattern chars) (pre ++ ['#']) with
      | some w =>
        rw [hvector, Option.some_or] at hv
        exact hwrong v (hvector.trans hv)
      | none =>
        rw [hvector, Option.none_or] at hv
        exact hs.2 v hv

theorem search_score_digit {c : Char} (hc : chars.isSpace c = false) :
    search (scorePattern chars) ("**CVSS**:".toList ++ [c]) = some [c] := by
  simp [search, matchAt, scorePattern, literally, rests, runs, hc]

theorem search_vector_digit {c : Char} (hc : isVectorChar chars c = true) :
    search (vectorPattern chars) ("CVSS:3.1/".toList ++ [c]) =
      some ("CVSS:3.1/".toList ++ [c]) := by
  simp [search, matchAt, vectorPattern, literally, rests, runs, hc]

theorem isSpace_binary (hchars : AsciiChars chars) {c : Char} (hc : c ∈ ['0', '1']) :
    chars.isSpace c = false := by
  simp only [List.mem_cons, List.not_mem_nil, or_false] at hc
  rcases hc with rfl | rfl
  · exact isSpace_ascii hchars (by decide) (by decide)
  · exact isSpace_ascii hchars (by decide) (by decide)

/-- Where no score is read, one of two scores after the text is wrong. -/
theorem exists_wrong_score (hchars : AsciiChars chars) {pre : List Char}
    (hscore : search (scorePattern chars) (pre ++ ['#']) = none) :
    ∃ c, Flat c ∧ ¬ Agrees text chars f (pre ++ '#' :: '\t' :: c) := by
  have htab : chars.isSpace '\t' = true := isSpace_ascii hchars (by decide) (by decide)
  obtain ⟨c, hc, hne⟩ : ∃ c ∈ ['0', '1'], groupText (some [c]) ≠ text.format (f.get "cvss") := by
    by_cases hzero : groupText (some ['0']) = text.format (f.get "cvss")
    · exact ⟨'1', by simp, by rw [← hzero]; decide⟩
    · exact ⟨'0', by simp, hzero⟩
  refine ⟨"**CVSS**:".toList ++ [c], ?_, fun hagrees => hne ?_⟩
  · simp only [List.mem_cons, List.not_mem_nil, or_false] at hc
    rcases hc with rfl | rfl <;> exact ⟨by decide, by decide, by decide⟩
  · have hfirst := hagrees.1
    rwa [SectionPattern.score.search_put hchars htab, hscore, Option.none_or,
      search_score_digit (isSpace_binary hchars hc)] at hfirst

/-- Where no vector is read and the finding has one, one of two vectors after the text is wrong. -/
theorem exists_wrong_vector (hchars : AsciiChars chars) {pre : List Char}
    (hvector : search (vectorPattern chars) (pre ++ ['#']) = none)
    (htruthy : truthy (field f "cvss_vector" (.str "")) = true) :
    ∃ c, Flat c ∧ ¬ Agrees text chars f (pre ++ '#' :: '\t' :: c) := by
  have htab : chars.isSpace '\t' = true := isSpace_ascii hchars (by decide) (by decide)
  obtain ⟨c, hc, hne⟩ : ∃ c ∈ ['0', '1'], isText (String.ofList ("CVSS:3.1/".toList ++ [c]))
      (field f "cvss_vector" (.str "")) = false := by
    by_cases hzero : isText (String.ofList ("CVSS:3.1/".toList ++ ['0']))
        (field f "cvss_vector" (.str "")) = true
    · refine ⟨'1', by simp, ?_⟩
      unfold isText at hzero ⊢
      split at hzero
      · next t ht => rw [beq_iff_eq.mp hzero]; decide
      · rfl
    · exact ⟨'0', by simp, Bool.eq_false_iff.mpr hzero⟩
  refine ⟨"CVSS:3.1/".toList ++ [c], ?_, fun hagrees => ?_⟩
  · simp only [List.mem_cons, List.not_mem_nil, or_false] at hc
    rcases hc with rfl | rfl <;> exact ⟨by decide, by decide, by decide⟩
  · have hchar : isVectorChar chars c = true := by
      rw [isVectorChar, isSpace_binary hchars hc]
      simp only [List.mem_cons, List.not_mem_nil, or_false] at hc
      rcases hc with rfl | rfl <;> decide
    have hsecond := hagrees.2 ("CVSS:3.1/".toList ++ [c]) (by
      rw [SectionPattern.vector.search_put hchars htab, hvector, Option.none_or,
        search_vector_digit hchar]) htruthy
    rw [hne] at hsecond
    contradiction

/-- A text that does not decide can be followed by one with which it does not agree. -/
theorem exists_differing (hchars : AsciiChars chars) {pre : List Char}
    (hpre : ¬ Decided text chars f (pre ++ ['#'])) :
    ∃ c, Flat c ∧ ¬ Agrees text chars f (pre ++ '#' :: '\t' :: c) := by
  cases hscore : search (scorePattern chars) (pre ++ ['#']) with
  | none => exact exists_wrong_score hchars hscore
  | some g =>
    refine exists_wrong_vector hchars ?_ ?_
    · by_contra hsome
      exact hpre (.inl ⟨g, hscore, .inr (.inl (Option.isSome_iff_ne_none.mpr hsome))⟩)
    · by_contra hfalsy
      exact hpre (.inl ⟨g, hscore, .inr (.inr (Bool.eq_false_iff.mpr hfalsy))⟩)

/-- White space, a text and a stop in the middle of a line. -/
def stub (c : List Char) : List Char := '#' :: '\t' :: (c ++ ("### VULN-".toList ++ ['\n']))

theorem untilStop_stub {c : List Char} (hc : Flat c) (t : List Char) :
    untilStop ':' (stub c ++ t) = '#' :: '\t' :: c := by
  have hprev : ':' ≠ '\n' := by decide
  have hblank : ' ' ∉ '#' :: '\t' :: c := by simp [hc.1]
  have hput := untilStop_put hprev hblank (by simp [hc.2.1]) ('\n' :: t)
  rw [← hput]
  simp [stub]

/-- What can be put into the other section: one line, with its line end. -/
structure Line (body : List Char) : Prop where
  line : ∃ w, '\n' ∉ w ∧ body = w ++ ['\n']
  plain : '\r' ∉ body

theorem line_stub {c : List Char} (hc : Flat c) : Line (stub c) where
  line := ⟨'#' :: '\t' :: (c ++ "### VULN-".toList), by simp [hc.2.1], by simp [stub]⟩
  plain := by simp [stub, hc.2.2]

theorem line_head {fid : String} (hfid : IdText fid) {body : List Char} (h : Line body) :
    Line (sectionHead fid ++ body) where
  line := by
    obtain ⟨w, hw, rfl⟩ := h.line
    refine ⟨sectionHead fid ++ w, ?_, by simp⟩
    rw [List.mem_append, not_or]
    exact ⟨hfid.not_mem_head (by decide) (by decide) (by decide) (by decide), hw⟩
  plain := by
    rw [List.mem_append, not_or]
    exact ⟨hfid.not_mem_head (by decide) (by decide) (by decide) (by decide), h.plain⟩

theorem Line.sectionBody {body body' after : List Char} (h : Line body)
    (hbody : SectionBody body' after) : SectionBody body after := by
  obtain ⟨w, hw, rfl⟩ := h.line
  refine ⟨noSectionStarts_line (by decide) hw, hbody.ends.imp_right fun hends => ⟨?_, hends.2⟩⟩
  simp

/-- The head of the finding does not stand before the other section: a copy of it in the body
comes first. -/
theorem findSection_copy (hnone : afterHead (sectionHead fid) before = none)
    (hline : before = [] ∨ before.getLast? = some '\n') (hfid : IdText fid) (hgid : IdText gid)
    (hne : fid ≠ gid) {c : List Char} (hc : Flat c) (t : List Char) :
    findSection (sectionHead fid) (before ++ (sectionHead gid ++ (sectionHead fid ++ stub c ++ t))) =
      some (sectionHead fid ++ '#' :: '\t' :: c) := by
  have hne' : sectionHead fid ≠ [] := by simp [sectionHead_eq]
  have hfirst : ∀ r, afterHead (sectionHead fid) (sectionHead fid ++ r) = some r := by
    intro r
    cases hhead : sectionHead fid with
    | nil => exact absurd hhead hne'
    | cons d head => simp [afterHead]
  rw [findSection_eq, afterHead_skip_lines hne'
    (hfid.not_mem_head (by decide) (by decide) (by decide) (by decide)) hnone hline,
    afterHead_skip_head hfid hgid hne, List.append_assoc, hfirst, Option.map_some,
    untilStop_stub hc]

theorem score_mark (chars : PyChars) :
    Piece.one (· == '*') ∈ (scorePattern chars).pieces := List.mem_cons_self

theorem vector_mark (chars : PyChars) :
    Piece.one (· == '/') ∈ (vectorPattern chars).pieces := by
  refine List.mem_append_left _ (List.mem_append_right _ (List.mem_append_left _ ?_))
  exact List.mem_map.mpr ⟨'/', by decide, rfl⟩

theorem IdText.marks_not_mem (hfid : IdText fid) : '*' ∉ fid.toList ∧ '/' ∉ fid.toList :=
  ⟨hfid.not_mem (by decide) (by decide) (by decide),
    hfid.not_mem (by decide) (by decide) (by decide)⟩

/-- Where the own section comes later, the other one can hold a copy of its heading. -/
theorem exists_bodies_copy (hchars : AsciiChars chars) (hfid : IdText fid) (hgid : IdText gid)
    (hne : fid ≠ gid) (hline : before = [] ∨ before.getLast? = some '\n')
    (hbefore : afterHead (sectionHead fid) before = none) {s : List Char}
    (hs : Agrees text chars f s) (after : List Char) :
    ∃ yes no, Line yes ∧ Line no ∧
      Accepts text chars f fid (before ++ (sectionHead gid ++ (yes ++ after))) ∧
      ¬ Accepts text chars f fid (before ++ (sectionHead gid ++ (no ++ after))) := by
  have hpre : ¬ Decided text chars f (sectionHead fid ++ ['#']) := by
    have hscore : search (scorePattern chars) (sectionHead fid ++ ['#']) = none :=
      search_none_of_not_mem (score_mark chars) (by simp [sectionHead_eq, hfid.marks_not_mem])
    have hvector : search (vectorPattern chars) (sectionHead fid ++ ['#']) = none :=
      search_none_of_not_mem (vector_mark chars) (by simp [sectionHead_eq, hfid.marks_not_mem])
    simp [Decided, hscore, hvector]
  obtain ⟨c, hc, hagrees⟩ := exists_agreeing hchars hs hpre
  obtain ⟨c', hc', hdiffers⟩ := exists_differing hchars hpre
  refine ⟨sectionHead fid ++ stub c, sectionHead fid ++ stub c', line_head hfid (line_stub hc),
    line_head hfid (line_stub hc'), ?_, ?_⟩
  · exact ⟨_, findSection_copy hbefore hline hfid hgid hne hc after, hagrees⟩
  · rintro ⟨s', hs', hagrees'⟩
    rw [findSection_copy hbefore hline hfid hgid hne hc' after] at hs'
    exact hdiffers (Option.some.inj hs' ▸ hagrees')

/-- Where the own section reaches into the other one, the body of this one goes on with it. -/
theorem exists_bodies_open (hchars : AsciiChars chars) (hgid : IdText gid) {own : List Char}
    (hbefore : afterHead (sectionHead fid) before = some own)
    (hopen : untilStop ':' (own ++ sectionHead gid) = own ++ sectionHead gid)
    (hundecided : ¬ Decided text chars f (sectionHead fid ++ own ++ "###".toList)) {s : List Char}
    (hs : Agrees text chars f s) (after : List Char) :
    ∃ yes no, Line yes ∧ Line no ∧
      Accepts text chars f fid (before ++ (sectionHead gid ++ (yes ++ after))) ∧
      ¬ Accepts text chars f fid (before ++ (sectionHead gid ++ (no ++ after))) := by
  let pre := sectionHead fid ++ own ++ "##".toList ++ '#' :: ' ' :: (gid.toList ++ [':'])
  have hsearch : ∀ {re : Pattern Char} {mark : Char}, SectionPattern chars re →
      Piece.one (· == mark) ∈ re.pieces → mark ∉ gid.toList ++ [':', '#'] →
      search re (pre ++ ['#']) = search re (sectionHead fid ++ own ++ "###".toList) := by
    intro re mark hre hmark hnot
    have hpre : pre ++ ['#'] = sectionHead fid ++ own ++ "##".toList ++
        '#' :: ' ' :: (gid.toList ++ [':', '#']) := by simp [pre]
    rw [hpre, hre.search_open hchars, search_none_of_not_mem hmark hnot, Option.or_none]
  have hpre : ¬ Decided text chars f (pre ++ ['#']) := by
    unfold Decided at hundecided ⊢
    rw [hsearch .score (score_mark chars) (by simp [hgid.marks_not_mem]),
      hsearch .vector (vector_mark chars) (by simp [hgid.marks_not_mem])]
    exact hundecided
  have hsection : ∀ c, Flat c →
      findSection (sectionHead fid) (before ++ (sectionHead gid ++ (stub c ++ after))) =
        some (pre ++ '#' :: '\t' :: c) := by
    intro c hc
    rw [findSection_open hbefore hopen, untilStop_stub hc]
    simp [pre]
  obtain ⟨c, hc, hagrees⟩ := exists_agreeing hchars hs hpre
  obtain ⟨c', hc', hdiffers⟩ := exists_differing hchars hpre
  refine ⟨stub c, stub c', line_stub hc, line_stub hc', ⟨_, hsection c hc, hagrees⟩, ?_⟩
  rintro ⟨s', hs', hagrees'⟩
  rw [hsection c' hc'] at hs'
  exact hdiffers (Option.some.inj hs' ▸ hagrees')

/-- A finding that is not shielded is accepted with one body of the other section and reported
with another. -/
theorem exists_bodies (hchars : AsciiChars chars) (hfid : IdText fid) (hgid : IdText gid)
    (hne : fid ≠ gid) (hline : before = [] ∨ before.getLast? = some '\n')
    (h : ¬ Shielded text chars f fid gid before) (after : List Char) :
    ∃ yes no, Line yes ∧ Line no ∧
      Accepts text chars f fid (before ++ (sectionHead gid ++ (yes ++ after))) ∧
      ¬ Accepts text chars f fid (before ++ (sectionHead gid ++ (no ++ after))) := by
  obtain ⟨hsome, hown⟩ := not_or.mp h
  obtain ⟨s, hs⟩ := not_forall_not.mp hsome
  cases hbefore : afterHead (sectionHead fid) before with
  | none => exact exists_bodies_copy hchars hfid hgid hne hline hbefore hs after
  | some own =>
    obtain ⟨hopen, hundecided⟩ := not_or.mp (not_and.mp (not_exists.mp hown own) hbefore)
    exact exists_bodies_open hchars hgid hbefore (not_not.mp hopen) hundecided hs after

end Bodies

section Verdict

/-- Whatever the section of another finding says, the finding is reported or it is not. -/
def Isolated (text : PyText) (chars : PyChars) (d : Json) (fid gid : String)
    (before after : List Char) : Prop :=
  ∀ report report' body body',
    HasSection (universalNewlines report.toList) gid before body after →
    HasSection (universalNewlines report'.toList) gid before body' after →
      (Mismatch text chars d report fid ↔ Mismatch text chars d report' fid)

/-- Two findings of score 9, with ids of the convention. -/
def twoFindings : List PyDict := [
  [("id", .str "CRIT-01"), ("cvss", .int 9)], [("id", .str "HIGH-01"), ("cvss", .int 9)]]

def twoDocument : Json := .obj [("findings", .arr (twoFindings.map Json.obj))]

theorem idList_twoFindings : IdList twoDocument twoFindings where
  rows := rfl
  ids := by
    intro f hf
    simp only [twoFindings, List.mem_cons, List.not_mem_nil, or_false] at hf
    rcases hf with rfl | rfl
    · exact ⟨"CRIT-01", rfl, by decide⟩
    · exact ⟨"HIGH-01", rfl, by decide⟩
  distinct := by simp [twoFindings, PyDict.get, Dict.get?]

/-- A report with the two sections, from what each of them says. -/
def twoSections (first second : String) : String :=
  "### CRIT-01: a\n" ++ first ++ "### HIGH-01:" ++ second

end Verdict

end SolanaAuditor.Reports.ReportCheck
