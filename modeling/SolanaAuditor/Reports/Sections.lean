/- SolanaAuditor/Reports/Sections
   digest: The sections of a report, and where check_cvss_consistency looks for one. -/

import SolanaAuditor.Lib.Lists
import SolanaAuditor.Reports.ReportReaders

set_option autoImplicit false
set_option relaxedAutoImplicit false

namespace SolanaAuditor.Reports.ReportCheck

open SolanaAuditor.Lib SolanaAuditor.Lib.Regex

section Layout

/-- A line that starts with `### ` or `## ` begins here. -/
def startsSection (prev : Char) (s : List Char) : Bool :=
  prev == '\n' && ("### ".toList.isPrefixOf s || "## ".toList.isPrefixOf s)

def noSectionStarts : Char → List Char → Bool
  | _, [] => true
  | prev, c :: s => !startsSection prev (c :: s) && noSectionStarts c s

/-- The text of a section, from the colon of its head up to what follows it. -/
structure SectionBody (body after : List Char) : Prop where
  plain : noSectionStarts ':' body = true
  ends : after = [] ∨ body.getLast? = some '\n' ∧ startsSection '\n' after = true

/-- The text that is read has a section of this id, with a text before it and one after. -/
structure HasSection (report : List Char) (fid : String) (before body after : List Char) :
    Prop where
  eq : report = before ++ (sectionHead fid ++ (body ++ after))
  line : before = [] ∨ before.getLast? = some '\n'
  body : SectionBody body after

/-- Ids such as `CRIT-01`: letters, digits, hyphens and underscores. -/
def IdText (fid : String) : Prop := ∀ c ∈ fid.toList, c.isAlphanum = true ∨ c = '-' ∨ c = '_'

instance (fid : String) : Decidable (IdText fid) := List.decidableBAll _ _

end Layout

section Heads

/-- What follows the first head. -/
def afterHead (head : List Char) : List Char → Option (List Char)
  | [] => none
  | c :: s =>
      if head.isPrefixOf (c :: s) then some ((c :: s).drop head.length) else afterHead head s

theorem findSection_eq (head s : List Char) :
    findSection head s = (afterHead head s).map fun r => head ++ untilStop ':' r := by
  induction s with
  | nil => rfl
  | cons c s ih =>
    unfold findSection afterHead
    split_ifs
    · rfl
    · exact ih

theorem afterHead_eq_some {head s r : List Char} (h : afterHead head s = some r) :
    ∃ u, s = u ++ (head ++ r) := by
  induction s with
  | nil => simp [afterHead] at h
  | cons c s ih =>
    unfold afterHead at h
    split_ifs at h with hhead
    · obtain ⟨t, ht⟩ := List.isPrefixOf_iff_prefix.mp hhead
      obtain rfl : t = r := by
        rw [← ht, List.drop_left] at h
        exact Option.some.inj h
      exact ⟨[], ht.symm⟩
    · obtain ⟨u, rfl⟩ := ih h
      exact ⟨c :: u, rfl⟩

/-- The first head stays the first one when text is added at the end. -/
theorem afterHead_append {head s r : List Char} (h : afterHead head s = some r)
    (t : List Char) : afterHead head (s ++ t) = some (r ++ t) := by
  induction s with
  | nil => simp [afterHead] at h
  | cons c s ih =>
    unfold afterHead at h
    split_ifs at h with hhead
    · obtain ⟨w, hw⟩ := List.isPrefixOf_iff_prefix.mp hhead
      obtain rfl : w = r := by
        rw [← hw, List.drop_left] at h
        exact Option.some.inj h
      have hlong : head.isPrefixOf (c :: (s ++ t)) = true := by
        rw [List.isPrefixOf_iff_prefix, ← List.cons_append, ← hw, List.append_assoc]
        exact List.prefix_append _ _
      rw [List.cons_append, afterHead, if_pos hlong, ← List.cons_append, ← hw, List.append_assoc,
        List.drop_left]
    · have hlong : ¬ head <+: c :: (s ++ t) := by
        intro hprefix
        obtain ⟨u, hu⟩ := afterHead_eq_some h
        refine absurd (List.isPrefixOf_iff_prefix.mpr ?_) hhead
        have hself : c :: s <+: c :: (s ++ t) := List.prefix_append (c :: s) t
        refine List.prefix_of_prefix_length_le hprefix hself ?_
        · rw [hu]
          simp only [List.length_cons, List.length_append]
          omega
      rw [List.cons_append, afterHead, if_neg (by rwa [List.isPrefixOf_iff_prefix])]
      exact ih h

/-- No head begins in a text, once the text after it follows. -/
theorem afterHead_skip {head u s : List Char}
    (h : ∀ v w, u = v ++ w → w ≠ [] → ¬ head <+: w ++ s) :
    afterHead head (u ++ s) = afterHead head s := by
  induction u with
  | nil => rfl
  | cons c u ih =>
    have hnot : ¬ head <+: c :: (u ++ s) := h [] (c :: u) rfl (List.cons_ne_nil _ _)
    rw [List.cons_append, afterHead, if_neg (by rwa [List.isPrefixOf_iff_prefix])]
    exact ih fun v w hu hw => h (c :: v) w (by rw [hu, List.cons_append]) hw

theorem afterHead_eq_none {head s : List Char} (hne : head ≠ []) (h : afterHead head s = none) :
    ¬ head <:+: s := by
  induction s with
  | nil => simpa using hne
  | cons c s ih =>
    unfold afterHead at h
    split_ifs at h with hhead
    intro hinfix
    rcases List.infix_cons_iff.mp hinfix with hprefix | hinfix
    · exact hhead (List.isPrefixOf_iff_prefix.mpr hprefix)
    · exact ih h hinfix

/-- A head on one line does not run over the end of a line. -/
theorem afterHead_skip_lines {head u s : List Char} (hne : head ≠ []) (hline : '\n' ∉ head)
    (hnone : afterHead head u = none) (hend : u = [] ∨ u.getLast? = some '\n') :
    afterHead head (u ++ s) = afterHead head s := by
  refine afterHead_skip fun v w hu hw hprefix => ?_
  have hlast : w.getLast? = some '\n' := by
    rcases hend with rfl | hend
    · exact absurd (List.append_eq_nil_iff.mp hu.symm).2 hw
    · rwa [hu, List.getLast?_append_of_ne_nil _ hw] at hend
  rcases Nat.le_total head.length w.length with hlong | hshort
  · have hwithin : head <+: w :=
      List.prefix_of_prefix_length_le hprefix (List.prefix_append w s) hlong
    exact afterHead_eq_none hne hnone (hu ▸ hwithin.isInfix.trans (List.suffix_append v w).isInfix)
  · have hover : w <+: head :=
      List.prefix_of_prefix_length_le (List.prefix_append w s) hprefix hshort
    exact hline (hover.subset (List.mem_of_getLast? hlast))

/-- The head of a section ends in the only colon that it has. -/
theorem sectionHead_eq (fid : String) :
    sectionHead fid = ("### ".toList ++ fid.toList) ++ [':'] := by
  simp [sectionHead]

theorem IdText.not_mem {fid : String} (h : IdText fid) {c : Char} (hc : c.isAlphanum = false)
    (hhyphen : c ≠ '-') (hlow : c ≠ '_') : c ∉ fid.toList := by
  intro hmem
  rcases h c hmem with halnum | heq | heq
  · rw [hc] at halnum
    contradiction
  · exact hhyphen heq
  · exact hlow heq

theorem IdText.not_mem_head {fid : String} (h : IdText fid) {c : Char} (hc : c.isAlphanum = false)
    (hhyphen : c ≠ '-') (hlow : c ≠ '_') (hmark : c ∉ "### :".toList) :
    c ∉ sectionHead fid := by
  have hid := h.not_mem hc hhyphen hlow
  rw [sectionHead_eq]
  simp at hmark ⊢
  tauto

/-- The head of one section is no beginning of the head of another. -/
theorem afterHead_skip_head {fid gid : String} (hfid : IdText fid) (hgid : IdText gid)
    (hne : fid ≠ gid) (s : List Char) :
    afterHead (sectionHead fid) (sectionHead gid ++ s) = afterHead (sectionHead fid) s := by
  have hhead : ∀ id : String, sectionHead id = '#' :: '#' :: '#' :: ' ' :: (id.toList ++ [':']) :=
    fun id => by simp [sectionHead_eq]
  have hcolon : ∀ {id : String}, IdText id → ':' ∉ id.toList := fun h =>
    h.not_mem (by decide) (by decide) (by decide)
  refine afterHead_skip fun v w hu hw hprefix => ?_
  rw [hhead] at hu hprefix
  rcases v with _ | ⟨a, _ | ⟨b, _ | ⟨c, _ | ⟨d, v⟩⟩⟩⟩
  · rw [List.nil_append] at hu
    rw [← hu] at hprefix
    simp only [List.cons_append, List.cons_prefix_cons, true_and] at hprefix
    obtain ⟨r, hr⟩ := hprefix
    rw [List.append_assoc, List.append_assoc, List.singleton_append, List.singleton_append] at hr
    exact hne (String.toList_injective (Lists.append_cons_inj (hcolon hfid) (hcolon hgid) hr).1)
  · obtain rfl : w = '#' :: '#' :: ' ' :: (gid.toList ++ [':']) := (List.cons.inj hu).2.symm
    simp at hprefix
  · simp only [List.cons_append, List.nil_append, List.cons.injEq] at hu
    rw [← hu.2.2] at hprefix
    simp at hprefix
  · simp only [List.cons_append, List.nil_append, List.cons.injEq] at hu
    rw [← hu.2.2.2] at hprefix
    simp at hprefix
  · simp only [List.cons_append, List.cons.injEq] at hu
    cases w with
    | nil => exact hw rfl
    | cons e w =>
      have hmem : e ∈ gid.toList ++ [':'] := by
        rw [hu.2.2.2.2]
        simp
      have he : '#' = e := (List.cons_prefix_cons.mp hprefix).1
      rcases List.mem_append.mp hmem with hmem | hmem
      · exact hgid.not_mem (c := '#') (by decide) (by decide) (by decide) (he ▸ hmem)
      · rw [← he, List.mem_singleton] at hmem
        exact absurd hmem (by decide)

end Heads

section Stops

theorem isPrefixOf_wall {pattern w t : List Char} {c : Char} (h : c ∉ pattern) :
    pattern.isPrefixOf (w ++ c :: t) = pattern.isPrefixOf (w ++ [c]) := by
  induction pattern generalizing w with
  | nil => simp
  | cons d pattern ih =>
    rw [List.mem_cons, not_or] at h
    cases w with
    | nil =>
      have hne : (d == c) = false := by simpa using Ne.symm h.1
      simp [List.isPrefixOf, hne]
    | cons e w => simp [List.isPrefixOf, ih h.2]

/-- No stop runs over a colon. -/
theorem stopsAt_wall (prev : Char) (w t : List Char) :
    stopsAt prev (w ++ ':' :: t) = stopsAt prev (w ++ [':']) := by
  unfold stopsAt
  rw [isPrefixOf_wall (w := w) (t := t) (by decide : ':' ∉ "### VULN-".toList),
    isPrefixOf_wall (w := w) (t := t) (by decide : ':' ∉ "## ".toList)]

/-- A section that is open at a colon goes on behind it. -/
theorem untilStop_open {prev : Char} {w : List Char}
    (h : untilStop prev (w ++ [':']) = w ++ [':']) (t : List Char) :
    untilStop prev (w ++ ':' :: t) = w ++ ':' :: untilStop ':' t := by
  induction w generalizing prev with
  | nil =>
    have hstop := stopsAt_wall prev [] t
    rw [List.nil_append, List.nil_append] at hstop
    rw [List.nil_append, untilStop] at h
    rw [List.nil_append, List.nil_append, untilStop, hstop]
    split_ifs at h ⊢
    rfl
  | cons c w ih =>
    have hstop := stopsAt_wall prev (c :: w) t
    rw [List.cons_append, List.cons_append] at hstop
    rw [List.cons_append, untilStop] at h
    rw [List.cons_append, untilStop, hstop]
    split_ifs at h ⊢
    rw [ih (List.cons.inj h).2, List.cons_append]

/-- A section that is closed before a colon stays so, whatever follows. -/
theorem untilStop_closed {prev : Char} {w : List Char}
    (h : untilStop prev (w ++ [':']) ≠ w ++ [':']) (t : List Char) :
    untilStop prev (w ++ ':' :: t) = untilStop prev (w ++ [':']) := by
  induction w generalizing prev with
  | nil =>
    have hstop := stopsAt_wall prev [] t
    rw [List.nil_append, List.nil_append] at hstop
    rw [List.nil_append, untilStop] at h
    rw [List.nil_append, List.nil_append, untilStop, untilStop, hstop]
    split_ifs at h ⊢ with hs
    · rfl
    · exact absurd rfl h
  | cons c w ih =>
    have hstop := stopsAt_wall prev (c :: w) t
    rw [List.cons_append, List.cons_append] at hstop
    rw [List.cons_append, untilStop] at h
    rw [List.cons_append, List.cons_append, untilStop, untilStop, hstop]
    split_ifs at h ⊢ with hs
    · rfl
    · rw [ih fun heq => h (congrArg (c :: ·) heq)]

/-- Text without blanks and line breaks runs up to the stop that is put behind it. -/
theorem untilStop_put {prev : Char} (hprev : prev ≠ '\n') {u : List Char} (hblank : ' ' ∉ u)
    (hline : '\n' ∉ u) (r : List Char) :
    untilStop prev (u ++ ("### VULN-".toList ++ r)) = u := by
  induction u generalizing prev with
  | nil => simp [untilStop, stopsAt]
  | cons c u ih =>
    rw [List.mem_cons, not_or] at hblank hline
    have hstop : stopsAt prev (c :: (u ++ ("### VULN-".toList ++ r))) = false := by
      have hstart : (prev == '\n') = false := by simpa using hprev
      rw [stopsAt, hstart, Bool.false_and, Bool.or_false]
      -- the blank of the pattern is its fourth character
      rcases u with _ | ⟨d, _ | ⟨e, _ | ⟨f, u⟩⟩⟩
      · simp [List.isPrefixOf]
      · simp [List.isPrefixOf]
      · simp [List.isPrefixOf]
      · have hf : (' ' == f) = false := by
          simp only [List.mem_cons, not_or] at hblank
          simpa using hblank.2.2.2.1
        simp [List.isPrefixOf, hf]
    rw [List.cons_append, untilStop, hstop, if_neg Bool.false_ne_true]
    rw [ih (Ne.symm hline.1) hblank.2 hline.2]

end Stops

section Files

theorem not_mem_newlines (s : List Char) : '\r' ∉ universalNewlines s := by
  induction s with
  | nil => simp [universalNewlines]
  | cons c s ih =>
    unfold universalNewlines
    split_ifs with hc
    · exact ih
    · exact List.not_mem_cons_of_ne_of_not_mem (by decide) ih
    · exact List.not_mem_cons_of_ne_of_not_mem (Ne.symm hc) ih

/-- A text without carriage returns is read as it is written. -/
theorem newlines_ofList {s : List Char} (hs : '\r' ∉ s) :
    universalNewlines (String.ofList s).toList = s := by
  have h := newlines_append hs []
  rw [List.append_nil, universalNewlines, List.append_nil] at h
  rw [String.toList_ofList, h]

/-- Text of one line, with its line break at the end. -/
theorem noSectionStarts_line {prev : Char} (hprev : prev ≠ '\n') {w : List Char}
    (hw : '\n' ∉ w) : noSectionStarts prev (w ++ ['\n']) = true := by
  have hstart : ∀ {p : Char} (s : List Char), p ≠ '\n' → startsSection p s = false := by
    intro p s hp
    simp [startsSection, hp]
  induction w generalizing prev with
  | nil => simp [noSectionStarts, hstart _ hprev]
  | cons c w ih =>
    rw [List.mem_cons, not_or] at hw
    rw [List.cons_append, noSectionStarts, hstart _ hprev, ih (Ne.symm hw.1) hw.2]
    rfl

end Files

end SolanaAuditor.Reports.ReportCheck
