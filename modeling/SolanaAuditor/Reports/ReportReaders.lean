/- SolanaAuditor/Reports/ReportReaders
   digest: What the patterns of the report checks find in a text of fixed and of given parts. -/

import SolanaAuditor.Lib.RegexWalls
import SolanaAuditor.Reports.ReportCheck

set_option autoImplicit false
set_option relaxedAutoImplicit false

namespace SolanaAuditor.Reports.ReportCheck

open SolanaAuditor.Lib SolanaAuditor.Lib.Regex SolanaAuditor.Reports.AuditReport

section Newlines

theorem newlines_cons {c : Char} (hc : c ≠ '\r') (s : List Char) :
    universalNewlines (c :: s) = c :: universalNewlines s := by
  rw [universalNewlines, if_neg hc]

theorem newlines_append {r : List Char} (hr : '\r' ∉ r) (t : List Char) :
    universalNewlines (r ++ t) = r ++ universalNewlines t := by
  induction r with
  | nil => rfl
  | cons c r ih =>
    rw [List.mem_cons, not_or] at hr
    rw [List.cons_append, newlines_cons (Ne.symm hr.1), ih hr.2, List.cons_append]

/-- What stands before a symbol that is no carriage return is read by itself. -/
theorem exists_newlines {b : Char} (hb : b ≠ '\r') (u : List Char) :
    ∃ w, universalNewlines (u ++ [b]) = w ++ [b] ∧
      ∀ s, universalNewlines (u ++ b :: s) = w ++ b :: universalNewlines s := by
  induction u with
  | nil => exact ⟨[], newlines_cons hb [], newlines_cons hb⟩
  | cons c u ih =>
    obtain ⟨w, hw, hall⟩ := ih
    have hhead : ∀ s, (u ++ b :: s).head? = (u ++ [b]).head? := by
      intro s
      cases u <;> rfl
    simp only [List.cons_append, universalNewlines, hw, hall, hhead]
    split_ifs
    · exact ⟨w, rfl, fun _ => rfl⟩
    · exact ⟨'\n' :: w, rfl, fun _ => rfl⟩
    · exact ⟨c :: w, rfl, fun _ => rfl⟩

/-- A line end may be the second half of one that has begun before it. -/
theorem newlines_snoc {c : Char} (hc : c ≠ '\r') (u : List Char) :
    universalNewlines (u ++ [c]) = universalNewlines u ++ [c] ∨
      universalNewlines (u ++ [c]) = universalNewlines u := by
  induction u with
  | nil => exact .inl (newlines_cons hc [])
  | cons d u ih =>
    cases u with
    | nil =>
      by_cases hd : d = '\r'
      · by_cases hn : c = '\n'
        · exact .inr (by simp [universalNewlines, hd, hn])
        · exact .inl (by simp [universalNewlines, hd, hc, hn])
      · exact .inl (by simp [universalNewlines, hd, hc])
    | cons e u =>
      have hhead : (e :: u ++ [c]).head? = (e :: u).head? := rfl
      rw [List.cons_append, universalNewlines, universalNewlines, hhead]
      rcases ih with ih | ih
      · left
        rw [ih]
        split_ifs <;> rfl
      · right
        rw [ih]

end Newlines

section Walls

/-- What a pattern finds in a text, as the text is read. -/
def read (re : Pattern Char) (s : List Char) : Option (List Char) :=
  search re (universalNewlines s)

/-- A text around which nothing is found: matches stand before it or after it. -/
def Wall (re : Pattern Char) (w : List Char) : Prop :=
  ∀ u t, read re (u ++ (w ++ t)) = (read re u).or (read re t)

variable {re : Pattern Char}

theorem read_snoc {c : Char} (hc : c ≠ '\r') (hend : re.mayEnd c = false) (u : List Char) :
    read re (u ++ [c]) = read re u := by
  unfold read
  rcases newlines_snoc hc u with h | h
  · rw [h, search_not_mayEnd hend]
  · rw [h]

theorem Wall.append {w w' : List Char} (h : Wall re w) (h' : Wall re w') : Wall re (w ++ w') := by
  intro u t
  have hnil : read re [] = none := rfl
  have hrest := h' [] t
  rw [List.nil_append, hnil, Option.none_or] at hrest
  rw [List.append_assoc, h, hrest]

/-- A symbol that ends no match may stand before a wall. -/
theorem Wall.pad {c : Char} (hc : c ≠ '\r') (hend : re.mayEnd c = false) {w : List Char}
    (h : Wall re w) : Wall re (c :: w) := by
  intro u t
  rw [← read_snoc hc hend u, ← h (u ++ [c]) t]
  simp

theorem wall_cons (hre : ¬ Fits re.pieces []) {b : Char} (hb : b ≠ '\r')
    (hend : re.mayEnd b = false) (hrejects : re.rejects b = true) {r : List Char}
    (hr : '\r' ∉ r) (hquiet : Quiet re r) : Wall re (b :: r) := by
  intro u t
  obtain ⟨w, hw, hall⟩ := exists_newlines hb u
  have hbefore : search re w = read re u := by
    rw [← read_snoc hb hend u, read, hw, search_not_mayEnd hend]
  show search re (universalNewlines (u ++ b :: (r ++ t))) = _
  rw [hall, search_rejects hre hrejects, hbefore, newlines_append hr, hquiet]
  rfl

/-- The text has a symbol that no match contains, and before it none that ends a match. -/
def shut (re : Pattern Char) : List Char → Bool
  | [] => false
  | c :: w => !re.mayEnd c && (re.rejects c || shut re w)

/-- Text in which no match starts, and that is read as it is written. -/
structure Silent (re : Pattern Char) (w : List Char) : Prop where
  quiet : Quiet re w
  plain : '\r' ∉ w

theorem Silent.append {w w' : List Char} (h : Silent re w) (h' : Silent re w') :
    Silent re (w ++ w') where
  quiet := h.quiet.append h'.quiet
  plain := by simp [h.plain, h'.plain]

theorem Silent.over {next w r : List Char} (h : quietOver re next w = true) (hw : '\r' ∉ w)
    (hr : Silent re (next ++ r)) : Silent re (w ++ (next ++ r)) where
  quiet := hr.quiet.over h
  plain := by
    rw [List.mem_append, not_or]
    exact ⟨hw, hr.plain⟩

/-- A shut text with silent text after it. -/
theorem wall_of_shut (hre : ¬ Fits re.pieces []) {w r : List Char} (hshut : shut re w = true)
    (hquiet : quietOver re [] w = true) (hw : '\r' ∉ w) (hr : Silent re r) : Wall re (w ++ r) := by
  induction w with
  | nil => simp [shut] at hshut
  | cons c w ih =>
    simp only [shut, quietOver, Bool.and_eq_true, Bool.not_eq_true', Bool.or_eq_true]
      at hshut hquiet
    rw [List.mem_cons, not_or] at hw
    obtain ⟨hend, hrejects | hshut⟩ := hshut
    · have hrest : Silent re (w ++ r) := .append ⟨quiet_of_over hquiet.2, hw.2⟩ hr
      exact wall_cons hre (Ne.symm hw.1) hend hrejects hrest.plain hrest.quiet
    · exact (ih hshut hquiet.2 hw.2).pad (Ne.symm hw.1) hend

end Walls

section Readers

/-- The first half of the mark that `check_cvss_consistency` looks for. -/
def markPattern : Pattern Char where
  before := []
  group := []
  after := literally "**CVSS**"

/-- The patterns of the counts, and the mark. -/
inductive Reader (chars : PyChars) : Pattern Char → Prop
  | mark : Reader chars markPattern
  | row {p : String × String} (h : p ∈ levels) : Reader chars (rowPattern chars p.2)

/-- The character tables are those of ASCII on ASCII. -/
structure AsciiChars (chars : PyChars) : Prop where
  isSpace : ∀ c, c.toNat < 128 → chars.isSpace c = PyChars.ascii.isSpace c
  decimal : ∀ c, c.toNat < 128 → chars.decimal c = PyChars.ascii.decimal c
  sameLetter : ∀ c d, c.toNat < 128 → d.toNat < 128 →
    chars.sameLetter c d = PyChars.ascii.sameLetter c d

def asciiReaders : List (Pattern Char) :=
  markPattern :: levels.map fun p => rowPattern PyChars.ascii p.2

variable {chars : PyChars} {re : Pattern Char}

theorem Reader.not_fits_nil (h : Reader chars re) : ¬ Fits re.pieces [] := by
  cases h with
  | mark => exact Regex.not_fits_nil (p := (· == '*')) (List.mem_cons_self)
  | row => exact Regex.not_fits_nil (p := (· == '|')) (List.mem_cons_self)

def IsAscii (c : Char) : Prop := c.toNat < 128

theorem agrees_refl (ps : List (Piece Char)) : List.Forall₂ (Piece.Agrees IsAscii) ps ps := by
  refine List.forall₂_same.mpr fun piece _ => ?_
  cases piece with
  | one p => exact .one fun _ _ => rfl
  | many p => exact .many fun _ _ => rfl

theorem rowPattern_agrees (hchars : AsciiChars chars) {level : String}
    (hlevel : ∀ c ∈ level.toList, IsAscii c) :
    (rowPattern chars level).Agrees IsAscii (rowPattern PyChars.ascii level) := by
  have hspace : Piece.Agrees IsAscii (.many chars.isSpace) (.many PyChars.ascii.isSpace) :=
    .many hchars.isSpace
  have hdigit : ∀ c, IsAscii c → isDecimal chars c = isDecimal PyChars.ascii c := fun c hc => by
    rw [isDecimal, isDecimal, hchars.decimal c hc]
  have hbar : Piece.Agrees IsAscii (.one (· == '|')) (.one (· == '|')) := .one fun _ _ => rfl
  have hletters : List.Forall₂ (Piece.Agrees IsAscii)
      (level.toList.map fun c => .one (chars.sameLetter c))
      (level.toList.map fun c => .one (PyChars.ascii.sameLetter c)) := by
    rw [List.forall₂_map_left_iff, List.forall₂_map_right_iff]
    exact List.forall₂_same.mpr fun c hc => .one fun d hd =>
      hchars.sameLetter c d (hlevel c hc) hd
  refine ⟨?_, ?_, ?_⟩
  · exact List.rel_append (List.rel_append (.cons hbar (.cons hspace .nil)) hletters)
      (.cons hspace (.cons hbar (.cons hspace .nil)))
  · exact .cons (.one hdigit) (.cons (.many hdigit) .nil)
  · exact .cons hspace (.cons hbar .nil)

/-- A reader works like one of the fixed list on ASCII texts. -/
theorem Reader.exists_ascii (hchars : AsciiChars chars) (h : Reader chars re) :
    ∃ re' ∈ asciiReaders, re.Agrees IsAscii re' ∧ ∀ c, re.mayEnd c = re'.mayEnd c := by
  cases h with
  | mark =>
    exact ⟨markPattern, List.mem_cons_self,
      ⟨agrees_refl _, agrees_refl _, agrees_refl _⟩, fun _ => rfl⟩
  | @row p hp =>
    refine ⟨rowPattern PyChars.ascii p.2, ?_, rowPattern_agrees hchars ?_, fun _ => rfl⟩
    · exact List.mem_cons_of_mem _ (List.mem_map_of_mem hp)
    · have hall : ∀ q ∈ levels, (q.2.toList.all fun c => decide (c.toNat < 128)) = true := by
        decide
      intro c hc
      have hsmall := List.all_eq_true.mp (hall p hp) c hc
      rwa [decide_eq_true_eq] at hsmall

def plainText (s : List Char) : Bool := s.all fun c => c.toNat < 128 && c != '\r'

def quietText (next s : List Char) : Bool :=
  plainText next && plainText s && asciiReaders.all (quietOver · next s)

def wallText (s : List Char) : Bool := quietText [] s && asciiReaders.all (shut · s)

theorem isAscii_of_plainText {s : List Char} (h : plainText s = true) : ∀ c ∈ s, IsAscii c := by
  intro c hc
  have hplain := List.all_eq_true.mp h c hc
  simp only [Bool.and_eq_true, decide_eq_true_eq] at hplain
  exact hplain.1

theorem not_mem_of_plainText {s : List Char} (h : plainText s = true) : '\r' ∉ s := by
  intro hmem
  simpa using List.all_eq_true.mp h _ hmem

theorem Reader.quietOver (h : Reader chars re) (hchars : AsciiChars chars) {next s : List Char}
    (hs : quietText next s = true) : Regex.quietOver re next s = true := by
  obtain ⟨re', hre', hagrees, -⟩ := h.exists_ascii hchars
  simp only [quietText, Bool.and_eq_true, List.all_eq_true] at hs
  rw [quietOver_congr hagrees (isAscii_of_plainText hs.1.1) (isAscii_of_plainText hs.1.2)]
  exact hs.2 re' hre'

theorem Reader.shut (h : Reader chars re) (hchars : AsciiChars chars) {s : List Char}
    (hs : wallText s = true) : ReportCheck.shut re s = true := by
  obtain ⟨re', hre', hagrees, hend⟩ := h.exists_ascii hchars
  simp only [wallText, quietText, Bool.and_eq_true, List.all_eq_true] at hs
  have hshut : ∀ w : List Char, (∀ c ∈ w, IsAscii c) →
      ReportCheck.shut re w = ReportCheck.shut re' w := by
    intro w hw
    induction w with
    | nil => rfl
    | cons c w ih =>
      obtain ⟨hc, hrest⟩ := List.forall_mem_cons.mp hw
      rw [ReportCheck.shut, ReportCheck.shut, hend, rejects_congr hagrees hc, ih hrest]
  rw [hshut s (isAscii_of_plainText hs.1.1.2)]
  exact hs.2 re' hre'

theorem plainText_of_quietText {next s : List Char} (h : quietText next s = true) :
    plainText s = true := by
  simp only [quietText, Bool.and_eq_true] at h
  exact h.1.2

theorem Reader.silent (h : Reader chars re) (hchars : AsciiChars chars) {s : List Char}
    (hs : quietText [] s = true) : Silent re s where
  quiet := quiet_of_over (h.quietOver hchars hs)
  plain := not_mem_of_plainText (plainText_of_quietText hs)

theorem Reader.silent_over (h : Reader chars re) (hchars : AsciiChars chars)
    {next s r : List Char} (hs : quietText next s = true) (hr : Silent re (next ++ r)) :
    Silent re (s ++ (next ++ r)) :=
  .over (h.quietOver hchars hs) (not_mem_of_plainText (plainText_of_quietText hs)) hr

theorem Reader.wall_append (h : Reader chars re) (hchars : AsciiChars chars) {s r : List Char}
    (hs : wallText s = true) (hr : Silent re r) : Wall re (s ++ r) := by
  have hquiet : quietText [] s = true := by
    simp only [wallText, Bool.and_eq_true] at hs
    exact hs.1
  exact wall_of_shut h.not_fits_nil (h.shut hchars hs) (h.quietOver hchars hquiet)
    (not_mem_of_plainText (plainText_of_quietText hquiet)) hr

theorem Reader.wall (h : Reader chars re) (hchars : AsciiChars chars) {s : List Char}
    (hs : wallText s = true) : Wall re s := by
  simpa using h.wall_append hchars hs (r := []) ⟨fun _ => rfl, by simp⟩

/-! Numbers. -/

def digits : List Char := "0123456789".toList

theorem mem_digits {c : Char} (h : c.isDigit = true) : c ∈ digits := by
  have hall : ∀ k < 10, Char.ofNat (48 + k) ∈ digits := by decide
  have hrange : 48 ≤ c.toNat ∧ c.toNat ≤ 57 := by
    simpa [Char.isDigit, UInt32.le_iff_toNat_le] using h
  have hc := hall (c.toNat - 48) (by omega)
  rwa [Nat.add_sub_cancel' hrange.1, Char.ofNat_toNat] at hc

theorem exists_toString (n : Nat) :
    ∃ d ds, (toString n).toList = d :: ds ∧ d ∈ digits ∧ ∀ c ∈ ds, c ∈ digits := by
  have htext : (toString n).toList = Nat.toDigits 10 n := by
    simp
  have hall : ∀ c ∈ Nat.toDigits 10 n, c ∈ digits := fun c hc =>
    mem_digits (Nat.isDigit_of_mem_toDigits (by decide) (by decide) hc)
  rw [htext]
  cases hlist : Nat.toDigits 10 n with
  | nil => exact absurd hlist Nat.toDigits_ne_nil
  | cons d ds =>
    rw [hlist] at hall
    exact ⟨d, ds, rfl, List.forall_mem_cons.mp hall⟩

theorem Reader.silent_digits (h : Reader chars re) (hchars : AsciiChars chars) {s : List Char}
    (hs : ∀ c ∈ s, c ∈ digits) : Silent re s := by
  have hsingle : (digits.all fun d => quietText [] [d]) = true := by decide
  induction s with
  | nil => exact ⟨fun _ => rfl, by simp⟩
  | cons c s ih =>
    obtain ⟨hc, hrest⟩ := List.forall_mem_cons.mp hs
    exact (h.silent hchars (List.all_eq_true.mp hsingle c hc)).append (ih hrest)

/-- A text and a number after it, whose first digit ends every match that has begun. -/
theorem Reader.silent_number (h : Reader chars re) (hchars : AsciiChars chars) {s : List Char}
    (hs : (digits.all fun d => quietText [] (s ++ [d])) = true) (n : Nat) :
    Silent re (s ++ (toString n).toList) := by
  obtain ⟨d, ds, htext, hd, hds⟩ := exists_toString n
  have hfirst := h.silent hchars (List.all_eq_true.mp hs d hd)
  rw [htext]
  simpa using hfirst.append (h.silent_digits hchars hds)

end Readers

end SolanaAuditor.Reports.ReportCheck
