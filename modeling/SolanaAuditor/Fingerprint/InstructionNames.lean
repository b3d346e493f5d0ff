/- SolanaAuditor/Fingerprint/InstructionNames
   digest: What detect_by_instructions of scripts/protocol-fingerprint.sh counts, and what it says. -/

import SolanaAuditor.Fingerprint.ScanVerdict
import SolanaAuditor.Fingerprint.SignatureDb
import SolanaAuditor.Lib.Lists

set_option autoImplicit false
set_option relaxedAutoImplicit false

namespace SolanaAuditor.Fingerprint

open SolanaAuditor.Lib SolanaAuditor.Lib.Lists
open SolanaAuditor.History (echoArg)

/-- The blanks of `\s`, and the letters that `grep -i` takes for one. -/
structure GrepChars where
  isSpace : Char → Bool
  sameLetter : Char → Char → Bool

section Named

/-! A name in a text: on some line, after the line start, a quote or a blank, and before a quote, a
blank or a comma. -/

variable (chars : GrepChars)

def beforeName (c : Char) : Bool := c == '\x22' || chars.isSpace c

def afterName (c : Char) : Bool := c == '\x22' || chars.isSpace c || c == ','

/-- The text begins with the name and a sign after it. -/
def namedHere : List Char → List Char → Bool
  | _, [] => false
  | [], c :: _ => afterName chars c
  | a :: w, c :: s => chars.sameLetter a c && namedHere w s

/-- The name stands in a line; `start` says whether it may stand at its start. -/
def namedFrom (w : List Char) : Bool → List Char → Bool
  | _, [] => false
  | start, c :: s => start && namedHere chars w (c :: s) || namedFrom w (beforeName chars c) s

def named (w text : List Char) : Bool := (text.splitOn '\n').any (namedFrom chars w true)

variable {chars} {w : List Char}

theorem namedHere_iff {s : List Char} : namedHere chars w s = true ↔
    ∃ v c b, s = v ++ c :: b ∧ List.Forall₂ (fun a d => chars.sameLetter a d = true) w v ∧
      afterName chars c = true := by
  induction w generalizing s with
  | nil =>
    cases s with
    | nil => simp [namedHere]
    | cons c s => simp [namedHere]
  | cons a w ih =>
    cases s with
    | nil => simp [namedHere]
    | cons d s =>
      rw [namedHere, Bool.and_eq_true, ih]
      constructor
      · rintro ⟨hsame, v, c, b, rfl, hv, hc⟩
        exact ⟨d :: v, c, b, rfl, .cons hsame hv, hc⟩
      · rintro ⟨v, c, b, hs, hv, hc⟩
        obtain ⟨e, u, hsame, hu, rfl⟩ := List.forall₂_cons_left_iff.mp hv
        obtain ⟨rfl, rfl⟩ := List.cons.inj hs
        exact ⟨hsame, u, c, b, rfl, hu, hc⟩

theorem namedFrom_iff {start : Bool} {s : List Char} : namedFrom chars w start s = true ↔
    ∃ a r, s = a ++ r ∧ namedHere chars w r = true ∧
      (a = [] ∧ start = true ∨ ∃ d, a.getLast? = some d ∧ beforeName chars d = true) := by
  induction s generalizing start with
  | nil => simp [namedFrom, namedHere]
  | cons c s ih =>
    rw [namedFrom, Bool.or_eq_true, Bool.and_eq_true, ih]
    constructor
    · rintro (⟨hstart, hhere⟩ | ⟨a, r, rfl, hhere, hbefore⟩)
      · exact ⟨[], c :: s, rfl, hhere, .inl ⟨rfl, hstart⟩⟩
      · refine ⟨c :: a, r, rfl, hhere, .inr ?_⟩
        rcases hbefore with ⟨rfl, hc⟩ | ⟨d, hd, hbefore⟩
        · exact ⟨c, rfl, hc⟩
        · exact ⟨d, by rw [List.getLast?_cons, hd]; rfl, hbefore⟩
    · rintro ⟨a, r, hs, hhere, hbefore⟩
      cases a with
      | nil =>
        obtain rfl : c :: s = r := hs
        refine .inl ⟨?_, hhere⟩
        rcases hbefore with ⟨-, hstart⟩ | ⟨d, hd, -⟩
        · exact hstart
        · contradiction
      | cons e a =>
        obtain ⟨rfl, rfl⟩ := List.cons.inj hs
        refine .inr ⟨a, r, rfl, hhere, ?_⟩
        rcases hbefore with ⟨hnil, -⟩ | ⟨d, hd, hbefore⟩
        · contradiction
        · cases ha : a.getLast? with
          | none =>
            rw [List.getLast?_cons, ha] at hd
            obtain rfl : c = d := Option.some.inj hd
            exact .inl ⟨List.getLast?_eq_none_iff.mp ha, hbefore⟩
          | some e =>
            rw [List.getLast?_cons, ha] at hd
            obtain rfl : e = d := Option.some.inj hd
            exact .inr ⟨e, rfl, hbefore⟩

/-- The places of a name in a text. -/
theorem named_iff {text : List Char} : named chars w text = true ↔
    ∃ line ∈ text.splitOn '\n', ∃ a v c b, line = a ++ (v ++ c :: b) ∧
      (a = [] ∨ ∃ d, a.getLast? = some d ∧ beforeName chars d = true) ∧
      List.Forall₂ (fun a d => chars.sameLetter a d = true) w v ∧ afterName chars c = true := by
  rw [named, List.any_eq_true]
  refine exists_congr fun line => and_congr_right fun _ => ?_
  rw [namedFrom_iff]
  constructor
  · rintro ⟨a, r, rfl, hhere, hbefore⟩
    obtain ⟨v, c, b, rfl, hv, hc⟩ := namedHere_iff.mp hhere
    exact ⟨a, v, c, b, rfl, hbefore.imp_left And.left, hv, hc⟩
  · rintro ⟨a, v, c, b, rfl, hbefore, hv, hc⟩
    exact ⟨a, v ++ c :: b, rfl, namedHere_iff.mpr ⟨v, c, b, rfl, hv, hc⟩,
      hbefore.imp_left fun h => ⟨h, rfl⟩⟩

end Named

section Printed

/-! The lines that `jq` prints of an array of names, and what `grep` makes of them. -/

/-- An array of texts as `jq` prints it: each on a line of its own, a comma after all but the
last. -/
def itemLines (render : Json → String) : List String → List String
  | [] => []
  | [s] => ["  " ++ render (.str s)]
  | s :: t :: rest => ("  " ++ render (.str s) ++ ",") :: itemLines render (t :: rest)

def arrayLines (render : Json → String) (names : List String) : List String :=
  if names = [] then ["[]"] else "[" :: (itemLines render names ++ ["]"])

/-- The manual of `jq` on arrays of texts. -/
structure PrintsArrays (render : Json → String) : Prop where
  array : ∀ names : List String,
    render (.arr (names.map Json.str)) = "\n".intercalate (arrayLines render names)
  line : ∀ s : String, ∀ c ∈ (render (.str s)).toList, c ≠ '\n' ∧ c ≠ '\x00'

/-- No character of the text has a meaning of its own in an extended regular expression. -/
def literalText (s : String) : Bool :=
  s.toList.all fun c => !("\n\\^$.[()*+?\x7b|".toList.contains c)

/-- `grep -qiE` on the patterns of `detect_by_instructions`, for one text: a literal text is found
where it is named; `[` opens a bracket expression that no character closes, which is an error. -/
structure GrepFinds (chars : GrepChars) (grep : String → String → Bool) (idl : String) : Prop where
  literal : ∀ line, literalText line = true →
    grep (instructionPattern line) idl = named chars line.toList idl.toList
  unclosed : ∀ line, line = "[" ∨ line = "[]" → grep (instructionPattern line) idl = false

variable (chars : GrepChars) (tools : Tools) (idl : String)

/-- The text has the printed line as a name; a line that is no literal text is what `grep` makes
of it. -/
def found (line : String) : Bool :=
  if literalText line then named chars line.toList idl.toList
  else tools.grep (instructionPattern line) idl

/-- The printed lines that can be found: those of the names, and the closing bracket. -/
def printedLines (names : List String) : List String :=
  if names = [] then [] else itemLines tools.render names ++ ["]"]

/-- The number of printed lines that the text has. -/
def printed (names : List String) : Nat := (printedLines tools names).countP (found chars tools idl)

/-- The number of names that occur in the text. -/
def occurring (names : List String) : Nat :=
  names.countP fun name => named chars name.toList idl.toList

end Printed

section Reads

variable {chars : GrepChars} {tools : Tools} {idl : String} {entries : List (String × Json)}

theorem readLines_intercalate {lines : List String} (hne : lines ≠ [])
    (h : ∀ line ∈ lines, '\n' ∉ line.toList) : readLines ("\n".intercalate lines) = lines := by
  have hsplit : ("\n".intercalate lines).toList.splitOn '\n' = lines.map String.toList := by
    rw [String.toList_intercalate]
    refine List.splitOn_intercalate '\n' ?_ (by simpa using hne)
    intro l hl
    obtain ⟨line, hline, rfl⟩ := List.mem_map.mp hl
    exact h line hline
  rw [readLines, ← List.splitOn_eq_splitOnP, hsplit, List.map_map]
  exact (List.map_congr_left fun line _ => String.ofList_toList).trans (List.map_id _)

theorem chars_itemLines (hjq : PrintsArrays tools.render) {names : List String} :
    ∀ line ∈ itemLines tools.render names, ∀ c ∈ line.toList, c ≠ '\n' ∧ c ≠ '\x00' := by
  have hlead : ∀ c ∈ "  ".toList, c ≠ '\n' ∧ c ≠ '\x00' := by simp
  have hcomma : ∀ c ∈ ",".toList, c ≠ '\n' ∧ c ≠ '\x00' := by simp
  fun_induction itemLines tools.render names with
  | case1 => simp
  | case2 s =>
    intro line hline c hc
    rw [List.mem_singleton.mp hline, String.toList_append, List.mem_append] at hc
    exact hc.elim (hlead c) (hjq.line s c)
  | case3 s t rest ih =>
    refine List.forall_mem_cons.mpr ⟨fun c hc => ?_, ih⟩
    rw [String.toList_append, String.toList_append, List.mem_append, List.mem_append] at hc
    exact hc.elim (Or.elim · (hlead c) (hjq.line s c)) (hcomma c)

theorem chars_arrayLines (hjq : PrintsArrays tools.render) {names : List String} :
    ∀ line ∈ arrayLines tools.render names, ∀ c ∈ line.toList, c ≠ '\n' ∧ c ≠ '\x00' := by
  unfold arrayLines
  split_ifs
  · simp
  · rw [List.forall_mem_cons, List.forall_mem_append, List.forall_mem_singleton]
    exact ⟨by simp, chars_itemLines hjq, by simp⟩

theorem notNull_intercalate {lines : List String}
    (h : ∀ line ∈ lines, ∀ c ∈ line.toList, c ≠ '\x00') :
    '\x00' ∉ ("\n".intercalate lines).toList := by
  induction lines with
  | nil => simp
  | cons line lines ih =>
    obtain ⟨hline, hlines⟩ := List.forall_mem_cons.mp h
    by_cases hnil : lines = []
    · subst hnil
      simpa using fun hmem => hline _ hmem rfl
    · have hbreak : '\x00' ∉ "\n".toList := by decide
      rw [String.intercalate_cons_of_ne_nil hnil, String.toList_append, String.toList_append]
      simp only [List.mem_append, not_or]
      exact ⟨⟨fun hmem => hline _ hmem rfl, hbreak⟩, ih hlines⟩

/-- A printed array begins and ends with its brackets. -/
theorem brackets_array (render : Json → String) (names : List String) :
    ∃ inner, ("\n".intercalate (arrayLines render names)).toList = '[' :: (inner ++ [']']) := by
  unfold arrayLines
  split_ifs with hempty
  · exact ⟨[], by simp⟩
  · have hitems : itemLines render names ≠ [] := by
      fun_cases itemLines render names <;> simp_all
    rw [String.intercalate_cons_of_ne_nil (by simp),
      String.intercalate_append_of_ne_nil hitems (by simp)]
    exact ⟨'\n' :: (("\n".intercalate (itemLines render names)).toList ++ ['\n']), by simp⟩

/-- The lines of the instructions of a protocol. -/
theorem readLines_instructions (h : Database tools.sigDb entries) (hjq : PrintsArrays tools.render)
    {e : String × Json} (he : e ∈ entries) {names : List String}
    (hnames : e.2.get? "instructions" = some (.arr (names.map Json.str))) :
    readLines (jqGet tools (jqPath ["protocols", e.1, "instructions"]) "[]" tools.sigDb) =
      arrayLines tools.render names := by
  have hquery : (jqPath ["protocols", e.1, "instructions"] tools.sigDb).1 =
      [.arr (names.map Json.str)] := by
    rw [jqPath_field h he, jqPath_get hnames (by simp) (by simp)]
  have hlines : ∀ line ∈ arrayLines tools.render names, ∀ c ∈ line.toList,
      c ≠ '\n' ∧ c ≠ '\x00' := chars_arrayLines hjq
  have hne : arrayLines tools.render names ≠ [] := by
    unfold arrayLines
    split_ifs <;> simp
  obtain ⟨inner, hinner⟩ := brackets_array tools.render names
  have htext := hjq.array names
  have hnull : '\x00' ∉ (tools.render (.arr (names.map Json.str))).toList := by
    rw [htext]
    exact notNull_intercalate fun line hline c hc => (hlines line hline c hc).2
  rw [← htext] at hinner
  have hlast : (tools.render (.arr (names.map Json.str))).toList.getLast? = some ']' := by
    rw [hinner, ← List.cons_append, List.getLast?_concat]
  have hoption : isEchoOption (tools.render (.arr (names.map Json.str))) = false := by
    rw [isEchoOption, hinner]
    rfl
  rw [jqGet_text hquery (by simp) hnull hlast hoption, htext]
  exact readLines_intercalate hne fun line hline hmem => (hlines line hline _ hmem).1 rfl

theorem itemLines_ne_empty (render : Json → String) (names : List String) :
    ∀ line ∈ itemLines render names, line ≠ "" := by
  fun_induction itemLines render names with
  | case1 => simp
  | case2 s => simp
  | case3 s t rest ih => exact List.forall_mem_cons.mpr ⟨by simp, ih⟩

/-- What the inner loop counts: the printed lines that the text has. -/
theorem instructionCount_eq (h : Database tools.sigDb entries) (hjq : PrintsArrays tools.render)
    (hgrep : GrepFinds chars tools.grep idl) {e : String × Json} (he : e ∈ entries)
    {names : List String} (hnames : e.2.get? "instructions" = some (.arr (names.map Json.str))) :
    instructionCount tools idl e.1 = printed chars tools idl names := by
  have hfound : ∀ line, tools.grep (instructionPattern line) idl = found chars tools idl line := by
    intro line
    unfold found
    split_ifs with hliteral
    · exact hgrep.literal line hliteral
    · rfl
  have hopen : found chars tools idl "[" = false := by
    rw [← hfound]
    exact hgrep.unclosed "[" (.inl rfl)
  have hempty : found chars tools idl "[]" = false := by
    rw [← hfound]
    exact hgrep.unclosed "[]" (.inr rfl)
  have hcount : ∀ lines : List String, (∀ line ∈ lines, line ≠ "") →
      (lines.filter fun line => decide (line ≠ "") && found chars tools idl line).length =
        lines.countP (found chars tools idl) := by
    intro lines hlines
    rw [← List.countP_eq_length_filter]
    refine List.countP_congr fun line hline => ?_
    simp [hlines line hline]
  simp only [instructionCount, readLines_instructions h hjq he hnames, hfound]
  unfold arrayLines printed printedLines
  split_ifs with hnil
  · simp [hempty]
  · have hall : ∀ line ∈ itemLines tools.render names ++ ["]"], line ≠ "" :=
      List.forall_mem_append.mpr ⟨itemLines_ne_empty _ _, by simp⟩
    rw [List.filter_cons_of_neg (by simp [hopen])]
    exact hcount _ hall

end Reads

section Verdict

variable {chars : GrepChars} {tools : Tools} {idl : String} {entries : List (String × Json)}

/-- The instruction names of the protocol with this name. -/
def listedNames (entries : List (String × Json)) (protocol : String) : List String :=
  match (Dict.get? entries protocol).bind (·.get? "instructions") with
  | some (.arr items) => items.filterMap fun
      | .str s => some s
      | _ => none
  | _ => []

/-- A database in which every protocol has an array of instruction names. -/
structure InstructionDb (sigDb : Json) (entries : List (String × Json)) : Prop
    extends Database sigDb entries where
  listed : ∀ e ∈ entries, ∃ names : List String,
    e.2.get? "instructions" = some (.arr (names.map Json.str))

/-- The number of names of a protocol that occur in the text. -/
def nameCount (chars : GrepChars) (entries : List (String × Json)) (idl name : String) : Nat :=
  occurring chars idl (listedNames entries name)

/-- The number of its printed lines that the text has. -/
def lineCount (chars : GrepChars) (tools : Tools) (entries : List (String × Json))
    (idl name : String) : Nat :=
  printed chars tools idl (listedNames entries name)

/-- 90, 70 and 50 for at least 5, 3 and 1 names. -/
def confidenceOf (count : Nat) : Nat :=
  if 5 ≤ count then 90 else if 3 ≤ count then 70 else if 1 ≤ count then 50 else 0

/-- A protocol with the most names that occur in the text, and the confidence for their number; or
no protocol, where no name occurs. -/
def Identified (chars : GrepChars) (entries : List (String × Json)) (idl : String)
    (result : String × Nat) : Prop :=
  (∀ name ∈ entries.map Prod.fst, nameCount chars entries idl name = 0) ∧ result = ("", 0) ∨
  ∃ name ∈ entries.map Prod.fst, 0 < nameCount chars entries idl name ∧
    (∀ other ∈ entries.map Prod.fst,
      nameCount chars entries idl other ≤ nameCount chars entries idl name) ∧
    result = (name, confidenceOf (nameCount chars entries idl name))

theorem confidenceOf_pos {count : Nat} : 0 < confidenceOf count ↔ 0 < count := by
  unfold confidenceOf
  split_ifs <;> omega

theorem listedNames_of_mem (h : Database tools.sigDb entries) {e : String × Json} (he : e ∈ entries)
    {names : List String} (hnames : e.2.get? "instructions" = some (.arr (names.map Json.str))) :
    listedNames entries e.1 = names := by
  rw [listedNames, Dict.get?_of_mem h.distinct he, Option.bind_some, hnames]
  simp [List.filterMap_map]

theorem mem_of_namesRead {name : String} (h : name ∈ namesRead entries) :
    name ≠ "" ∧ name ∈ entries.map Prod.fst := by
  have hfilter : name ∈ (sortedNames entries).filter (· ≠ "") := by
    unfold namesRead at h
    split at h
    · rename_i hnames
      split_ifs at h
      · contradiction
      · rwa [hnames]
    · exact h
  obtain ⟨hmem, hne⟩ := List.mem_filter.mp hfilter
  exact ⟨by simpa using hne, StableSort.mem_sort.mp hmem⟩

theorem instructionMatch_eq (names : List String) (best : String × Nat) :
    instructionMatch tools idl names best =
      (names.filter (· ≠ "")).foldl (keepLarger (instructionCount tools idl)) best := by
  induction names generalizing best with
  | nil => rfl
  | cons name names ih =>
    rw [instructionMatch]
    by_cases hname : name = ""
    · rw [if_pos hname, ih, List.filter_cons_of_neg (by simpa using hname)]
    · rw [if_neg hname, ih, List.filter_cons_of_pos (by simpa using hname), List.foldl_cons]
      rfl

/-- The loop over the protocols: none has a printed line in the text, or the first with the most
is kept. -/
theorem detectByInstructions_cases (h : InstructionDb tools.sigDb entries)
    (hjq : PrintsArrays tools.render) (hgrep : GrepFinds chars tools.grep idl) :
    (∀ name ∈ namesRead entries, lineCount chars tools entries idl name = 0) ∧
        detectByInstructions tools idl = ("", 0) ∨
    ∃ name, FirstLargest (lineCount chars tools entries idl) (namesRead entries) name ∧
      0 < lineCount chars tools entries idl name ∧
      detectByInstructions tools idl = (name, confidenceOf (lineCount chars tools entries idl name)) := by
  have hscore : ∀ name ∈ namesRead entries, instructionCount tools idl name =
      lineCount chars tools entries idl name := by
    intro name hname
    obtain ⟨e, he, rfl⟩ := List.mem_map.mp (mem_of_namesRead hname).2
    obtain ⟨names, hnames⟩ := h.listed e he
    rw [lineCount, listedNames_of_mem h.toDatabase he hnames]
    exact instructionCount_eq h.toDatabase hjq hgrep he hnames
  have hresult : detectByInstructions tools idl =
      let best := (namesRead entries).foldl (keepLarger (instructionCount tools idl)) ("", 0)
      (best.1, confidenceOf best.2) := by
    rw [← filter_protocols h.toDatabase, ← instructionMatch_eq]
    rfl
  rw [hresult]
  rcases foldl_keepLarger (instructionCount tools idl) (namesRead entries) ("", 0) with
    ⟨hall, hend⟩ | ⟨name, hlargest, hpos, hend⟩
  · refine .inl ⟨fun name hname => ?_, by rw [hend]; rfl⟩
    have hle := hall name hname
    rw [hscore name hname] at hle
    exact Nat.le_zero.mp hle
  · refine .inr ⟨name, ?_, ?_, ?_⟩
    · obtain ⟨before, after, hnames, hbefore, hafter⟩ := hlargest
      have hread : ∀ other, other ∈ before ++ name :: after → instructionCount tools idl other =
          lineCount chars tools entries idl other := fun other hother => hscore other (hnames ▸ hother)
      refine ⟨before, after, hnames, fun other hother => ?_, fun other hother => ?_⟩
      · rw [← hread other (by simp [hother]), ← hread name (by simp)]
        exact hbefore other hother
      · rw [← hread other (by simp [hother]), ← hread name (by simp)]
        exact hafter other hother
    · rw [hscore name hlargest.mem] at hpos
      exact hpos
    · rw [hend, hscore name hlargest.mem]

end Verdict

/-- The detection names the protocol with the most names in the text exactly where no printed line
and no name is in the text, or the first protocol with the most printed lines has the most names
too and the two numbers have the same confidence. A printed line is a name in its quotes after two
blanks, with a comma but for the last one, or the closing bracket. -/
theorem identified_iff (chars : GrepChars) (tools : Tools) (idl : String)
    (entries : List (String × Json)) (h : InstructionDb tools.sigDb entries)
    (hjq : PrintsArrays tools.render) (hgrep : GrepFinds chars tools.grep idl) :
    Identified chars entries idl (detectByInstructions tools idl) ↔
      (∀ name ∈ namesRead entries, lineCount chars tools entries idl name = 0) ∧
        (∀ name ∈ entries.map Prod.fst, nameCount chars entries idl name = 0) ∨
      ∃ name, FirstLargest (lineCount chars tools entries idl) (namesRead entries) name ∧
        0 < lineCount chars tools entries idl name ∧
        (∀ other ∈ entries.map Prod.fst,
          nameCount chars entries idl other ≤ nameCount chars entries idl name) ∧
        confidenceOf (lineCount chars tools entries idl name) =
          confidenceOf (nameCount chars entries idl name) := by
  have hno : ∀ name : String, 0 < nameCount chars entries idl name →
      ("", 0) ≠ (name, confidenceOf (nameCount chars entries idl name)) := by
    intro name hpos heq
    have hconfidence := confidenceOf_pos.mpr hpos
    rw [← (Prod.mk.inj heq).2] at hconfidence
    exact absurd hconfidence (lt_irrefl 0)
  rcases detectByInstructions_cases h hjq hgrep with ⟨hnone, hresult⟩ | ⟨best, hbest, hpos, hresult⟩
  · rw [hresult]
    constructor
    · rintro (⟨hzero, -⟩ | ⟨name, -, hcount, -, heq⟩)
      · exact .inl ⟨hnone, hzero⟩
      · exact absurd heq (hno name hcount)
    · rintro (⟨-, hzero⟩ | ⟨name, hlargest, hcount, -⟩)
      · exact .inl ⟨hzero, rfl⟩
      · exact absurd (hnone name hlargest.mem) hcount.ne'
  · rw [hresult]
    have hmem := (mem_of_namesRead hbest.mem).2
    constructor
    · rintro (⟨-, heq⟩ | ⟨name, -, -, hmax, heq⟩)
      · have hconfidence := confidenceOf_pos.mpr hpos
        rw [(Prod.mk.inj heq).2] at hconfidence
        exact absurd hconfidence (lt_irrefl 0)
      · obtain ⟨rfl, hconfidence⟩ := Prod.mk.inj heq
        exact .inr ⟨best, hbest, hpos, hmax, hconfidence⟩
    · rintro (⟨hnone, -⟩ | ⟨name, hlargest, -, hmax, hconfidence⟩)
      · exact absurd (hnone best hbest.mem) hpos.ne'
      · obtain rfl : name = best := hlargest.unique hbest
        refine .inr ⟨name, hmem, ?_, hmax, by rw [hconfidence]⟩
        rw [← confidenceOf_pos, ← hconfidence, confidenceOf_pos]
        exact hpos

section Samples

def asciiChars : GrepChars where
  isSpace c := c == ' ' || c == '\t'
  sameLetter a c := a.toLower == c.toLower

/-- `grep` on the patterns of `detect_by_instructions` whose text is literal. -/
def literalGrep (pattern text : String) : Bool :=
  let inner := pattern.toList.drop 8
  let line := inner.take (inner.length - 8)
  literalText (String.ofList line) && named asciiChars line text.toList

def escapedChar : Char → List Char
  | '\x00' => "\\u0000".toList
  | '\n' => "\\n".toList
  | '\x22' => "\\\x22".toList
  | '\\' => "\\\\".toList
  | c => [c]

/-- `jq` on texts without other control characters. -/
def scalarText : Json → String
  | .str s => quoted (String.ofList (s.toList.flatMap escapedChar))
  | _ => "null"

def sampleRender : Json → String
  | .arr items => "\n".intercalate (arrayLines scalarText (items.filterMap fun
      | .str s => some s
      | _ => none))
  | v => scalarText v

/-- One protocol with one instruction. -/
def swapEntries : List (String × Json) :=
  [("amm", .obj [("program_id", .str "Amm111"), ("instructions", .arr [.str "swap"])])]

/-- A text in which the instruction stands as it is printed. -/
def swapIdl : String := "   \x22swap\x22 ,"

def swapTools : Tools :=
  { emptyTools with
    sigDb := .obj [("protocols", .obj swapEntries)]
    render := sampleRender
    grep := literalGrep }

theorem literalGrep_pattern (line text : String) :
    literalGrep (instructionPattern line) text =
      (literalText line && named asciiChars line.toList text.toList) := by
  have hpattern : (instructionPattern line).toList =
      "(^|\x22|\\s)".toList ++ (line.toList ++ "(\x22|\\s|,)".toList) := by
    simp [instructionPattern]
  have hbefore : "(^|\x22|\\s)".toList.length = 8 := by decide
  have hafter : "(\x22|\\s|,)".toList.length = 8 := by decide
  rw [literalGrep, hpattern, List.drop_left' hbefore, List.length_append, hafter,
    Nat.add_sub_cancel, List.take_left, String.ofList_toList]

theorem literalGrep_finds (idl : String) : GrepFinds asciiChars literalGrep idl := by
  refine ⟨fun line hline => ?_, fun line hline => ?_⟩
  · rw [literalGrep_pattern, hline, Bool.true_and]
  · have hliteral : literalText line = false := by
      rcases hline with rfl | rfl
      · decide
      · decide
    rw [literalGrep_pattern, hliteral, Bool.false_and]

theorem swapTools_finds (idl : String) : GrepFinds asciiChars swapTools.grep idl := by
  simp only [swapTools]
  exact literalGrep_finds idl

theorem itemLines_scalarText (names : List String) :
    itemLines scalarText names = itemLines sampleRender names := by
  fun_induction itemLines scalarText names with
  | case1 => rfl
  | case2 s => rfl
  | case3 s t rest ih => rw [ih]; rfl

theorem sampleRender_names (names : List String) :
    sampleRender (.arr (names.map Json.str)) =
      "\n".intercalate (arrayLines sampleRender names) := by
  have hnames : (names.map Json.str).filterMap (fun
      | .str s => some s
      | _ => none) = names := by
    simp [List.filterMap_map]
  rw [sampleRender, hnames, arrayLines, arrayLines, itemLines_scalarText]

theorem swapTools_prints : PrintsArrays swapTools.render where
  array := sampleRender_names
  line s c hc := by
    have hescaped : ∀ d, ∀ c ∈ escapedChar d, c ≠ '\n' ∧ c ≠ '\x00' := by
      intro d
      fun_cases escapedChar d <;> simp_all
    have htext : (swapTools.render (.str s)).toList =
        '\x22' :: (s.toList.flatMap escapedChar ++ ['\x22']) := by
      simp [swapTools, sampleRender, scalarText, quoted]
    rw [htext, List.mem_cons, List.mem_append, List.mem_flatMap, List.mem_singleton] at hc
    rcases hc with rfl | ⟨d, -, hd⟩ | rfl
    · decide
    · exact hescaped d c hd
    · decide

theorem swapTools_db : InstructionDb swapTools.sigDb swapEntries where
  protocols := rfl
  distinct := by simp [swapEntries]
  plain := by simp [swapEntries, PlainKey]
  listed := by simpa [swapEntries] using ⟨["swap"], rfl⟩

end Samples

theorem identified_iff_swap : Identified asciiChars swapEntries swapIdl
    (detectByInstructions swapTools swapIdl) :=
  (identified_iff asciiChars swapTools swapIdl swapEntries swapTools_db
    swapTools_prints (swapTools_finds _)).mpr
    (.inr ⟨"amm", ⟨[], [], by decide, by simp, by simp⟩, by decide, by decide, by decide⟩)

/-- The closing bracket of any list in the text counts as a name. -/
theorem bracket_not_identified : InstructionDb swapTools.sigDb swapEntries ∧
    PrintsArrays swapTools.render ∧ GrepFinds asciiChars swapTools.grep "  ]," ∧
    ¬ Identified asciiChars swapEntries "  ]," (detectByInstructions swapTools "  ],") := by
  refine ⟨swapTools_db, swapTools_prints, swapTools_finds _, fun hidentified => ?_⟩
  have hnone : nameCount asciiChars swapEntries "  ]," "amm" = 0 := by decide
  have hline : lineCount asciiChars swapTools swapEntries "  ]," "amm" = 1 := by decide
  rcases detectByInstructions_cases swapTools_db swapTools_prints (swapTools_finds "  ],") with
    ⟨hzero, -⟩ | ⟨name, -, hpos, hresult⟩
  · have hread : "amm" ∈ namesRead swapEntries := by decide
    exact absurd (hzero "amm" hread) (by rw [hline]; decide)
  · rw [hresult] at hidentified
    rcases hidentified with ⟨-, heq⟩ | ⟨other, hother, hpos, -⟩
    · have hconfidence := confidenceOf_pos.mpr hpos
      rw [(Prod.mk.inj heq).2] at hconfidence
      exact absurd hconfidence (lt_irrefl 0)
    · obtain rfl : other = "amm" := by simpa [swapEntries] using hother
      exact absurd hnone hpos.ne'

end SolanaAuditor.Fingerprint
