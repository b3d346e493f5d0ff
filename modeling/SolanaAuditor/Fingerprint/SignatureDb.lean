/- SolanaAuditor/Fingerprint/SignatureDb
   digest: What scripts/protocol-fingerprint.sh reads of a signature database. -/

import SolanaAuditor.Fingerprint.ProtocolFingerprint

set_option autoImplicit false
set_option relaxedAutoImplicit false

namespace SolanaAuditor.Fingerprint

open SolanaAuditor.Lib SolanaAuditor.Lib.StableSort
open SolanaAuditor.History (echoArg)

section Defs

/-- A protocol name that stands for itself in a jq filter, on a line and before a colon. -/
def PlainKey (name : String) : Prop :=
  ∀ c ∈ name.toList, c ≠ '\x22' ∧ c ≠ '\\' ∧ c ≠ ':' ∧ c ≠ '\n' ∧ c ≠ '\x00'

/-- The protocols of a database, each with its value. -/
structure Database (sigDb : Json) (entries : List (String × Json)) : Prop where
  protocols : sigDb.get? "protocols" = some (.obj entries)
  distinct : (entries.map Prod.fst).Nodup
  plain : ∀ e ∈ entries, PlainKey e.1

theorem Database.isObj {sigDb : Json} {entries : List (String × Json)}
    (h : Database sigDb entries) : ∃ d, sigDb = .obj d := by
  cases sigDb with
  | obj d => exact ⟨d, rfl⟩
  | null | bool | int | float | str | arr =>
    have hget := h.protocols
    contradiction

/-- An argument that `echo` takes for an option. -/
def isEchoOption (s : String) : Bool :=
  match s.toList with
  | '-' :: c :: cs => (c :: cs).all fun c => c == 'n' || c == 'e' || c == 'E'
  | _ => false

/-- The protocol names in the order of `keys`. -/
def sortedNames (entries : List (String × Json)) : List String :=
  sort textLess (entries.map Prod.fst)

/-- The names that the loops over the protocols look at: `echo` prints nothing of a single name
that is an option, and an empty name is passed over. -/
def namesRead (entries : List (String × Json)) : List String :=
  match sortedNames entries with
  | [name] => if isEchoOption name then [] else [name].filter (· ≠ "")
  | names => names.filter (· ≠ "")

end Defs

section Echo

theorem echoArg_of_not {s : String} (h : isEchoOption s = false) : echoArg s = s ++ "\n" := by
  unfold isEchoOption at h
  unfold echoArg
  split
  · rename_i c cs heq
    simp only [heq] at h
    rw [h]
    rfl
  · rfl

theorem echoArg_of_option {s : String} (h : isEchoOption s = true) :
    echoArg s = "" ∨ echoArg s = "\n" := by
  unfold isEchoOption at h
  unfold echoArg
  split
  · rename_i c cs heq
    simp only [heq] at h
    rw [if_pos h]
    split_ifs
    · exact .inl rfl
    · exact .inr rfl
  · rename_i hne
    split at h
    · rename_i c cs heq
      exact absurd heq (hne c cs)
    · contradiction

/-- An option has no line ends and no null characters. -/
theorem isEchoOption_plain {s : String} (h : isEchoOption s = true) :
    s.toList ≠ [] ∧ ∀ c ∈ s.toList, c ≠ '\n' ∧ c ≠ '\x00' := by
  unfold isEchoOption at h
  split at h
  · rename_i c cs heq
    rw [heq]
    refine ⟨List.cons_ne_nil _ _, List.forall_mem_cons.mpr ⟨by decide, fun d hd => ?_⟩⟩
    have hletter := List.all_eq_true.mp h d hd
    simp only [Bool.or_eq_true, beq_iff_eq] at hletter
    rcases hletter with (rfl | rfl) | rfl <;> decide
  · contradiction

end Echo

section Lines

/-- The lines of a text that are not empty. -/
def lineWords (text : List Char) : List String :=
  (Words.words (· == '\n') text).map String.ofList

theorem filter_readLines (text : String) :
    (readLines text).filter (· ≠ "") = lineWords text.toList := by
  rw [readLines, List.filter_map, lineWords, Words.words]
  refine congrArg (List.map String.ofList) (List.filter_congr fun w _ => ?_)
  cases w <;> simp

theorem lineWords_captured {text : List Char} (h : '\x00' ∉ text) :
    lineWords (captured text) = lineWords text := by
  have hend : ∀ c, decide (c = '\n') = true → c = '\n' := fun c => of_decide_eq_true
  rw [lineWords, captured, withoutNull_of_notMem h, Words.words_rdropWhile hend (by simp),
    lineWords]

theorem captured_line {t : List Char} (hnull : '\x00' ∉ t) (hlast : t.getLast? ≠ some '\n') :
    captured (t ++ ['\n']) = t := by
  have hline : '\x00' ∉ t ++ ['\n'] := by simp [hnull]
  rw [captured, withoutNull_of_notMem hline, List.rdropWhile_concat_pos _ _ _ (by simp),
    List.rdropWhile_eq_self_iff]
  intro hne hc
  rw [decide_eq_true_eq] at hc
  exact hlast (by rw [List.getLast?_eq_some_getLast hne, hc])

theorem lineWords_append_newline (text : List Char) :
    lineWords (text ++ ['\n']) = lineWords text := by
  rw [lineWords, Words.words_append (by simp), Words.words_nil, List.append_nil, lineWords]

/-- The lines that `echo` prints of a text are its own, if it is no option. -/
theorem lineWords_captureEcho {text : String} (h : '\x00' ∉ text.toList) :
    lineWords (captureEcho text).toList =
      if isEchoOption text then [] else lineWords text.toList := by
  rw [captureEcho, String.toList_ofList]
  cases hoption : isEchoOption text with
  | true =>
    rcases echoArg_of_option hoption with hecho | hecho <;> rw [hecho] <;> rfl
  | false =>
    have hprinted : '\x00' ∉ (text ++ "\n").toList := by
      rw [String.toList_append, List.mem_append, not_or]
      exact ⟨h, by decide⟩
    rw [echoArg_of_not hoption, lineWords_captured hprinted, String.toList_append]
    exact lineWords_append_newline _

end Lines

section Names

variable {tools : Tools} {entries : List (String × Json)}

/-- What `jq -r` prints of names. -/
def printedNames (names : List String) : List Char :=
  names.flatMap fun name => name.toList ++ ['\n']

theorem rawText_names (render : Json → String) (names : List String) :
    rawText render (names.map Json.str) = printedNames names := by
  rw [rawText, List.flatMap_map]
  rfl

theorem lineWords_printedNames {names : List String} (h : ∀ name ∈ names, PlainKey name) :
    lineWords (printedNames names) = names.filter (· ≠ "") := by
  induction names with
  | nil => rfl
  | cons name names ih =>
    obtain ⟨hname, hnames⟩ := List.forall_mem_cons.mp h
    have hline : ∀ c ∈ name.toList, (c == '\n') = false := fun c hc =>
      beq_eq_false_iff_ne.mpr (hname c hc).2.2.2.1
    have hsplit : printedNames (name :: names) = name.toList ++ '\n' :: printedNames names := by
      simp [printedNames]
    rw [hsplit, lineWords, Words.words_append (by simp), List.map_append]
    refine (congrArg _ (ih hnames)).trans ?_
    by_cases hempty : name = ""
    · subst hempty
      rw [List.filter_cons_of_neg (by simp)]
      rfl
    · have hne : name.toList ≠ [] := fun heq => hempty (String.toList_eq_nil_iff.mp heq)
      rw [Words.words_single hne hline, List.filter_cons_of_pos (by simpa using hempty)]
      simp

theorem notNull_printedNames {names : List String} (h : ∀ name ∈ names, PlainKey name) :
    '\x00' ∉ printedNames names := by
  intro hnull
  obtain ⟨name, hname, hmem⟩ := List.mem_flatMap.mp hnull
  rcases List.mem_append.mp hmem with hmem | hmem
  · exact (h name hname _ hmem).2.2.2.2 rfl
  · exact absurd hmem (by decide)

theorem captured_single {name : String} (h : PlainKey name) :
    String.ofList (captured (printedNames [name])) = name := by
  have hprinted : printedNames [name] = name.toList ++ ['\n'] := by simp [printedNames]
  have hnull : '\x00' ∉ name.toList := fun hmem => (h _ hmem).2.2.2.2 rfl
  have hlast : name.toList.getLast? ≠ some '\n' := fun hlast =>
    (h _ (List.mem_of_getLast? hlast)).2.2.2.1 rfl
  rw [hprinted, captured_line hnull hlast, String.ofList_toList]

theorem textLess_empty {name : String} (h : name ≠ "") : textLess "" name = true := by
  have hne : name.toList ≠ [] := fun heq => h (String.toList_eq_nil_iff.mp heq)
  obtain ⟨c, cs, hcs⟩ := List.exists_cons_of_ne_nil hne
  rw [textLess, hcs]
  rfl

/-- Several names that are sorted and differ are not printed as one option. -/
theorem not_option_of_several {a b : String} {names : List String}
    (hplain : ∀ name ∈ a :: b :: names, PlainKey name) (hsorted : textLess b a = false) :
    isEchoOption (String.ofList (captured (printedNames (a :: b :: names)))) = false := by
  by_contra hoption
  rw [Bool.not_eq_false] at hoption
  obtain ⟨hne, hchars⟩ := isEchoOption_plain hoption
  rw [String.toList_ofList] at hne hchars
  have hone : lineWords (captured (printedNames (a :: b :: names))) =
      [String.ofList (captured (printedNames (a :: b :: names)))] := by
    rw [lineWords, Words.words_single hne fun c hc => beq_eq_false_iff_ne.mpr (hchars c hc).1]
    rfl
  rw [lineWords_captured (notNull_printedNames hplain), lineWords_printedNames hplain] at hone
  by_cases ha : a = ""
  · -- the text begins with a line end
    have hprefix : captured (printedNames (a :: b :: names)) <+: printedNames (a :: b :: names) := by
      rw [captured, withoutNull_of_notMem (notNull_printedNames hplain)]
      exact List.rdropWhile_prefix _ _
    have hstart : printedNames (a :: b :: names) = '\n' :: printedNames (b :: names) := by
      simp [printedNames, ha]
    obtain ⟨c, cs, hcs⟩ := List.exists_cons_of_ne_nil hne
    rw [hcs, hstart, List.cons_prefix_cons] at hprefix
    exact (hchars c (hcs ▸ List.mem_cons_self)).1 hprefix.1
  · rw [List.filter_cons_of_pos (by simpa using ha)] at hone
    have hb : b = "" := by
      by_contra hb
      rw [List.filter_cons_of_pos (by simpa using hb)] at hone
      simp at hone
    rw [hb, textLess_empty ha] at hsorted
    contradiction

theorem plain_sortedNames (h : Database tools.sigDb entries) :
    ∀ name ∈ sortedNames entries, PlainKey name := by
  intro name hname
  obtain ⟨e, he, rfl⟩ := List.mem_map.mp (mem_sort.mp hname)
  exact h.plain e he

theorem jqProtocols_names (h : Database tools.sigDb entries) :
    (jqProtocols tools.sigDb).1 = (sortedNames entries).map Json.str := by
  obtain ⟨d, hd⟩ := h.isObj
  have hget := h.protocols
  rw [hd, Json.get?_obj] at hget
  rw [jqProtocols, hd, jqIndex, hget]
  rfl

/-- The names that the loops over the protocols read. -/
theorem filter_protocols (h : Database tools.sigDb entries) :
    (protocols tools).filter (· ≠ "") = namesRead entries := by
  have hplain := plain_sortedNames h
  have hsorted : (sortedNames entries).Pairwise fun a b => textLess b a = false :=
    sort_pairwise strictWeak_textLess fun _ _ => trivial
  have hdefault : ∀ s : String, (if s = "" then "" else s) = s := by
    intro s
    split_ifs with hs
    · exact hs.symm
    · rfl
  have hlines : (protocols tools).filter (· ≠ "") =
      if isEchoOption (String.ofList (captured (printedNames (sortedNames entries)))) then []
      else (sortedNames entries).filter (· ≠ "") := by
    rw [protocols, filter_readLines, jqGet, jqProtocols_names h, rawText_names, hdefault,
      lineWords_captureEcho (by rw [String.toList_ofList]; exact notNull_captured _),
      String.toList_ofList, lineWords_captured (notNull_printedNames hplain),
      lineWords_printedNames hplain]
  rw [hlines, namesRead]
  rcases hnames : sortedNames entries with _ | ⟨a, _ | ⟨b, names⟩⟩ <;> rw [hnames] at hplain hsorted
  · split_ifs <;> rfl
  · rw [captured_single (hplain a (by simp))]
  · have hab : textLess b a = false := (List.pairwise_cons.mp hsorted).1 b (by simp)
    rw [not_option_of_several hplain hab]
    rfl

end Names

section Fields

variable {tools : Tools} {entries : List (String × Json)}

/-- A field of a protocol as the script reads it. -/
theorem jqPath_field (h : Database tools.sigDb entries) {e : String × Json} (he : e ∈ entries)
    (k : String) :
    jqPath ["protocols", e.1, k] tools.sigDb = jqPath [k] e.2 := by
  obtain ⟨d, hd⟩ := h.isObj
  have hget := h.protocols
  rw [hd, Json.get?_obj] at hget
  have hentry := Dict.get?_of_mem h.distinct he
  simp only [jqPath, List.foldlM_cons, hd, jqIndex, hget, Option.getD_some, bind, Except.bind,
    hentry]

theorem jqPath_get {v w : Json} {k : String} (h : v.get? k = some w) (hnull : w ≠ .null)
    (hfalse : w ≠ .bool false) : jqPath [k] v = ([w], true) := by
  cases v with
  | obj d =>
    rw [Json.get?_obj] at h
    simp only [jqPath, List.foldlM_cons, List.foldlM_nil, jqIndex, h, Option.getD_some, bind,
      Except.bind, pure, Except.pure]
  | null | bool | int | float | str | arr => contradiction

/-- A text that ends in a bracket is read as it is printed. -/
theorem jqGet_text {query : Json → JqOutput} {default : String} {db v : Json}
    (hquery : (query db).1 = [v]) (hv : ∀ s, v ≠ .str s)
    (hnull : '\x00' ∉ (tools.render v).toList)
    (hlast : (tools.render v).toList.getLast? = some ']')
    (hoption : isEchoOption (tools.render v) = false) :
    jqGet tools query default db = tools.render v := by
  have hend : (tools.render v).toList.getLast? ≠ some '\n' := by simp [hlast]
  have hraw : rawText tools.render [v] = (tools.render v).toList ++ ['\n'] := by
    cases v <;> simp_all [rawText, rawValue]
  have hne : tools.render v ≠ "" := by
    intro hempty
    simp [hempty] at hlast
  rw [jqGet, hquery, hraw, captured_line hnull hend, String.ofList_toList, if_neg hne, captureEcho,
    echoArg_of_not hoption, String.toList_append]
  exact (congrArg String.ofList (captured_line hnull hend)).trans String.ofList_toList

end Fields

end SolanaAuditor.Fingerprint
