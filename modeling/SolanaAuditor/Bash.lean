/- SolanaAuditor/Bash
   digest: Texts as bash and grep take them apart: captures, words and counted lines. -/

import Mathlib.Data.List.Infix
import SolanaAuditor.Json
import SolanaAuditor.Lib.Words

set_option autoImplicit false
set_option relaxedAutoImplicit false

namespace SolanaAuditor

open SolanaAuditor.Lib

def withoutNull (text : List Char) : List Char := text.filter fun c => decide (c ≠ '\x00')

theorem withoutNull_of_notMem {text : List Char} (h : '\x00' ∉ text) : withoutNull text = text := by
  rw [withoutNull, List.filter_eq_self]
  exact fun c hc => decide_eq_true fun heq => h (heq ▸ hc)

/-- `$(…)`: the text without null characters, and without the newlines at its end. -/
def captured (text : List Char) : List Char :=
  (withoutNull text).rdropWhile fun c => decide (c = '\n')

theorem notNull_captured (text : List Char) : '\x00' ∉ captured text := by
  intro hmem
  have hfilter := (List.rdropWhile_prefix _ _).subset hmem
  simp [withoutNull] at hfilter

/-- The characters of `IFS`. -/
def isIfs (c : Char) : Bool := c == ' ' || c == '\t' || c == '\n'

/-- `for id in $text`: the words of the text, each with its pathname expansion, which is the word
itself where no path matches it. -/
def shellWords (glob : String → List String) (text : List Char) : List String :=
  (Words.words isIfs text).flatMap fun w => glob (String.ofList w)

def containsWord (word : String) (line : List Char) : Bool := decide (word.toList <:+: line)

/-- The lines that contain a word. -/
def linesWith (word : String) (text : List Char) : List (List Char) :=
  (text.splitOnP (· == '\n')).filter (containsWord word)

/-- `basename`: the last name of a path. -/
def baseName (path : List Char) : List Char :=
  let trimmed := path.rdropWhile (· == '/')
  if trimmed.isEmpty && !path.isEmpty then ['/'] else trimmed.rtakeWhile (· != '/')

/-- The numbers that `grep -c word || echo "0"` prints: without a match grep prints `0` itself,
and its status is 1. -/
def grepCount (word : String) (text : List Char) : List Json :=
  match (linesWith word text).length with
  | 0 => [.int 0, .int 0]
  | n + 1 => [.int (n + 1 : Nat)]

theorem grepCount_of_pos {word : String} {text : List Char}
    (h : 0 < (linesWith word text).length) :
    grepCount word text = [.int (linesWith word text).length] := by
  obtain ⟨n, hn⟩ := Nat.exists_eq_succ_of_ne_zero h.ne'
  rw [grepCount, hn]

theorem grepCount_of_none {word : String} {text : List Char}
    (h : (linesWith word text).length = 0) : grepCount word text = [.int 0, .int 0] := by
  rw [grepCount, h]

end SolanaAuditor
