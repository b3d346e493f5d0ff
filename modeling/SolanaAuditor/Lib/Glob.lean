/- SolanaAuditor/Lib/Glob
   digest: File name patterns, and patterns of several names matched against a path from its end. -/

import Mathlib.Data.List.Basic

set_option autoImplicit false
set_option relaxedAutoImplicit false

namespace SolanaAuditor.Lib.Glob

section Names

/-! The patterns of `fnmatch`: `*`, `?`, sets in brackets, and characters that stand for
themselves. -/

inductive Piece
  | star
  | any
  | lit (c : Char)
  | set (negated : Bool) (ranges : List (Char × Char))

def Piece.admits : Piece → Char → Bool
  | .star, _ | .any, _ => true
  | .lit d, c => d == c
  | .set negated ranges, c =>
      (ranges.any fun r => decide (r.1.toNat ≤ c.toNat ∧ c.toNat ≤ r.2.toNat)) != negated

/-- The ranges of a set; a hyphen at an end stands for itself. -/
def rangesOf : List Char → List (Char × Char)
  | a :: '-' :: b :: s => (a, b) :: rangesOf s
  | a :: s => (a, a) :: rangesOf s
  | [] => []

/-- A set after its opening bracket and what follows it; a closing bracket right at the start
belongs to the set. -/
def readSet (s : List Char) : Option (Piece × List Char) :=
  let negated := s.head? == some '!'
  let body := if negated then s.drop 1 else s
  let first := if body.head? == some ']' then [']'] else []
  let inside := (body.drop first.length).takeWhile (· != ']')
  match (body.drop first.length).dropWhile (· != ']') with
  | _ :: rest => some (.set negated (rangesOf (first ++ inside)), rest)
  | [] => none

/-- The pieces of a pattern, taking at most `fuel` of them. -/
def piecesFrom : Nat → List Char → List Piece
  | 0, _ | _, [] => []
  | n + 1, '*' :: s => .star :: piecesFrom n s
  | n + 1, '?' :: s => .any :: piecesFrom n s
  | n + 1, '[' :: s =>
      match readSet s with
      | some (piece, rest) => piece :: piecesFrom n rest
      | none => .lit '[' :: piecesFrom n s
  | n + 1, c :: s => .lit c :: piecesFrom n s

def matchPieces : List Piece → List Char → Bool
  | [], s => s.isEmpty
  | .star :: pieces, s => s.tails.any (matchPieces pieces)
  | _ :: _, [] => false
  | piece :: pieces, c :: s => piece.admits c && matchPieces pieces s

/-- `fnmatch.fnmatchcase(name, pattern)` -/
def fnmatch (pattern name : String) : Bool :=
  matchPieces (piecesFrom pattern.length pattern.toList) name.toList

end Names

section Paths

variable {π α : Type} (m : π → α → Bool)

/-- Each pattern matches the name at its place. -/
def matchesWhole : List π → List α → Bool
  | [], [] => true
  | p :: pats, a :: names => m p a && matchesWhole pats names
  | [], _ :: _ | _ :: _, [] => false

/-- The patterns match the names at the end of a path. -/
def matchesEnd (pats : List π) (names : List α) : Bool :=
  decide (pats.length ≤ names.length) &&
    matchesWhole m pats (names.drop (names.length - pats.length))

variable {m}

theorem length_of_matchesWhole {pats : List π} {names : List α}
    (h : matchesWhole m pats names = true) : pats.length = names.length := by
  induction pats generalizing names with
  | nil => cases names with
    | nil => rfl
    | cons a names => simp [matchesWhole] at h
  | cons p pats ih => cases names with
    | nil => simp [matchesWhole] at h
    | cons a names =>
      rw [matchesWhole, Bool.and_eq_true] at h
      rw [List.length_cons, List.length_cons, ih h.2]

/-- The last patterns are for the last names. -/
theorem matchesWhole_append {front back : List π} {root rel : List α}
    (h : back.length = rel.length) :
    matchesWhole m (front ++ back) (root ++ rel) =
      (matchesWhole m front root && matchesWhole m back rel) := by
  induction front generalizing root with
  | nil =>
    cases root with
    | nil => simp [matchesWhole]
    | cons a root =>
      rw [matchesWhole, Bool.false_and, Bool.eq_false_iff]
      intro hmatch
      have hlength := length_of_matchesWhole hmatch
      simp only [List.nil_append, List.length_append, List.length_cons] at hlength
      omega
  | cons p front ih =>
    cases root with
    | nil =>
      rw [matchesWhole, Bool.false_and, Bool.eq_false_iff]
      intro hmatch
      have hlength := length_of_matchesWhole hmatch
      simp only [List.nil_append, List.length_append, List.length_cons] at hlength
      omega
    | cons a root => rw [List.cons_append, List.cons_append, matchesWhole, matchesWhole, ih,
        Bool.and_assoc]

theorem matchesEnd_of_length {pats : List π} {names : List α} (h : pats.length = names.length) :
    matchesEnd m pats names = matchesWhole m pats names := by
  simp [matchesEnd, h]

/-- No more patterns than names at the end: what stands before them does not matter. -/
theorem matchesEnd_append_right {pats : List π} (root : List α) {rel : List α}
    (h : pats.length ≤ rel.length) : matchesEnd m pats (root ++ rel) = matchesEnd m pats rel := by
  have hdrop : (root ++ rel).drop ((root ++ rel).length - pats.length) =
      rel.drop (rel.length - pats.length) := by
    rw [List.length_append, Nat.add_sub_assoc h, List.drop_append, List.drop_eq_nil_of_le (by omega),
      List.nil_append]
    congr 1
    omega
  rw [matchesEnd, matchesEnd, hdrop, decide_eq_true h, decide_eq_true (by simp; omega)]

/-- The patterns for the last `n` names of a path, and those for the names before them. -/
def lastPatterns (n : Nat) (pats : List π) : List π := pats.drop (pats.length - n)

def firstPatterns (n : Nat) (pats : List π) : List π := pats.take (pats.length - n)

theorem first_append_last (n : Nat) (pats : List π) :
    firstPatterns n pats ++ lastPatterns n pats = pats := List.take_append_drop _ _

theorem firstPatterns_of_le {n : Nat} {pats : List π} (h : pats.length ≤ n) :
    firstPatterns n pats = [] := by
  rw [firstPatterns, Nat.sub_eq_zero_of_le h, List.take_zero]

theorem lastPatterns_of_le {n : Nat} {pats : List π} (h : pats.length ≤ n) :
    lastPatterns n pats = pats := by
  rw [lastPatterns, Nat.sub_eq_zero_of_le h, List.drop_zero]

theorem length_lastPatterns {n : Nat} {pats : List π} (h : n ≤ pats.length) :
    (lastPatterns n pats).length = n := by
  rw [lastPatterns, List.length_drop]
  omega

theorem matchesEnd_nil (names : List α) : matchesEnd m [] names = true := by
  simp [matchesEnd, matchesWhole]

theorem matchesEnd_append_of_length {front back : List π} (root : List α) {rel : List α}
    (h : back.length = rel.length) :
    matchesEnd m (front ++ back) (root ++ rel) =
      (matchesEnd m front root && matchesWhole m back rel) := by
  by_cases hfront : front.length ≤ root.length
  · have hdrop : (root ++ rel).drop ((root ++ rel).length - (front ++ back).length) =
        root.drop (root.length - front.length) ++ rel := by
      rw [List.length_append, List.length_append, h, Nat.add_sub_add_right,
        List.drop_append_of_le_length (Nat.sub_le _ _)]
    rw [matchesEnd, matchesEnd, hdrop, matchesWhole_append h, decide_eq_true hfront,
      decide_eq_true (by simp; omega), Bool.true_and, Bool.true_and]
  · rw [matchesEnd, matchesEnd, decide_eq_false hfront, decide_eq_false (by simp; omega),
      Bool.false_and, Bool.false_and, Bool.false_and]

/-- A path under a root is matched from its end by matching its own names and the end of the
root. -/
theorem matchesEnd_append (pats : List π) (root rel : List α) :
    matchesEnd m pats (root ++ rel) =
      (matchesEnd m (firstPatterns rel.length pats) root &&
        matchesEnd m (lastPatterns rel.length pats) rel) := by
  rcases Nat.le_total pats.length rel.length with h | h
  · rw [firstPatterns_of_le h, lastPatterns_of_le h, matchesEnd_nil, Bool.true_and,
      matchesEnd_append_right root h]
  · have hlength := length_lastPatterns h
    conv_lhs => rw [← first_append_last rel.length pats]
    rw [matchesEnd_append_of_length root hlength, matchesEnd_of_length hlength]

theorem matchesWhole_under (pats : List π) (root rel : List α) :
    matchesWhole m pats (root ++ rel) =
      (matchesWhole m (firstPatterns rel.length pats) root &&
        matchesWhole m (lastPatterns rel.length pats) rel) := by
  rcases Nat.lt_or_ge pats.length rel.length with h | h
  · have hleft : matchesWhole m pats (root ++ rel) = false := by
      rw [Bool.eq_false_iff]
      intro hmatch
      have hlength := length_of_matchesWhole hmatch
      rw [List.length_append] at hlength
      omega
    have hright : matchesWhole m (lastPatterns rel.length pats) rel = false := by
      rw [Bool.eq_false_iff, lastPatterns_of_le (Nat.le_of_lt h)]
      intro hmatch
      exact absurd (length_of_matchesWhole hmatch) (by omega)
    rw [hleft, hright, Bool.and_false]
  · conv_lhs => rw [← first_append_last rel.length pats]
    exact matchesWhole_append (length_lastPatterns h)

end Paths

end SolanaAuditor.Lib.Glob
