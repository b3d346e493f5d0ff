/- SolanaAuditor/Lib/Regex
   digest: Backtracking search for patterns that are sequences of classes and greedy runs. -/

import Mathlib.Data.List.Basic
import Mathlib.Data.List.Infix

set_option autoImplicit false
set_option relaxedAutoImplicit false

namespace SolanaAuditor.Lib.Regex

variable {α : Type}

/-- One symbol of a class, or a greedy run of any length. -/
inductive Piece (α : Type)
  | one (p : α → Bool)
  | many (p : α → Bool)

def Piece.admits : Piece α → α → Bool
  | .one p, c | .many p, c => p c

/-- What a run leaves, the longest run first. -/
def runs (p : α → Bool) : List α → List (List α)
  | [] => [[]]
  | c :: s => if p c then runs p s ++ [c :: s] else [c :: s]

/-- What a sequence leaves of a text, in the order in which backtracking tries. -/
def rests : List (Piece α) → List α → List (List α)
  | [], s => [s]
  | .one _ :: _, [] => []
  | .one p :: ps, c :: s => if p c then rests ps s else []
  | .many p :: ps, s => (runs p s).flatMap (rests ps)

/-- A sequence with one capturing group. -/
structure Pattern (α : Type) where
  before : List (Piece α)
  group : List (Piece α)
  after : List (Piece α)

def Pattern.pieces (re : Pattern α) : List (Piece α) := re.before ++ re.group ++ re.after

/-- The group of the first match at the front of a text, and what the match leaves. -/
def matchAt (re : Pattern α) (s : List α) : Option (List α × List α) :=
  ((rests re.before s).flatMap fun u => (rests re.group u).flatMap fun v =>
    (rests re.after v).map fun r => (u.take (u.length - v.length), r)).head?

/-- The group of the leftmost match. -/
def search (re : Pattern α) : List α → Option (List α)
  | [] => none
  | c :: s =>
      match matchAt re (c :: s) with
      | some m => some m.1
      | none => search re s

/-- The groups of the matches from left to right, each search going on where the match before it
has ended; the number counts the symbols of that match that are left. -/
def findallFrom (re : Pattern α) : Nat → List α → List (List α)
  | _, [] => []
  | n + 1, _ :: s => findallFrom re n s
  | 0, c :: s =>
      match matchAt re (c :: s) with
      | some m => m.1 :: findallFrom re (s.length - m.2.length) s
      | none => findallFrom re 0 s

def findall (re : Pattern α) (s : List α) : List (List α) := findallFrom re 0 s

/-- The texts of a sequence. -/
inductive Fits : List (Piece α) → List α → Prop
  | nil : Fits [] []
  | one {p : α → Bool} {c : α} {ps : List (Piece α)} {w : List α} :
      p c = true → Fits ps w → Fits (.one p :: ps) (c :: w)
  | stop {p : α → Bool} {ps : List (Piece α)} {w : List α} :
      Fits ps w → Fits (.many p :: ps) w
  | more {p : α → Bool} {c : α} {ps : List (Piece α)} {w : List α} :
      p c = true → Fits (.many p :: ps) w → Fits (.many p :: ps) (c :: w)

section Matching

theorem mem_runs {p : α → Bool} {s r : List α} :
    r ∈ runs p s ↔ ∃ w, s = w ++ r ∧ ∀ c ∈ w, p c = true := by
  induction s with
  | nil =>
    constructor
    · intro h
      obtain rfl := List.mem_singleton.mp h
      exact ⟨[], rfl, by simp⟩
    · rintro ⟨w, hw, -⟩
      obtain ⟨-, rfl⟩ := List.append_eq_nil_iff.mp hw.symm
      exact List.mem_singleton_self _
  | cons c s ih =>
    unfold runs
    constructor
    · intro h
      split_ifs at h with hc
      · rcases List.mem_append.mp h with h | h
        · obtain ⟨w, rfl, hw⟩ := ih.mp h
          exact ⟨c :: w, rfl, List.forall_mem_cons.mpr ⟨hc, hw⟩⟩
        · obtain rfl := List.mem_singleton.mp h
          exact ⟨[], rfl, by simp⟩
      · obtain rfl := List.mem_singleton.mp h
        exact ⟨[], rfl, by simp⟩
    · rintro ⟨w, hs, hw⟩
      cases w with
      | nil =>
        obtain rfl : c :: s = r := hs
        split_ifs <;> simp
      | cons d w =>
        obtain ⟨rfl, rfl⟩ := List.cons.inj hs
        obtain ⟨hc, hw⟩ := List.forall_mem_cons.mp hw
        rw [if_pos hc]
        exact List.mem_append_left _ (ih.mpr ⟨w, rfl, hw⟩)

theorem fits_many {p : α → Bool} {ps : List (Piece α)} {w : List α} :
    Fits (.many p :: ps) w ↔ ∃ u v, w = u ++ v ∧ (∀ c ∈ u, p c = true) ∧ Fits ps v := by
  constructor
  · intro h
    generalize hps : Piece.many p :: ps = qs at h
    induction h with
    | nil => simp at hps
    | one => simp at hps
    | stop h =>
      obtain ⟨hp, rfl⟩ := List.cons.inj hps
      exact ⟨[], _, rfl, by simp, h⟩
    | more hc _ ih =>
      obtain ⟨u, v, rfl, hu, hv⟩ := ih hps
      obtain ⟨hp, rfl⟩ := List.cons.inj hps
      obtain rfl := Piece.many.inj hp
      exact ⟨_ :: u, v, rfl, List.forall_mem_cons.mpr ⟨hc, hu⟩, hv⟩
  · rintro ⟨u, v, rfl, hu, hv⟩
    induction u with
    | nil => exact .stop hv
    | cons c u ih =>
      obtain ⟨hc, hu⟩ := List.forall_mem_cons.mp hu
      exact .more hc (ih hu)

theorem mem_rests {ps : List (Piece α)} {s r : List α} :
    r ∈ rests ps s ↔ ∃ w, s = w ++ r ∧ Fits ps w := by
  induction ps generalizing s with
  | nil =>
    constructor
    · intro h
      obtain rfl := List.mem_singleton.mp h
      exact ⟨[], rfl, .nil⟩
    · rintro ⟨w, rfl, hw⟩
      cases hw
      exact List.mem_singleton_self _
  | cons piece ps ih =>
    cases piece with
    | one p =>
      cases s with
      | nil =>
        refine iff_of_false (by simp [rests]) ?_
        rintro ⟨w, hw, hfits⟩
        obtain ⟨rfl, -⟩ := List.append_eq_nil_iff.mp hw.symm
        cases hfits
      | cons c s =>
        unfold rests
        constructor
        · intro h
          split_ifs at h with hc
          · obtain ⟨w, rfl, hw⟩ := ih.mp h
            exact ⟨c :: w, rfl, .one hc hw⟩
          · simp at h
        · rintro ⟨w, hs, hfits⟩
          cases hfits with
          | one hc hw =>
            obtain ⟨rfl, rfl⟩ := List.cons.inj hs
            rw [if_pos hc]
            exact ih.mpr ⟨_, rfl, hw⟩
    | many p =>
      simp only [rests, List.mem_flatMap, mem_runs, ih]
      constructor
      · rintro ⟨t, ⟨u, rfl, hu⟩, v, rfl, hv⟩
        exact ⟨u ++ v, by simp, fits_many.mpr ⟨u, v, rfl, hu, hv⟩⟩
      · rintro ⟨w, rfl, hw⟩
        obtain ⟨u, v, rfl, hu, hv⟩ := fits_many.mp hw
        exact ⟨v ++ r, ⟨u, by simp, hu⟩, v, rfl, hv⟩

theorem fits_append {ps qs : List (Piece α)} {w : List α} :
    Fits (ps ++ qs) w ↔ ∃ u v, w = u ++ v ∧ Fits ps u ∧ Fits qs v := by
  induction ps generalizing w with
  | nil =>
    constructor
    · exact fun h => ⟨[], w, rfl, .nil, h⟩
    · rintro ⟨u, v, rfl, hu, hv⟩
      cases hu
      exact hv
  | cons piece ps ih =>
    cases piece with
    | one p =>
      constructor
      · intro h
        cases h with
        | one hc h =>
          obtain ⟨u, v, rfl, hu, hv⟩ := ih.mp h
          exact ⟨_ :: u, v, rfl, .one hc hu, hv⟩
      · rintro ⟨u, v, rfl, hu, hv⟩
        cases hu with
        | one hc hu => exact .one hc (ih.mpr ⟨_, v, rfl, hu, hv⟩)
    | many p =>
      rw [List.cons_append, fits_many]
      constructor
      · rintro ⟨t, t', rfl, ht, h⟩
        obtain ⟨u, v, rfl, hu, hv⟩ := ih.mp h
        exact ⟨t ++ u, v, by simp, fits_many.mpr ⟨t, u, rfl, ht, hu⟩, hv⟩
      · rintro ⟨u, v, rfl, hu, hv⟩
        obtain ⟨t, u, rfl, ht, hu⟩ := fits_many.mp hu
        exact ⟨t, u ++ v, by simp, ht, ih.mpr ⟨u, v, rfl, hu, hv⟩⟩

theorem matchAt_eq_some {re : Pattern α} {s g r : List α} (h : matchAt re s = some (g, r)) :
    ∃ u v, s = u ++ (g ++ (v ++ r)) ∧ Fits re.before u ∧ Fits re.group g ∧ Fits re.after v := by
  have hmem := List.mem_of_head? h
  simp only [List.mem_flatMap, List.mem_map, mem_rests] at hmem
  obtain ⟨t, ⟨u, rfl, hu⟩, t', ⟨w, rfl, hw⟩, r', ⟨v, rfl, hv⟩, heq⟩ := hmem
  obtain ⟨hg, rfl⟩ := Prod.mk.inj heq
  obtain rfl : w = g := by simpa using hg
  exact ⟨u, v, rfl, hu, hw, hv⟩

/-- A pattern matches at the front exactly when one of its texts stands there. -/
theorem matchAt_isSome {re : Pattern α} {s : List α} :
    (matchAt re s).isSome = true ↔ ∃ w r, s = w ++ r ∧ Fits re.pieces w := by
  constructor
  · intro h
    obtain ⟨⟨g, r⟩, hm⟩ := Option.isSome_iff_exists.mp h
    obtain ⟨u, v, rfl, hu, hg, hv⟩ := matchAt_eq_some hm
    refine ⟨u ++ g ++ v, r, by simp, ?_⟩
    exact fits_append.mpr ⟨u ++ g, v, rfl, fits_append.mpr ⟨u, g, rfl, hu, hg⟩, hv⟩
  · rintro ⟨w, r, rfl, hw⟩
    obtain ⟨w, v, rfl, hw, hv⟩ := fits_append.mp hw
    obtain ⟨u, g, rfl, hu, hg⟩ := fits_append.mp hw
    rw [matchAt, List.isSome_head?]
    refine List.ne_nil_of_mem (a := (g, r)) ?_
    simp only [List.mem_flatMap, List.mem_map, mem_rests]
    exact ⟨g ++ (v ++ r), ⟨u, by simp, hu⟩, v ++ r, ⟨g, rfl, hg⟩, r, ⟨v, rfl, hv⟩, by simp⟩

theorem fits_classes {β : Type} {f : β → α → Bool} {l : List β} {w : List α} :
    Fits (l.map fun b => .one (f b)) w ↔ List.Forall₂ (fun b c => f b c = true) l w := by
  induction l generalizing w with
  | nil =>
    constructor
    · intro h
      cases h
      exact .nil
    · intro h
      cases h
      exact .nil
  | cons b l ih =>
    constructor
    · intro h
      cases h with
      | one hc h => exact .cons hc (ih.mp h)
    · intro h
      cases h with
      | cons hc h => exact .one hc (ih.mpr h)

/-- A sequence with a single symbol in it has no empty text. -/
theorem not_fits_nil {ps : List (Piece α)} {p : α → Bool} (hp : Piece.one p ∈ ps) :
    ¬ Fits ps [] := by
  intro h
  generalize hw : ([] : List α) = w at h
  induction h with
  | nil => simp at hp
  | one => simp at hw
  | stop _ ih => exact ih (by simpa using hp) hw
  | more => simp at hw

/-- A text of the pattern stands somewhere in the text. -/
def Occurs (re : Pattern α) (s : List α) : Prop :=
  ∃ a w b, s = a ++ (w ++ b) ∧ Fits re.pieces w

theorem occurs_cons {re : Pattern α} {c : α} {s : List α} :
    Occurs re (c :: s) ↔ (matchAt re (c :: s)).isSome = true ∨ Occurs re s := by
  rw [matchAt_isSome]
  constructor
  · rintro ⟨a, w, b, hs, hw⟩
    cases a with
    | nil => exact Or.inl ⟨w, b, hs, hw⟩
    | cons d a =>
      obtain ⟨rfl, rfl⟩ := List.cons.inj hs
      exact Or.inr ⟨a, w, b, rfl, hw⟩
  · rintro (⟨w, b, hs, hw⟩ | ⟨a, w, b, rfl, hw⟩)
    · exact ⟨[], w, b, hs, hw⟩
    · exact ⟨c :: a, w, b, rfl, hw⟩

theorem not_occurs_nil {re : Pattern α} (hre : ¬ Fits re.pieces []) : ¬ Occurs re [] := by
  rintro ⟨a, w, b, hs, hw⟩
  obtain ⟨-, hs⟩ := List.append_eq_nil_iff.mp hs.symm
  obtain ⟨rfl, -⟩ := List.append_eq_nil_iff.mp hs
  exact hre hw

theorem search_eq_none {re : Pattern α} (hre : ¬ Fits re.pieces []) {s : List α} :
    search re s = none ↔ ¬ Occurs re s := by
  induction s with
  | nil => exact iff_of_true rfl (not_occurs_nil hre)
  | cons c s ih =>
    rw [occurs_cons, not_or, ← ih]
    cases h : matchAt re (c :: s) <;> simp [search, h]

theorem findall_eq_nil {re : Pattern α} (hre : ¬ Fits re.pieces []) {s : List α} :
    findall re s = [] ↔ ¬ Occurs re s := by
  unfold findall
  induction s with
  | nil => exact iff_of_true rfl (not_occurs_nil hre)
  | cons c s ih =>
    rw [occurs_cons, not_or, ← ih]
    cases h : matchAt re (c :: s) <;> simp [findallFrom, h]

end Matching

end SolanaAuditor.Lib.Regex
