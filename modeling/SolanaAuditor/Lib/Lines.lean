/- SolanaAuditor/Lib/Lines
   digest: The lines of a text that begin with a mark, and the texts that make no such line. -/

import Mathlib.Data.List.Infix
import Mathlib.Data.List.TakeWhile

set_option autoImplicit false
set_option relaxedAutoImplicit false

namespace SolanaAuditor.Lib.Lines

variable {α : Type} [DecidableEq α]

section Defs

variable (sep : α) (mark s : List α)

def firstLine : List α := s.takeWhile (· != sep)

/-- The lines that begin with the mark. -/
def headed : List (List α) := (s.splitOn sep).filter mark.isPrefixOf

/-- Those of them after the first line. -/
def headedLater : List (List α) := (s.splitOn sep).tail.filter mark.isPrefixOf

end Defs

section Headed

variable {sep : α} {mark s t : List α}

theorem splitOn_eq (sep : α) (s : List α) :
    s.splitOn sep = firstLine sep s :: (s.splitOn sep).tail := by
  induction s with
  | nil => rfl
  | cons c s ih =>
    rw [List.splitOn_cons_eq_if_modifyHead, firstLine, List.takeWhile_cons]
    by_cases hc : c = sep
    · simp [hc]
    · rw [if_neg (by simpa using hc), if_pos (by simpa using hc), ih]
      rfl

theorem headed_append (mark s t : List α) :
    headed sep mark (s ++ sep :: t) = headed sep mark s ++ headed sep mark t := by
  rw [headed, List.splitOn_append_cons_self, List.filter_append, headed, headed]

/-- A mark of one line begins a text exactly when it begins the first line. -/
theorem prefix_firstLine_iff (hsep : sep ∉ mark) : mark <+: firstLine sep s ↔ mark <+: s := by
  induction mark generalizing s with
  | nil => exact iff_of_true List.nil_prefix List.nil_prefix
  | cons a mark ih =>
    obtain ⟨hne, hsep⟩ := not_or.mp (fun h => hsep (List.mem_cons.mpr h))
    cases s with
    | nil => rfl
    | cons c s =>
      rw [firstLine, List.takeWhile_cons]
      by_cases hc : c = sep
      · have hac : a ≠ c := fun h => hne (h.trans hc).symm
        simp [hc, Ne.symm hne]
      · rw [if_pos (by simpa using hc), List.cons_prefix_cons, List.cons_prefix_cons]
        exact and_congr_right fun _ => ih hsep

theorem headed_eq (hsep : sep ∉ mark) (s : List α) :
    headed sep mark s =
      (if mark.isPrefixOf s then [firstLine sep s] else []) ++ headedLater sep mark s := by
  have hfirst : mark.isPrefixOf (firstLine sep s) = mark.isPrefixOf s := by
    rw [Bool.eq_iff_iff, List.isPrefixOf_iff_prefix, List.isPrefixOf_iff_prefix]
    exact prefix_firstLine_iff hsep
  rw [headed, headedLater, splitOn_eq, List.filter_cons, hfirst]
  split_ifs <;> rfl

theorem headedLater_cons (c : α) (s : List α) :
    headedLater sep mark (c :: s) =
      if c = sep then headed sep mark s else headedLater sep mark s := by
  rw [headedLater, List.splitOn_cons_eq_if_modifyHead]
  by_cases hc : c = sep
  · simp [hc, headed]
  · rw [if_neg (by simpa using hc), if_neg hc, splitOn_eq, headedLater]
    rfl

/-- No later line begins with the mark exactly when the mark never follows a line end. -/
theorem headedLater_eq_nil_iff (hsep : sep ∉ mark) :
    headedLater sep mark s = [] ↔ ¬ sep :: mark <:+: s := by
  induction s with
  | nil => simp [headedLater]
  | cons c s ih =>
    rw [headedLater_cons, List.infix_cons_iff, List.cons_prefix_cons, not_or, not_and, ← ih]
    split_ifs with hc
    · rw [headed_eq hsep, List.append_eq_nil_iff]
      simp [hc]
    · exact ⟨fun h => ⟨fun heq => absurd heq.symm hc, h⟩, And.right⟩

theorem headed_intercalate (hmark : mark ≠ []) (ls : List (List α)) :
    headed sep mark ([sep].intercalate ls) = ls.flatMap (headed sep mark) := by
  have hnil : headed sep mark [] = [] := by
    cases mark with
    | nil => exact absurd rfl hmark
    | cons a mark => rfl
  induction ls with
  | nil => exact hnil
  | cons l ls ih =>
    cases ls with
    | nil => simp
    | cons l' ls =>
      rw [List.intercalate_cons_of_ne_nil (List.cons_ne_nil _ _), List.append_assoc,
        List.singleton_append, headed_append, ih, ← List.flatMap_cons]

/-- Of joined texts, the lines that begin with the mark are the first lines of the texts that
begin with it exactly when no text has the mark after a line end. -/
theorem headed_intercalate_iff (hsep : sep ∉ mark) (hmark : mark ≠ []) (ls : List (List α)) :
    headed sep mark ([sep].intercalate ls) =
        (ls.filter mark.isPrefixOf).map (firstLine sep) ↔
      ∀ l ∈ ls, ¬ sep :: mark <:+: l := by
  rw [headed_intercalate hmark]
  have hsize : (ls.flatMap (headed sep mark)).length =
      ((ls.filter mark.isPrefixOf).map (firstLine sep)).length +
        (ls.flatMap (headedLater sep mark)).length := by
    induction ls with
    | nil => rfl
    | cons l ls ih =>
      rw [List.flatMap_cons, List.flatMap_cons, headed_eq hsep, List.filter_cons]
      split_ifs <;> simp only [List.length_append, List.length_cons, List.length_nil, ih,
        List.map_cons] <;> omega
  have hnone : ls.flatMap (headedLater sep mark) = [] ↔ ∀ l ∈ ls, ¬ sep :: mark <:+: l := by
    rw [List.flatMap_eq_nil_iff]
    exact forall₂_congr fun l _ => headedLater_eq_nil_iff hsep
  rw [← hnone]
  constructor
  · intro h
    rw [h] at hsize
    exact List.length_eq_zero_iff.mp (by omega)
  · intro h
    clear hsize hnone
    induction ls with
    | nil => rfl
    | cons l ls ih =>
      obtain ⟨hl, hls⟩ := List.append_eq_nil_iff.mp ((List.flatMap_cons ..).symm.trans h)
      rw [List.flatMap_cons, headed_eq hsep, hl, ih hls, List.filter_cons]
      split_ifs <;> rfl

end Headed

section Within

/-! Where a text that begins at a line end stands in a longer text. -/

omit [DecidableEq α]

variable {sep c : α} {mark s t : List α}

theorem infix_append_iff_of_not_mem (hs : sep ∉ s) :
    sep :: mark <:+: s ++ t ↔ sep :: mark <:+: t := by
  induction s with
  | nil => rfl
  | cons d s ih =>
    obtain ⟨hd, hs⟩ := not_or.mp (fun h => hs (List.mem_cons.mpr h))
    rw [List.cons_append, List.infix_cons_iff, List.cons_prefix_cons, ih hs]
    exact or_iff_right fun h => hd h.1

/-- It does not reach over a letter that the mark does not have. -/
theorem infix_append_cons_iff (hc : c ∉ mark) :
    sep :: mark <:+: s ++ c :: t ↔ sep :: mark <:+: s ∨ sep :: mark <:+: c :: t := by
  constructor
  · intro h
    rcases List.infix_append_iff.mp h with h | h | ⟨x, y, heq, hx, hy⟩
    · exact .inl h
    · exact .inr h
    · cases x with
      | nil => exact .inr (heq ▸ hy.isInfix)
      | cons a x =>
        cases y with
        | nil => exact .inl (by simpa [heq] using hx.isInfix)
        | cons b y =>
          obtain rfl : b = c := (List.cons_prefix_cons.mp hy).1
          have hmem : b ∈ mark := by simp [(List.cons.inj heq).2]
          exact absurd hmem hc
  · rintro (h | h)
    · exact h.trans (List.prefix_append _ _).isInfix
    · exact h.trans (List.suffix_append _ _).isInfix

/-- It may reach up to a letter that only ends the mark, and not over it. -/
theorem infix_append_last_iff (hsep : c ≠ sep) (hc : c ∉ mark) :
    sep :: (mark ++ [c]) <:+: s ++ c :: t ↔
      sep :: (mark ++ [c]) <:+: s ++ [c] ∨ sep :: (mark ++ [c]) <:+: t := by
  have hsplit : s ++ c :: t = (s ++ [c]) ++ t := by simp
  rw [hsplit]
  constructor
  · intro h
    rcases List.infix_append_iff.mp h with h | h | ⟨x, y, heq, hx, hy⟩
    · exact .inl h
    · exact .inr h
    · rcases List.eq_nil_or_concat x with rfl | ⟨x, d, rfl⟩
      · exact .inr (heq ▸ hy.isInfix)
      · rcases List.eq_nil_or_concat y with rfl | ⟨y, e, rfl⟩
        · exact .inl (by simpa [heq] using hx.isInfix)
        · obtain rfl : d = c := by
            obtain ⟨u, hu⟩ := hx
            rw [List.concat_eq_append, ← List.append_assoc] at hu
            exact List.singleton_inj.mp (List.append_inj_right' hu rfl)
          have hfront : sep :: mark = (x ++ [d]) ++ y := by
            rw [List.concat_eq_append, List.concat_eq_append, ← List.append_assoc,
              ← List.cons_append] at heq
            exact List.append_inj_left' heq rfl
          have hmem : d ∈ sep :: mark := by simp [hfront]
          exact absurd hmem (by simp [hsep, hc])
  · rintro (h | h)
    · exact h.trans (List.prefix_append _ _).isInfix
    · exact h.trans (List.suffix_append _ _).isInfix

end Within

end SolanaAuditor.Lib.Lines
