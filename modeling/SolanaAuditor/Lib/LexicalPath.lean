/- SolanaAuditor/Lib/LexicalPath
   digest: Paths of names and steps up, resolved against a directory without looking at a disk. -/

import Mathlib.Data.List.Basic
import Mathlib.Data.List.Infix

set_option autoImplicit false
set_option relaxedAutoImplicit false

namespace SolanaAuditor.Lib.LexicalPath

variable {α : Type}

inductive Segment (α : Type)
  | up
  | down (name : α)
  deriving DecidableEq

/-- One segment from a directory, given by its names from the root on; the root is above itself. -/
def enter (dir : List α) : Segment α → List α
  | .up => dir.dropLast
  | .down name => dir ++ [name]

def resolve (dir : List α) (path : List (Segment α)) : List α := path.foldl enter dir

/-- A path without a name before a step up: first the steps up, then the names. -/
structure Normal (α : Type) where
  ups : Nat
  names : List α

namespace Normal

def enter (n : Normal α) : Segment α → Normal α
  | .up =>
      if n.names.isEmpty then { n with ups := n.ups + 1 }
      else { n with names := n.names.dropLast }
  | .down name => { n with names := n.names ++ [name] }

/-- Where a normal path leads from a directory. -/
def apply (n : Normal α) (dir : List α) : List α := dir.take (dir.length - n.ups) ++ n.names

theorem apply_enter (n : Normal α) (dir : List α) (s : Segment α) :
    (n.enter s).apply dir = LexicalPath.enter (n.apply dir) s := by
  obtain ⟨ups, names⟩ := n
  cases s with
  | down name => simp [enter, apply, LexicalPath.enter]
  | up =>
    cases names with
    | nil =>
      simp only [enter, apply, LexicalPath.enter, List.isEmpty_nil, if_true, List.append_nil]
      rw [List.dropLast_eq_take, List.take_take, List.length_take]
      congr 1
      omega
    | cons name names =>
      have hne : name :: names ≠ [] := by simp
      simp only [enter, apply, LexicalPath.enter, List.isEmpty_cons, Bool.false_eq_true, if_false]
      rw [List.dropLast_append_of_ne_nil hne]

end Normal

def normalize (path : List (Segment α)) : Normal α := path.foldl Normal.enter ⟨0, []⟩

theorem apply_foldl (path : List (Segment α)) (dir : List α) (n : Normal α) :
    (path.foldl Normal.enter n).apply dir = resolve (n.apply dir) path := by
  induction path generalizing n with
  | nil => rfl
  | cons s path ih =>
    show (path.foldl Normal.enter (n.enter s)).apply dir = _
    rw [ih (n.enter s), n.apply_enter]
    rfl

/-- Resolving is walking the normal form. -/
theorem resolve_eq_apply (path : List (Segment α)) (dir : List α) :
    resolve dir path = (normalize path).apply dir := by
  have h := apply_foldl path dir ⟨0, []⟩
  simpa [Normal.apply, normalize] using h.symm

theorem resolve_nil_eq (path : List (Segment α)) : resolve [] path = (normalize path).names := by
  simp [resolve_eq_apply, Normal.apply]

theorem resolve_append (dir : List α) (path path' : List (Segment α)) :
    resolve dir (path ++ path') = resolve (resolve dir path) path' :=
  List.foldl_append

theorem normalize_down (name : α) : normalize [.down name] = ⟨0, [name]⟩ := rfl

/-- `path` lies below `dir`: it goes on where `dir` ends. -/
def Below (dir path : List α) : Prop := ∃ rest, rest ≠ [] ∧ path = dir ++ rest

instance [DecidableEq α] (dir path : List α) : Decidable (Below dir path) :=
  decidable_of_iff (dir <+: path ∧ dir ≠ path) (by
    constructor
    · rintro ⟨⟨rest, rfl⟩, hne⟩
      exact ⟨rest, by rintro rfl; simp at hne, rfl⟩
    · rintro ⟨rest, hrest, rfl⟩
      exact ⟨List.prefix_append _ _, by simpa using hrest⟩)

theorem below_append_left {dir path path' : List α} :
    Below (dir ++ path) (dir ++ path') ↔ Below path path' := by
  unfold Below
  simp only [List.append_assoc, List.append_cancel_left_eq]

/-- A path that climbs stays below when it comes down again through the directories it left. -/
theorem below_resolve_iff (path : List (Segment α)) (dir : List α) :
    Below dir (resolve dir path) ↔
      Below (dir.drop (dir.length - (normalize path).ups)) (normalize path).names := by
  rw [resolve_eq_apply, Normal.apply]
  conv_lhs => lhs; rw [← List.take_append_drop (dir.length - (normalize path).ups) dir]
  exact below_append_left

end SolanaAuditor.Lib.LexicalPath
