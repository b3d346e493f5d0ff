/- SolanaAuditor/Lib/Knots
   digest: Functions given piece by piece between the neighbours of a list of knots. -/

import Mathlib.Data.List.Chain
import Mathlib.Order.Lattice
import Mathlib.Order.Monotone.Basic

set_option autoImplicit false
set_option relaxedAutoImplicit false

namespace SolanaAuditor.Lib.Knots

variable {κ α β γ : Type} [LinearOrder α]

section Search

variable (key : κ → α) (x : α)

/-- The first two neighbours whose keys enclose `x`. -/
def enclosing (knots : List κ) : Option (κ × κ) :=
  (knots.zip knots.tail).find? fun ends => key ends.1 ≤ x ∧ x ≤ key ends.2

variable {key x} {p q : κ} {knots : List κ}

theorem enclosing_here (h : key p ≤ x ∧ x ≤ key q) :
    enclosing key x (p :: q :: knots) = some (p, q) := by
  simp [enclosing, h]

theorem enclosing_later (h : key q < x) :
    enclosing key x (p :: q :: knots) = enclosing key x (q :: knots) := by
  simp [enclosing, not_le.mpr h]

/-- Knots added at the end are not looked at when the position was found before. -/
theorem enclosing_append {ends : κ × κ} {more : List κ} (h : enclosing key x knots = some ends) :
    enclosing key x (knots ++ more) = some ends := by
  induction knots with
  | nil => simp [enclosing] at h
  | cons p knots ih =>
    cases knots with
    | nil => simp [enclosing] at h
    | cons q knots =>
      simp only [enclosing, List.cons_append, List.tail_cons, List.zip_cons_cons,
        List.find?_cons] at h ih ⊢
      split
      · next hp => rwa [hp] at h
      · next hp =>
        rw [hp] at h
        exact ih h

end Search

section Pieces

variable [Preorder β] [Preorder γ] {key : κ → α} {value : κ → γ} {pos : β → α}
  {link : κ → κ → Prop} {piece : κ → κ → β → γ}

/-- What a piece between two linked knots must satisfy: there the values rise from one knot
to the other. -/
structure Rising (key : κ → α) (value : κ → γ) (pos : β → α) (link : κ → κ → Prop)
    (piece : κ → κ → β → γ) : Prop where
  values : ∀ {p q}, link p q → value p ≤ value q
  low : ∀ {p q x}, link p q → key p ≤ pos x → pos x ≤ key q → value p ≤ piece p q x
  high : ∀ {p q x}, link p q → key p ≤ pos x → pos x ≤ key q → piece p q x ≤ value q
  mono : ∀ {p q x y}, link p q → x ≤ y → key p ≤ pos x → pos y ≤ key q →
    piece p q x ≤ piece p q y

variable (hrising : Rising key value pos link piece)

include hrising in
theorem Rising.value_le_last {p : κ} {knots : List κ} (hchain : (p :: knots).IsChain link) :
    value p ≤ value ((p :: knots).getLast (List.cons_ne_nil p knots)) := by
  induction knots generalizing p with
  | nil => exact le_rfl
  | cons q knots ih =>
    rw [List.isChain_cons_cons] at hchain
    rw [List.getLast_cons (List.cons_ne_nil q knots)]
    exact (hrising.values hchain.1).trans (ih hchain.2)

include hrising in
/-- Every position between the first and the last knot has its piece, and the value there lies
between those of the two knots. -/
theorem Rising.bounds {p : κ} {knots : List κ} {x : β} (hchain : (p :: knots).IsChain link)
    (hne : knots ≠ []) (hlow : key p ≤ pos x)
    (hhigh : pos x ≤ key ((p :: knots).getLast (List.cons_ne_nil p knots))) :
    ∃ ends, enclosing key (pos x) (p :: knots) = some ends ∧
      link ends.1 ends.2 ∧ key ends.1 ≤ pos x ∧ pos x ≤ key ends.2 ∧
      value p ≤ piece ends.1 ends.2 x ∧
      piece ends.1 ends.2 x ≤ value ((p :: knots).getLast (List.cons_ne_nil p knots)) := by
  induction knots generalizing p with
  | nil => exact absurd rfl hne
  | cons q knots ih =>
    rw [List.isChain_cons_cons] at hchain
    rw [List.getLast_cons (List.cons_ne_nil q knots)] at hhigh ⊢
    rcases le_or_gt (pos x) (key q) with hq | hq
    · refine ⟨(p, q), enclosing_here ⟨hlow, hq⟩, hchain.1, hlow, hq,
        hrising.low hchain.1 hlow hq, ?_⟩
      exact (hrising.high hchain.1 hlow hq).trans (hrising.value_le_last hchain.2)
    · rw [enclosing_later hq]
      have hne' : knots ≠ [] := by
        rintro rfl
        exact absurd hhigh (not_le.mpr hq)
      obtain ⟨ends, hends, hlink, hl, hh, hv, hv'⟩ := ih hchain.2 hne' hq.le hhigh
      exact ⟨ends, hends, hlink, hl, hh,
        (hrising.values hchain.1).trans hv, hv'⟩

include hrising in
/-- The pieces together rise: the induction is on the knots, and the only case across two
pieces goes through the value of the knot between them. -/
theorem Rising.monotone {p : κ} {knots : List κ} {x y : β} {ends ends' : κ × κ}
    (hpos : Monotone pos) (hchain : (p :: knots).IsChain link) (hxy : x ≤ y)
    (hlow : key p ≤ pos x)
    (hhigh : pos y ≤ key ((p :: knots).getLast (List.cons_ne_nil p knots)))
    (hx : enclosing key (pos x) (p :: knots) = some ends)
    (hy : enclosing key (pos y) (p :: knots) = some ends') :
    piece ends.1 ends.2 x ≤ piece ends'.1 ends'.2 y := by
  induction knots generalizing p with
  | nil => simp [enclosing] at hx
  | cons q knots ih =>
    rw [List.isChain_cons_cons] at hchain
    rw [List.getLast_cons (List.cons_ne_nil q knots)] at hhigh
    have hposxy : pos x ≤ pos y := hpos hxy
    rcases le_or_gt (pos y) (key q) with hyq | hyq
    · have hxq := hposxy.trans hyq
      rw [enclosing_here ⟨hlow, hxq⟩] at hx
      rw [enclosing_here ⟨hlow.trans hposxy, hyq⟩] at hy
      cases hx
      cases hy
      exact hrising.mono hchain.1 hxy hlow hyq
    · rw [enclosing_later hyq] at hy
      rcases le_or_gt (pos x) (key q) with hxq | hxq
      · rw [enclosing_here ⟨hlow, hxq⟩] at hx
        cases hx
        have hne : knots ≠ [] := by
          rintro rfl
          exact absurd hhigh (not_le.mpr hyq)
        obtain ⟨ends₁, hends₁, -, -, -, hv, -⟩ :=
          hrising.bounds hchain.2 hne hyq.le hhigh
        rw [hy, Option.some.injEq] at hends₁
        subst hends₁
        exact (hrising.high hchain.1 hlow hxq).trans hv
      · rw [enclosing_later hxq] at hx
        exact ih hchain.2 hxq.le hhigh hx hy

end Pieces

end SolanaAuditor.Lib.Knots
