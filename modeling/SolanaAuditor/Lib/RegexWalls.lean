/- SolanaAuditor/Lib/RegexWalls
   digest: Text that keeps the matches before it from those after it and holds none of its own. -/

import SolanaAuditor.Lib.Regex
import Mathlib.Data.List.Forall2

set_option autoImplicit false
set_option relaxedAutoImplicit false

namespace SolanaAuditor.Lib.Regex

variable {α : Type}

section Barriers

/-! A symbol that no piece admits. -/

theorem runs_barrier {p : α → Bool} {b : α} (hb : p b = false) (w s : List α) :
    runs p (w ++ b :: s) = (runs p w).map (· ++ b :: s) := by
  induction w with
  | nil => simp [runs, hb]
  | cons c w ih =>
    cases hc : p c with
    | true => simp [runs, hc, ih]
    | false => simp [runs, hc]

theorem rests_barrier {ps : List (Piece α)} {b : α}
    (hb : ∀ piece ∈ ps, piece.admits b = false) (w s : List α) :
    rests ps (w ++ b :: s) = (rests ps w).map (· ++ b :: s) := by
  induction ps generalizing w with
  | nil => rfl
  | cons piece ps ih =>
    obtain ⟨hpiece, hps⟩ := List.forall_mem_cons.mp hb
    cases piece with
    | one p =>
      cases w with
      | nil =>
        have hpb : p b = false := hpiece
        simp [rests, hpb]
      | cons c w =>
        cases hc : p c with
        | true => simpa [rests, hc] using ih hps w
        | false => simp [rests, hc]
    | many p =>
      have hpb : p b = false := hpiece
      show (runs p (w ++ b :: s)).flatMap (rests ps) = ((runs p w).flatMap (rests ps)).map _
      rw [runs_barrier hpb, List.flatMap_map, List.map_flatMap]
      exact List.flatMap_congr fun u _ => ih hps u

theorem take_sub_append (u v x : List α) :
    (u ++ x).take ((u ++ x).length - (v ++ x).length) = u.take (u.length - v.length) := by
  have hlength : (u ++ x).length - (v ++ x).length = u.length - v.length := by
    simp only [List.length_append]
    omega
  rw [hlength, List.take_append_of_le_length (Nat.sub_le _ _)]

theorem matchAt_barrier {re : Pattern α} {b : α}
    (hb : ∀ piece ∈ re.pieces, piece.admits b = false) (w s : List α) :
    matchAt re (w ++ b :: s) = (matchAt re w).map fun m => (m.1, m.2 ++ b :: s) := by
  have hbefore : ∀ piece ∈ re.before, piece.admits b = false := fun piece h =>
    hb piece (by simp [Pattern.pieces, h])
  have hgroup : ∀ piece ∈ re.group, piece.admits b = false := fun piece h =>
    hb piece (by simp [Pattern.pieces, h])
  have hafter : ∀ piece ∈ re.after, piece.admits b = false := fun piece h =>
    hb piece (by simp [Pattern.pieces, h])
  unfold matchAt
  rw [← List.head?_map, rests_barrier hbefore, List.flatMap_map, List.map_flatMap]
  congr 1
  refine List.flatMap_congr fun u _ => ?_
  rw [rests_barrier hgroup, List.flatMap_map, List.map_flatMap]
  refine List.flatMap_congr fun v _ => ?_
  rw [rests_barrier hafter, List.map_map, List.map_map]
  refine List.map_congr_left fun r _ => ?_
  simp only [Function.comp_apply, take_sub_append]

theorem matchAt_nil {re : Pattern α} (hre : ¬ Fits re.pieces []) : matchAt re [] = none := by
  rw [← Option.not_isSome_iff_eq_none, matchAt_isSome]
  rintro ⟨w, r, hs, hw⟩
  obtain ⟨rfl, -⟩ := List.append_eq_nil_iff.mp hs.symm
  exact hre hw

/-- The leftmost match stands before the barrier, or else after it. -/
theorem search_barrier {re : Pattern α} (hre : ¬ Fits re.pieces []) {b : α}
    (hb : ∀ piece ∈ re.pieces, piece.admits b = false) (w s : List α) :
    search re (w ++ b :: s) = (search re w).or (search re s) := by
  induction w with
  | nil =>
    have hnone : matchAt re (b :: s) = none := by
      simpa [matchAt_nil hre] using matchAt_barrier hb [] s
    simp [search, hnone]
  | cons c w ih =>
    have hmatch := matchAt_barrier hb (c :: w) s
    rw [List.cons_append] at hmatch
    rw [List.cons_append, search, hmatch, search]
    cases hm : matchAt re (c :: w) with
    | some m => simp
    | none => simpa using ih

end Barriers

section TwoBarriers

/-! A symbol that ends what comes before the group, followed by one that ends the rest. -/

theorem matchAt_barriers {re : Pattern α} {a b : α}
    (ha : ∀ piece ∈ re.before, piece.admits a = false)
    (hb : ∀ piece ∈ re.group ++ re.after, piece.admits b = false) (w s : List α) :
    matchAt re (w ++ a :: b :: s) =
      (matchAt re (w ++ [a])).map fun m => (m.1, m.2 ++ b :: s) := by
  have hgroup : ∀ piece ∈ re.group, piece.admits b = false := fun piece h =>
    hb piece (List.mem_append_left _ h)
  have hafter : ∀ piece ∈ re.after, piece.admits b = false := fun piece h =>
    hb piece (List.mem_append_right _ h)
  have hbefore : rests re.before (w ++ a :: b :: s) =
      (rests re.before (w ++ [a])).map (· ++ b :: s) := by
    rw [rests_barrier ha, rests_barrier ha, List.map_map]
    refine List.map_congr_left fun u _ => ?_
    simp
  unfold matchAt
  rw [← List.head?_map, hbefore, List.flatMap_map, List.map_flatMap]
  congr 1
  refine List.flatMap_congr fun u _ => ?_
  rw [rests_barrier hgroup, List.flatMap_map, List.map_flatMap]
  refine List.flatMap_congr fun v _ => ?_
  rw [rests_barrier hafter, List.map_map, List.map_map]
  refine List.map_congr_left fun r _ => ?_
  simp only [Function.comp_apply, take_sub_append]

/-- The leftmost match begins before the second barrier, or else at it or after it. -/
theorem search_barriers {re : Pattern α} {a b : α}
    (ha : ∀ piece ∈ re.before, piece.admits a = false)
    (hb : ∀ piece ∈ re.group ++ re.after, piece.admits b = false) (w s : List α) :
    search re (w ++ a :: b :: s) = (search re (w ++ [a])).or (search re (b :: s)) := by
  induction w with
  | nil =>
    have hmatch := matchAt_barriers ha hb [] s
    rw [List.nil_append, List.nil_append] at hmatch
    have hsingle : search re [a] = (matchAt re [a]).map Prod.fst := by
      cases hm : matchAt re [a] <;> simp [search, hm]
    have hfirst : search re (a :: b :: s) =
        ((matchAt re (a :: b :: s)).map Prod.fst).or (search re (b :: s)) := by
      cases hm : matchAt re (a :: b :: s) <;> simp [search, hm]
    rw [List.nil_append, List.nil_append, hfirst, hmatch, hsingle, Option.map_map]
    rfl
  | cons c w ih =>
    have hmatch := matchAt_barriers ha hb (c :: w) s
    rw [List.cons_append, List.cons_append] at hmatch
    rw [List.cons_append, List.cons_append, search, hmatch, search]
    cases hm : matchAt re (c :: (w ++ [a])) with
    | some m => simp
    | none => simpa using ih

end TwoBarriers

section Relabelling

/-! Symbols replaced by others that the same pieces admit. -/

variable {φ : α → α}

theorem runs_map {p : α → Bool} (hp : ∀ c, p (φ c) = p c) (s : List α) :
    runs p (s.map φ) = (runs p s).map (List.map φ) := by
  induction s with
  | nil => rfl
  | cons c s ih =>
    cases hc : p c with
    | true => simp [runs, hp, hc, ih]
    | false => simp [runs, hp, hc]

theorem rests_map {ps : List (Piece α)}
    (h : ∀ piece ∈ ps, ∀ c, piece.admits (φ c) = piece.admits c) (s : List α) :
    rests ps (s.map φ) = (rests ps s).map (List.map φ) := by
  induction ps generalizing s with
  | nil => rfl
  | cons piece ps ih =>
    obtain ⟨hpiece, hps⟩ := List.forall_mem_cons.mp h
    cases piece with
    | one p =>
      have hp : ∀ c, p (φ c) = p c := hpiece
      cases s with
      | nil => rfl
      | cons c s =>
        cases hc : p c with
        | true => simpa [rests, hp, hc] using ih hps s
        | false => simp [rests, hp, hc]
    | many p =>
      have hp : ∀ c, p (φ c) = p c := hpiece
      show (runs p (s.map φ)).flatMap (rests ps) = ((runs p s).flatMap (rests ps)).map _
      rw [runs_map hp, List.flatMap_map, List.map_flatMap]
      exact List.flatMap_congr fun u _ => ih hps u

theorem matchAt_map {re : Pattern α}
    (hre : ∀ piece ∈ re.pieces, ∀ c, piece.admits (φ c) = piece.admits c) (s : List α) :
    matchAt re (s.map φ) = (matchAt re s).map fun m => (m.1.map φ, m.2.map φ) := by
  have hbefore : ∀ piece ∈ re.before, ∀ c, piece.admits (φ c) = piece.admits c := fun piece h =>
    hre piece (by simp [Pattern.pieces, h])
  have hgroup : ∀ piece ∈ re.group, ∀ c, piece.admits (φ c) = piece.admits c := fun piece h =>
    hre piece (by simp [Pattern.pieces, h])
  have hafter : ∀ piece ∈ re.after, ∀ c, piece.admits (φ c) = piece.admits c := fun piece h =>
    hre piece (by simp [Pattern.pieces, h])
  unfold matchAt
  rw [← List.head?_map, rests_map hbefore, List.flatMap_map, List.map_flatMap]
  congr 1
  refine List.flatMap_congr fun u _ => ?_
  rw [rests_map hgroup, List.flatMap_map, List.map_flatMap]
  refine List.flatMap_congr fun v _ => ?_
  rw [rests_map hafter, List.map_map, List.map_map]
  refine List.map_congr_left fun r _ => ?_
  simp [List.map_take]

theorem search_map {re : Pattern α}
    (hre : ∀ piece ∈ re.pieces, ∀ c, piece.admits (φ c) = piece.admits c) (s : List α) :
    search re (s.map φ) = (search re s).map (List.map φ) := by
  induction s with
  | nil => rfl
  | cons c s ih =>
    have hmatch := matchAt_map hre (c :: s)
    rw [List.map_cons] at hmatch
    rw [List.map_cons, search, hmatch, search]
    cases hm : matchAt re (c :: s) with
    | some m => simp
    | none => simpa using ih

end Relabelling

section Ends

/-! A symbol at the end that is not the last of any match. -/

theorem runs_snoc (p : α → Bool) (w : List α) (c : α) :
    (runs p (w ++ [c])).filter (! ·.isEmpty) = (runs p w).map (· ++ [c]) := by
  induction w with
  | nil => cases hc : p c <;> simp [runs, hc]
  | cons d w ih =>
    cases hd : p d with
    | true => simpa [runs, hd] using ih
    | false => simp [runs, hd]

theorem flatMap_filter_of_nil {β γ : Type} {f : List β → List γ} {l : List (List β)}
    (h : f [] = []) : (l.filter (! ·.isEmpty)).flatMap f = l.flatMap f := by
  induction l with
  | nil => rfl
  | cons a l ih =>
    cases a with
    | nil => simpa [h] using ih
    | cons b a => simpa using ih

theorem filter_rests_nil (ps : List (Piece α)) :
    (rests ps []).filter (! ·.isEmpty) = [] := by
  rw [List.filter_eq_nil_iff]
  intro r hr
  obtain ⟨w, hw, -⟩ := mem_rests.mp hr
  obtain ⟨-, rfl⟩ := List.append_eq_nil_iff.mp hw.symm
  simp

theorem rests_snoc (ps : List (Piece α)) (w : List α) (c : α) :
    (rests ps (w ++ [c])).filter (! ·.isEmpty) = (rests ps w).map (· ++ [c]) := by
  induction ps generalizing w with
  | nil => simp [rests]
  | cons piece ps ih =>
    cases piece with
    | one p =>
      cases w with
      | nil =>
        cases hc : p c with
        | true => simpa [rests, hc] using filter_rests_nil ps
        | false => simp [rests, hc]
      | cons d w =>
        cases hd : p d with
        | true => simpa [rests, hd] using ih w
        | false => simp [rests, hd]
    | many p =>
      show ((runs p (w ++ [c])).flatMap (rests ps)).filter _ = ((runs p w).flatMap (rests ps)).map _
      rw [List.filter_flatMap, ← flatMap_filter_of_nil (filter_rests_nil ps), runs_snoc,
        List.flatMap_map, List.map_flatMap]
      exact List.flatMap_congr fun u _ => ih u

theorem fits_last {ps : List (Piece α)} {p : α → Bool} {w : List α}
    (h : Fits (ps ++ [.one p]) w) : ∃ u c, w = u ++ [c] ∧ p c = true := by
  obtain ⟨u, v, rfl, -, hv⟩ := fits_append.mp h
  cases hv with
  | one hc hnil =>
    cases hnil
    exact ⟨u, _, rfl, hc⟩

theorem rests_snoc_of_last {ps : List (Piece α)} {p : α → Bool} {c : α} (hc : p c = false)
    (w : List α) :
    rests (ps ++ [.one p]) (w ++ [c]) = (rests (ps ++ [.one p]) w).map (· ++ [c]) := by
  rw [← rests_snoc, eq_comm, List.filter_eq_self]
  intro r hr
  obtain ⟨u, hu, hfits⟩ := mem_rests.mp hr
  obtain ⟨v, d, rfl, hd⟩ := fits_last hfits
  cases r with
  | cons e r => rfl
  | nil =>
    have hlast : [d] = [c] := by
      have h := hu.symm
      rw [List.append_nil] at h
      exact (List.append_inj' h rfl).2
    obtain rfl := List.singleton_inj.mp hlast
    rw [hc] at hd
    contradiction

theorem matchAt_snoc {re : Pattern α} {ps : List (Piece α)} {p : α → Bool}
    (hafter : re.after = ps ++ [.one p]) {c : α} (hc : p c = false) (w : List α) :
    matchAt re (w ++ [c]) = (matchAt re w).map fun m => (m.1, m.2 ++ [c]) := by
  have hnil : rests re.after [] = [] := by
    rw [List.eq_nil_iff_forall_not_mem]
    intro r hr
    obtain ⟨u, hu, hfits⟩ := mem_rests.mp hr
    obtain ⟨v, d, rfl, -⟩ := fits_last (hafter ▸ hfits)
    simp at hu
  have hgroup : ∀ u : List α, ((rests re.group []).flatMap fun v =>
      (rests re.after v).map fun r => (u.take (u.length - v.length), r)) = [] := by
    intro u
    rw [← flatMap_filter_of_nil (by simp [hnil]), filter_rests_nil]
    rfl
  unfold matchAt
  rw [← List.head?_map, ← flatMap_filter_of_nil (hgroup []), rests_snoc, List.flatMap_map,
    List.map_flatMap]
  congr 1
  refine List.flatMap_congr fun u _ => ?_
  rw [← flatMap_filter_of_nil (by simp [hnil]), rests_snoc, List.flatMap_map, List.map_flatMap]
  refine List.flatMap_congr fun v _ => ?_
  rw [hafter, rests_snoc_of_last hc, List.map_map, List.map_map]
  refine List.map_congr_left fun r _ => ?_
  simp only [Function.comp_apply, take_sub_append]

theorem search_snoc {re : Pattern α} {ps : List (Piece α)} {p : α → Bool}
    (hafter : re.after = ps ++ [.one p]) {c : α} (hc : p c = false) (w : List α) :
    search re (w ++ [c]) = search re w := by
  have hre : ¬ Fits re.pieces [] := by
    refine not_fits_nil (p := p) ?_
    simp [Pattern.pieces, hafter]
  induction w with
  | nil =>
    have hnone : matchAt re [c] = none := by
      simpa [matchAt_nil hre] using matchAt_snoc hafter hc []
    simp [search, hnone]
  | cons d w ih =>
    have hmatch := matchAt_snoc hafter hc (d :: w)
    rw [List.cons_append] at hmatch
    rw [List.cons_append, search, hmatch, search]
    cases hm : matchAt re (d :: w) with
    | some m => simp
    | none => simpa using ih

end Ends

section Symbols

/-- A symbol that no match contains. -/
def Pattern.rejects (re : Pattern α) (c : α) : Bool := re.pieces.all fun piece => !piece.admits c

/-- A symbol with which a match may end. -/
def Pattern.mayEnd (re : Pattern α) (c : α) : Bool :=
  match re.after.getLast? with
  | some (.one p) => p c
  | _ => true

theorem search_rejects {re : Pattern α} (hre : ¬ Fits re.pieces []) {b : α}
    (hb : re.rejects b = true) (w s : List α) :
    search re (w ++ b :: s) = (search re w).or (search re s) := by
  refine search_barrier hre ?_ w s
  simpa [Pattern.rejects] using hb

theorem search_not_mayEnd {re : Pattern α} {c : α} (hc : re.mayEnd c = false) (w : List α) :
    search re (w ++ [c]) = search re w := by
  unfold Pattern.mayEnd at hc
  split at hc
  · rename_i p hlast
    obtain ⟨ps, hps⟩ := List.getLast?_eq_some_iff.mp hlast
    exact search_snoc hps hc w
  · simp at hc

end Symbols

section Quiet

/-! Text in which no match starts, whatever follows. -/

def Quiet (re : Pattern α) (w : List α) : Prop := ∀ t, search re (w ++ t) = search re t

theorem Quiet.append {re : Pattern α} {w w' : List α} (h : Quiet re w) (h' : Quiet re w') :
    Quiet re (w ++ w') := by
  intro t
  rw [List.append_assoc, h, h']

/-- The rest of a sequence fails wherever a run stops before the text ends. -/
def deadAfterRun (p : α → Bool) (deadRest : List α → Bool) : List α → Bool
  | [] => false
  | c :: w => deadRest (c :: w) && (!p c || deadAfterRun p deadRest w)

/-- The sequence has failed at the latest when the text ends. -/
def dead : List (Piece α) → List α → Bool
  | [], _ => false
  | .one _ :: _, [] => false
  | .one p :: ps, c :: w => !p c || dead ps w
  | .many p :: ps, w => deadAfterRun p (dead ps) w

theorem not_fits_of_dead {ps : List (Piece α)} {w : List α} (h : dead ps w = true)
    {v t r : List α} (hv : w ++ t = v ++ r) : ¬ Fits ps v := by
  induction ps generalizing w v with
  | nil => simp [dead] at h
  | cons piece ps ih =>
    intro hfits
    cases piece with
    | one p =>
      cases w with
      | nil => simp [dead] at h
      | cons c w =>
        cases hfits with
        | one hc hfits =>
          obtain ⟨rfl, htail⟩ := List.cons.inj hv
          rw [dead, hc, Bool.not_true, Bool.false_or] at h
          exact ih h htail hfits
    | many p =>
      rw [dead] at h
      rw [fits_many] at hfits
      obtain ⟨u, v, rfl, hu, hfits⟩ := hfits
      induction u generalizing w with
      | nil =>
        cases w with
        | nil => simp [deadAfterRun] at h
        | cons c w =>
          rw [deadAfterRun, Bool.and_eq_true] at h
          exact ih h.1 hv hfits
      | cons d u ihu =>
        obtain ⟨hd, hrun⟩ := List.forall_mem_cons.mp hu
        cases w with
        | nil => simp [deadAfterRun] at h
        | cons c w =>
          obtain ⟨rfl, htail⟩ := List.cons.inj hv
          rw [deadAfterRun, hd, Bool.not_true, Bool.false_or, Bool.and_eq_true] at h
          exact ihu h.2 htail hrun

/-- No match starts in the first text, once the second follows. -/
def quietOver (re : Pattern α) (next : List α) : List α → Bool
  | [] => true
  | c :: w => dead re.pieces (c :: w ++ next) && quietOver re next w

theorem search_quietOver {re : Pattern α} {next w : List α} (h : quietOver re next w = true)
    (t : List α) : search re (w ++ (next ++ t)) = search re (next ++ t) := by
  induction w with
  | nil => rfl
  | cons c w ih =>
    rw [quietOver, Bool.and_eq_true] at h
    have hnone : matchAt re (c :: (w ++ (next ++ t))) = none := by
      rw [← Option.not_isSome_iff_eq_none, matchAt_isSome]
      rintro ⟨v, r, hs, hv⟩
      refine not_fits_of_dead h.1 (t := t) (r := r) ?_ hv
      simpa using hs
    rw [List.cons_append, search, hnone]
    exact ih h.2

theorem quiet_of_over {re : Pattern α} {w : List α} (h : quietOver re [] w = true) :
    Quiet re w :=
  fun t => search_quietOver h t

/-- A text that is quiet once its follower has begun. -/
theorem Quiet.over {re : Pattern α} {next w r : List α} (h : quietOver re next w = true)
    (hr : Quiet re (next ++ r)) : Quiet re (w ++ (next ++ r)) := by
  intro t
  rw [List.append_assoc, List.append_assoc, search_quietOver h, ← List.append_assoc]
  exact hr t

end Quiet

section Congruence

/-! Patterns whose classes agree on the symbols of a text. -/

inductive Piece.Agrees (ok : α → Prop) : Piece α → Piece α → Prop
  | one {p q : α → Bool} : (∀ c, ok c → p c = q c) → Agrees ok (.one p) (.one q)
  | many {p q : α → Bool} : (∀ c, ok c → p c = q c) → Agrees ok (.many p) (.many q)

structure Pattern.Agrees (ok : α → Prop) (re re' : Pattern α) : Prop where
  before : List.Forall₂ (Piece.Agrees ok) re.before re'.before
  group : List.Forall₂ (Piece.Agrees ok) re.group re'.group
  after : List.Forall₂ (Piece.Agrees ok) re.after re'.after

variable {ok : α → Prop} {re re' : Pattern α}

theorem Pattern.Agrees.pieces (h : re.Agrees ok re') :
    List.Forall₂ (Piece.Agrees ok) re.pieces re'.pieces :=
  List.rel_append (List.rel_append h.before h.group) h.after

theorem rejects_congr (h : re.Agrees ok re') {c : α} (hc : ok c) :
    re.rejects c = re'.rejects c := by
  unfold Pattern.rejects
  have hpieces := h.pieces
  generalize re.pieces = ps at hpieces ⊢
  generalize re'.pieces = qs at hpieces ⊢
  induction hpieces with
  | nil => rfl
  | cons hpiece _ ih =>
    rw [List.all_cons, List.all_cons, ih]
    cases hpiece with
    | one hp => simp [Piece.admits, hp c hc]
    | many hp => simp [Piece.admits, hp c hc]

theorem deadAfterRun_congr {p q : α → Bool} (hp : ∀ c, ok c → p c = q c)
    {f g : List α → Bool} {w : List α} (hw : ∀ c ∈ w, ok c)
    (hfg : ∀ w : List α, (∀ c ∈ w, ok c) → f w = g w) :
    deadAfterRun p f w = deadAfterRun q g w := by
  induction w with
  | nil => rfl
  | cons c w ih =>
    obtain ⟨hc, hrest⟩ := List.forall_mem_cons.mp hw
    rw [deadAfterRun, deadAfterRun, hfg _ hw, hp c hc, ih hrest]

theorem dead_congr {ps qs : List (Piece α)} (h : List.Forall₂ (Piece.Agrees ok) ps qs)
    {w : List α} (hw : ∀ c ∈ w, ok c) : dead ps w = dead qs w := by
  induction h generalizing w with
  | nil => rfl
  | cons hpiece _ ih =>
    cases hpiece with
    | one hp =>
      cases w with
      | nil => rfl
      | cons c w =>
        obtain ⟨hc, hrest⟩ := List.forall_mem_cons.mp hw
        rw [dead, dead, hp c hc, ih hrest]
    | many hp => exact deadAfterRun_congr hp hw fun w hw => ih hw

theorem quietOver_congr (h : re.Agrees ok re') {next w : List α} (hnext : ∀ c ∈ next, ok c)
    (hw : ∀ c ∈ w, ok c) : quietOver re next w = quietOver re' next w := by
  induction w with
  | nil => rfl
  | cons c w ih =>
    obtain ⟨hc, hrest⟩ := List.forall_mem_cons.mp hw
    have hall : ∀ d ∈ c :: w ++ next, ok d := by
      intro d hd
      rcases List.mem_append.mp hd with hd | hd
      · exact hw d hd
      · exact hnext d hd
    rw [quietOver, quietOver, dead_congr h.pieces hall, ih hrest]

end Congruence

end SolanaAuditor.Lib.Regex
