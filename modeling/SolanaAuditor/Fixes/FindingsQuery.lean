/- SolanaAuditor/Fixes/FindingsQuery
   digest: What the jq query for one finding reaches, and when it ends without an error. -/

import SolanaAuditor.Fixes.Verification

set_option autoImplicit false
set_option relaxedAutoImplicit false

namespace SolanaAuditor.Fixes

open SolanaAuditor.Lib SolanaAuditor.Lib.Shell

def listed (doc : Json) : List Json :=
  match doc.get? "findings" with
  | some (.arr items) => items
  | some (.obj entries) => entries.map Prod.snd
  | _ => []

def IsFinding (id : String) (x : Json) : Prop := x.get? "id" = some (.str id)

/-- A member that can be asked for its `id`. -/
def IsEntry : Json → Prop
  | .obj _ | .null => True
  | _ => False

def InFindings (p : Project) (id : String) : Prop :=
  ∃ file, p.findingsJson = some file ∧ ∃ doc ∈ file.docs, ∃ x ∈ listed doc, IsFinding id x

/-- The query reaches the finding: nothing before it is beyond asking for an `id`. -/
def Reaches (id : String) (items : List Json) : Prop :=
  ∃ before x after, items = before ++ x :: after ∧ (∀ y ∈ before, IsEntry y) ∧ IsFinding id x

/-- The query of a document ends without an error. -/
def Scannable (doc : Json) : Prop :=
  (∃ v, doc.get? "findings" = some v ∧ ∃ items, jqIterate v = .ok items) ∧
    ∀ x ∈ listed doc, IsEntry x

/-- So does the run of jq over the file: its status is that of the last document. -/
def QuerySucceeds (file : FindingsFile) : Prop :=
  file.wellFormed = true ∧ ∀ doc, file.docs.getLast? = some doc → Scannable doc

section Query

/-- How the `select` of the query treats one member. -/
structure Selects (id : String) (g : Json → JqResult (List Json)) : Prop where
  fails : ∀ x, ¬ IsEntry x → g x = .error ()
  hits : ∀ x, IsFinding id x → ∃ v, g x = .ok [v]
  misses : ∀ x, IsEntry x → ¬ IsFinding id x → g x = .ok []

theorem IsFinding.obj {id : String} {x : Json} (h : IsFinding id x) :
    ∃ entries, x = .obj entries ∧ Dict.get? entries "id" = some (.str id) := by
  cases x with
  | obj entries => exact ⟨entries, rfl, h⟩
  | null | bool | int | float | str | arr => simp [IsFinding, Json.get?] at h

theorem IsFinding.entry {id : String} {x : Json} (h : IsFinding id x) : IsEntry x := by
  obtain ⟨entries, rfl, -⟩ := h.obj
  trivial

variable {id : String} {g : Json → JqResult (List Json)}

theorem Selects.outputs (hg : Selects id g) (items : List Json) :
    (jqEach g items).1 ≠ [] ↔ Reaches id items := by
  induction items with
  | nil => simp [jqEach, Reaches]
  | cons x items ih =>
    by_cases he : IsEntry x
    · by_cases hx : IsFinding id x
      · obtain ⟨v, hv⟩ := hg.hits x hx
        have hreach : Reaches id (x :: items) := ⟨[], x, items, rfl, by simp, hx⟩
        simp [jqEach, hv, hreach]
      · simp only [jqEach, hg.misses x he hx, List.nil_append, ih]
        constructor
        · rintro ⟨before, y, after, rfl, hb, hy⟩
          exact ⟨x :: before, y, after, rfl, by simpa using ⟨he, hb⟩, hy⟩
        · rintro ⟨before, y, after, heq, hb, hy⟩
          cases before with
          | nil =>
            obtain ⟨rfl, rfl⟩ := List.cons.inj heq
            exact absurd hy hx
          | cons b before =>
            obtain ⟨rfl, rfl⟩ := List.cons.inj heq
            exact ⟨before, y, after, rfl, fun z hz => hb z (List.mem_cons_of_mem _ hz), hy⟩
    · have hstop : ¬ Reaches id (x :: items) := by
        rintro ⟨before, y, after, heq, hb, hy⟩
        cases before with
        | nil =>
          obtain ⟨rfl, rfl⟩ := List.cons.inj heq
          exact he hy.entry
        | cons b before =>
          obtain ⟨rfl, rfl⟩ := List.cons.inj heq
          exact he (hb _ (by simp))
      simp [jqEach, hg.fails x he, hstop]

theorem Selects.succeeds (hg : Selects id g) (items : List Json) :
    (jqEach g items).2 = true ↔ ∀ x ∈ items, IsEntry x := by
  induction items with
  | nil => simp [jqEach]
  | cons x items ih =>
    by_cases he : IsEntry x
    · have hok : ∃ ys, g x = .ok ys := by
        by_cases hx : IsFinding id x
        · exact (hg.hits x hx).imp' (fun v => [v]) fun _ h => h
        · exact ⟨[], hg.misses x he hx⟩
      obtain ⟨ys, hys⟩ := hok
      simp [jqEach, hys, ih, he]
    · simp [jqEach, hg.fails x he, he]

/-- `select(.id == $id) | out`, for an `out` that never fails on an object. -/
theorem selects_query (id : String) {out : Json → JqResult Json}
    (hout : ∀ x, IsFinding id x → ∃ v, out x = .ok v) :
    Selects id (fun x => do
      let v ← jqIndex "id" x
      if jqEqStr id v then return [← out x] else return []) where
  fails x he := by
    cases x with
    | obj | null => exact absurd trivial he
    | bool | int | float | str | arr => rfl
  hits x hx := by
    obtain ⟨v, hv⟩ := hout x hx
    obtain ⟨entries, rfl, hid⟩ := hx.obj
    exact ⟨v, by simp [jqIndex, hid, jqEqStr, hv, bind, Except.bind, pure, Except.pure]⟩
  misses x he hx := by
    cases x with
    | obj entries =>
      have hid : jqEqStr id ((Dict.get? entries "id").getD .null) = false := by
        cases hd : Dict.get? entries "id" with
        | none => rfl
        | some v =>
          cases v with
          | str t =>
            have hne : t ≠ id := by
              rintro rfl
              exact hx hd
            simpa [jqEqStr] using hne
          | null | bool | int | float | arr | obj => rfl
      simp [jqIndex, hid, bind, Except.bind, pure, Except.pure]
    | null => simp [jqIndex, jqEqStr, bind, Except.bind, pure, Except.pure]
    | bool | int | float | str | arr => exact he.elim

theorem findingsQuery_eq (id : String) {out : Json → JqResult Json}
    (hout : ∀ x, IsFinding id x → ∃ v, out x = .ok v) (doc : Json) :
    ((findingsQuery id out doc).1 ≠ [] ↔ Reaches id (listed doc)) ∧
      ((findingsQuery id out doc).2 = true ↔ Scannable doc) := by
  have hnil : ¬ Reaches id [] := by
    rintro ⟨before, x, after, h, -⟩
    simp at h
  have hsel := selects_query id hout
  cases doc with
  | obj entries =>
    cases hf : Dict.get? entries "findings" with
    | none => simp [findingsQuery, jqIndex, hf, jqIterate, Scannable, listed, hnil, bind, Except.bind]
    | some v =>
      cases v with
      | arr items =>
        simp only [findingsQuery, jqIndex, hf, jqIterate, Scannable, listed, Json.get?_obj,
          Option.getD_some, bind, Except.bind]
        exact ⟨hsel.outputs items, (hsel.succeeds items).trans
          ⟨fun h => ⟨⟨_, rfl, items, rfl⟩, h⟩, fun h => h.2⟩⟩
      | obj members =>
        simp only [findingsQuery, jqIndex, hf, jqIterate, Scannable, listed, Json.get?_obj,
          Option.getD_some, bind, Except.bind]
        exact ⟨hsel.outputs _, (hsel.succeeds _).trans
          ⟨fun h => ⟨⟨_, rfl, _, rfl⟩, h⟩, fun h => h.2⟩⟩
      | null | bool | int | float | str =>
        simp [findingsQuery, jqIndex, hf, jqIterate, Scannable, listed, hnil, bind, Except.bind]
  | null | bool | int | float | str | arr =>
    simp [findingsQuery, jqIndex, jqIterate, Scannable, listed, hnil, Json.get?, bind, Except.bind]

theorem jqStatus_query (file : FindingsFile) (id : String) {out : Json → JqResult Json}
    (hout : ∀ x, IsFinding id x → ∃ v, out x = .ok v) :
    (QuerySucceeds file →
      file.jqStatus (jqRun (findingsQuery id out) file.docs).2 = 0) ∧
    (¬ QuerySucceeds file →
      file.jqStatus (jqRun (findingsQuery id out) file.docs).2 ∈ [2, 5]) := by
  have hok : (jqRun (findingsQuery id out) file.docs).2 = true ↔
      ∀ doc, file.docs.getLast? = some doc → Scannable doc := by
    rw [jqRun_snd]
    exact forall₂_congr fun doc _ => (findingsQuery_eq id hout doc).2
  constructor
  · rintro ⟨hw, hlast⟩
    simp [FindingsFile.jqStatus, hw, hok.mpr hlast]
  · intro hn
    cases hw : file.wellFormed with
    | false => simp [FindingsFile.jqStatus, hw]
    | true =>
      have hfail : (jqRun (findingsQuery id out) file.docs).2 = false := by
        by_contra h
        exact hn ⟨hw, hok.mp (by simpa using h)⟩
      simp [FindingsFile.jqStatus, hw, hfail]

/-- `find_finding` succeeds when the query reaches the finding in some document, or, with
no jq, when grep finds its line. -/
theorem findFinding_eq_zero (p : Project) (id : String) :
    findFinding p id = 0 ↔ ∃ file, p.findingsJson = some file ∧
      ((p.jqFound = true ∧ ∃ doc ∈ file.docs, Reaches id (listed doc)) ∨
        (p.jqFound = false ∧ file.grepHit id = true)) := by
  cases hfile : p.findingsJson with
  | none => simp [findFinding, hfile]
  | some file =>
    cases hjq : p.jqFound with
    | false => cases hg : file.grepHit id <;> simp [findFinding, hfile, hjq, hg]
    | true =>
      have hreach : (jqRun (findingsQuery id .ok) file.docs).1 ≠ [] ↔
          ∃ doc ∈ file.docs, Reaches id (listed doc) := by
        rw [jqRun_fst, Ne, List.flatMap_eq_nil_iff]
        push Not
        exact exists_congr fun doc => and_congr_right fun _ =>
          (findingsQuery_eq id (fun x _ => ⟨x, rfl⟩) doc).1
      by_cases hnil : (jqRun (findingsQuery id .ok) file.docs).1 = []
      · have hno : ¬ ∃ doc ∈ file.docs, Reaches id (listed doc) := by
          rw [← hreach]
          simpa using hnil
        simp [findFinding, hfile, hjq, hnil, hno]
      · have hyes := hreach.mp hnil
        simp [findFinding, hfile, hjq, hnil, hyes]

theorem Reaches.listed {id : String} {items : List Json} (h : Reaches id items) :
    ∃ x ∈ items, IsFinding id x := by
  obtain ⟨before, x, after, rfl, -, hx⟩ := h
  exact ⟨x, by simp, hx⟩

end Query

end SolanaAuditor.Fixes
