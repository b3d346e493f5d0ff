/- SolanaAuditor/Suggestions/FindingsFile
   digest: What read_findings of audit-fix-suggestions.py accepts. -/

import SolanaAuditor.Python

set_option autoImplicit false
set_option relaxedAutoImplicit false

namespace SolanaAuditor.Suggestions

open SolanaAuditor.Lib

/-- How `read_findings` can fail: the `ValidationError` of the script, or another exception. -/
inductive ReadError
  | fileNotFound | jsonDecodeError
  | validation (message : String)
  | raised (e : PyError)
  deriving DecidableEq

/-- An exception that no `except` clause of the validation catches. -/
def raising {α : Type} : Py α → Except ReadError α
  | .ok a => .ok a
  | .error e => .error (.raised e)

def requiredFields : List String := ["id", "severity", "location", "rule_caught"]

def locationFields : List String := ["file", "line"]

/-- `[f for f in required_fields if f not in finding]` -/
def missingFields (finding : Json) : List String → Py (List String)
  | [] => return []
  | f :: fields => do
      let present ← pyIn f finding
      let missing ← missingFields finding fields
      return if present then missing else f :: missing

/-- `str()` of a list of names without quotes. -/
def nameList (names : List String) : String :=
  "[" ++ ", ".intercalate (names.map fun name => "'" ++ name ++ "'") ++ "]"

def validateLocation (location : Json) : List String → Except ReadError Unit
  | [] => .ok ()
  | locField :: fields => do
      if ← raising (pyIn locField location) then
        validateLocation location fields
      else
        .error (.validation ("Finding location missing required field: " ++ locField))

def validateFinding (finding : Json) : Except ReadError Unit := do
  let missing ← raising (missingFields finding requiredFields)
  if missing.isEmpty then
    let location ← raising (pyGet finding "location" (.obj []))
    validateLocation location locationFields
  else
    .error (.validation ("Finding missing required fields: " ++ nameList missing))

/-- The loop of `validate_findings_json`, from an index on. -/
def validateFindings : Nat → List Json → Except ReadError Unit
  | _, [] => .ok ()
  | idx, finding :: findings =>
      match validateFinding finding with
      | .ok () => validateFindings (idx + 1) findings
      | .error (.validation message) =>
          .error (.validation ("Finding at index " ++ toString idx ++ ": " ++ message))
      | .error e => .error e

def validateFindingsJson (data : Json) : Except ReadError Unit := do
  if ← raising (pyIn "findings" data) then
    match ← raising (pyIndex data "findings") with
    | .arr findings => validateFindings 0 findings
    | _ => .error (.validation "'findings' must be a list")
  else
    .error (.validation "Missing findings key in input JSON")

/-- What is found under the input path: nothing, a text that is no JSON, or a value. -/
inductive InputFile
  | missing | malformed | value (data : Json)

def readFindings : InputFile → Except ReadError Json
  | .missing => .error .fileNotFound
  | .malformed => .error .jsonDecodeError
  | .value data => do
      validateFindingsJson data
      return data

section Accepted

/-- What the validation asks of one member of `findings`. The location need not be an object:
a list with both names, or a string that contains both, passes as well. -/
structure Admitted (finding : PyDict) : Prop where
  id : ∃ v, Dict.get? finding "id" = some v
  severity : ∃ v, Dict.get? finding "severity" = some v
  ruleCaught : ∃ v, Dict.get? finding "rule_caught" = some v
  location : ∃ v, Dict.get? finding "location" = some v ∧
    ∀ locField ∈ locationFields, pyIn locField v = .ok true

theorem missingFields_eq_nil {finding : Json} {fields : List String} :
    missingFields finding fields = .ok [] ↔ ∀ f ∈ fields, pyIn f finding = .ok true := by
  induction fields with
  | nil => simp [missingFields, pure, Except.pure]
  | cons f fields ih =>
    rw [List.forall_mem_cons, ← ih]
    cases hf : pyIn f finding with
    | error e => simp [missingFields, hf, bind, Except.bind]
    | ok present =>
      cases hfs : missingFields finding fields with
      | error e => simp [missingFields, hf, hfs, bind, Except.bind]
      | ok missing =>
        cases present <;> simp [missingFields, hf, hfs, bind, Except.bind, pure, Except.pure]

theorem validateLocation_ok {location : Json} {fields : List String} :
    validateLocation location fields = .ok () ↔ ∀ f ∈ fields, pyIn f location = .ok true := by
  induction fields with
  | nil => simp [validateLocation]
  | cons f fields ih =>
    rw [List.forall_mem_cons, ← ih]
    cases hf : pyIn f location with
    | error e => simp [validateLocation, hf, raising, bind, Except.bind]
    | ok present => cases present <;> simp [validateLocation, hf, raising, bind, Except.bind]

theorem validateFinding_ok_iff {finding : Json} :
    validateFinding finding = .ok () ↔ (∀ f ∈ requiredFields, pyIn f finding = .ok true) ∧
      ∃ location, pyGet finding "location" (.obj []) = .ok location ∧
        ∀ f ∈ locationFields, pyIn f location = .ok true := by
  rw [← missingFields_eq_nil]
  cases hm : missingFields finding requiredFields with
  | error e => simp [validateFinding, hm, raising, bind, Except.bind]
  | ok missing =>
    cases missing with
    | cons f fields => simp [validateFinding, hm, raising, bind, Except.bind]
    | nil =>
      cases hl : pyGet finding "location" (.obj []) with
      | error e => simp [validateFinding, hm, hl, raising, bind, Except.bind]
      | ok location =>
        simp [validateFinding, hm, hl, raising, bind, Except.bind, validateLocation_ok]

theorem validateFinding_ok {finding : Json} :
    validateFinding finding = .ok () ↔ ∃ d, finding = .obj d ∧ Admitted d := by
  rw [validateFinding_ok_iff]
  constructor
  · rintro ⟨hfields, location, hget, hlocation⟩
    cases finding with
    | obj d =>
      simp only [requiredFields, List.forall_mem_cons, List.not_mem_nil, false_imp_iff,
        implies_true, and_true, pyIn_obj] at hfields
      obtain ⟨hid, hseverity, ⟨v, hv⟩, hrule⟩ := hfields
      have hlocated : v = location := by simpa [pyGet, hv, pure, Except.pure] using hget
      subst hlocated
      exact ⟨d, rfl, hid, hseverity, hrule, v, hv, hlocation⟩
    | null | bool | int | float | str | arr => simp [pyGet] at hget
  · rintro ⟨d, rfl, hid, hseverity, hrule, v, hv, hlocation⟩
    refine ⟨?_, v, by simp [pyGet, hv, pure, Except.pure], hlocation⟩
    simp only [requiredFields, List.forall_mem_cons, List.not_mem_nil, false_imp_iff,
      implies_true, and_true, pyIn_obj]
    exact ⟨hid, hseverity, ⟨v, hv⟩, hrule⟩

theorem validateFindings_ok {findings : List Json} (idx : Nat) :
    validateFindings idx findings = .ok () ↔ ∀ f ∈ findings, validateFinding f = .ok () := by
  induction findings generalizing idx with
  | nil => simp [validateFindings]
  | cons f findings ih =>
    rw [List.forall_mem_cons, ← ih (idx + 1)]
    cases hf : validateFinding f with
    | ok => simp [validateFindings, hf]
    | error e => cases e <;> simp [validateFindings, hf]

theorem forall_admitted {items : List Json} :
    (∀ f ∈ items, validateFinding f = .ok ()) ↔
      ∃ findings : List PyDict, items = findings.map Json.obj ∧ ∀ f ∈ findings, Admitted f := by
  constructor
  · intro h
    induction items with
    | nil => exact ⟨[], rfl, by simp⟩
    | cons item items ih =>
      rw [List.forall_mem_cons, validateFinding_ok] at h
      obtain ⟨⟨d, rfl, hd⟩, hrest⟩ := h
      obtain ⟨findings, rfl, hall⟩ := ih hrest
      exact ⟨d :: findings, rfl, List.forall_mem_cons.mpr ⟨hd, hall⟩⟩
  · rintro ⟨findings, rfl, hall⟩ f hf
    obtain ⟨d, hd, rfl⟩ := List.mem_map.mp hf
    exact validateFinding_ok.mpr ⟨d, rfl, hall d hd⟩

theorem validateFindingsJson_ok {data : Json} :
    validateFindingsJson data = .ok () ↔ ∃ (entries : PyDict) (findings : List PyDict),
      data = .obj entries ∧ Dict.get? entries "findings" = some (.arr (findings.map Json.obj)) ∧
      ∀ f ∈ findings, Admitted f := by
  cases data with
  | obj entries =>
    cases hf : Dict.get? entries "findings" with
    | none => simp [validateFindingsJson, pyIn, hf, raising, bind, Except.bind, pure, Except.pure]
    | some v =>
      cases v with
      | arr items =>
        have hloop : validateFindingsJson (.obj entries) = validateFindings 0 items := by
          simp [validateFindingsJson, pyIn, pyIndex, hf, raising, bind, Except.bind, pure,
            Except.pure]
        rw [hloop, validateFindings_ok, forall_admitted]
        simp [hf]
      | null | bool | int | float | str | obj =>
        simp [validateFindingsJson, pyIn, pyIndex, hf, raising, bind, Except.bind, pure,
          Except.pure]
  | arr items =>
    cases hin : pyIn "findings" (.arr items) with
    | error e => simp [validateFindingsJson, hin, raising, bind, Except.bind]
    | ok found =>
      cases found <;> simp [validateFindingsJson, hin, pyIndex, raising, bind, Except.bind]
  | str s =>
    cases hin : pyIn "findings" (.str s) with
    | error e => simp [validateFindingsJson, hin, raising, bind, Except.bind]
    | ok found =>
      cases found <;> simp [validateFindingsJson, hin, pyIndex, raising, bind, Except.bind]
  | null | bool | int | float => simp [validateFindingsJson, pyIn, raising, bind, Except.bind]

theorem readFindings_ok {file : InputFile} {data : Json} :
    readFindings file = .ok data ↔ file = .value data ∧ validateFindingsJson data = .ok () := by
  cases file with
  | missing | malformed => simp [readFindings]
  | value v =>
    cases hv : validateFindingsJson v with
    | error e =>
      simp only [readFindings, hv, bind, Except.bind, reduceCtorEq, InputFile.value.injEq,
        false_iff, not_and]
      rintro rfl
      simp [hv]
    | ok =>
      simp only [readFindings, hv, bind, Except.bind, pure, Except.pure, Except.ok.injEq,
        InputFile.value.injEq]
      exact ⟨fun h => ⟨h, h ▸ hv⟩, And.left⟩

end Accepted

end SolanaAuditor.Suggestions
