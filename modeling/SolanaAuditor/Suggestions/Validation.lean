/- SolanaAuditor/Suggestions/Validation
   digest: What validate_findings_json answers to each JSON value. -/

import SolanaAuditor.Suggestions.Alignment

set_option autoImplicit false
set_option relaxedAutoImplicit false

namespace SolanaAuditor.Suggestions

open SolanaAuditor.Lib

section Shapes

/-- The finding has every required field, and its location is an object with a file and a line. -/
structure StrictFinding (finding : PyDict) : Prop where
  id : ∃ v, Dict.get? finding "id" = some v
  severity : ∃ v, Dict.get? finding "severity" = some v
  ruleCaught : ∃ v, Dict.get? finding "rule_caught" = some v
  location : ∃ entries : PyDict, Dict.get? finding "location" = some (.obj entries) ∧
    (∃ v, Dict.get? entries "file" = some v) ∧ ∃ v, Dict.get? entries "line" = some v

def WellFormed (data : Json) : Prop :=
  ∃ (entries : PyDict) (findings : List PyDict), data = .obj entries ∧
    Dict.get? entries "findings" = some (.arr (findings.map Json.obj)) ∧
    ∀ d ∈ findings, StrictFinding d

/-- The function returns or raises a `ValidationError`, and it returns for well-formed values
only. -/
structure Validated (data : Json) : Prop where
  answered : validateFindingsJson data = .ok () ∨
    ∃ message, validateFindingsJson data = .error (.validation message)
  sound : validateFindingsJson data = .ok () → WellFormed data

/-- The value is an object, a list or a text, and one of the names is not in it. -/
def Lacks (names : List String) (v : Json) : Prop := ∃ name ∈ names, pyIn name v = .ok false

/-- A finding in which a required name is missing, or whose location lacks a file or a line. -/
def Refusable (finding : Json) : Prop :=
  Lacks requiredFields finding ∨ ∃ (d : PyDict) (location : Json), finding = .obj d ∧
    Dict.get? d "location" = some location ∧ Lacks locationFields location

/-- A list with a finding to refuse and only admitted findings before it. -/
def RefusableList (findings : List Json) : Prop :=
  ∃ (before : List PyDict) (finding : Json) (after : List Json),
    findings = before.map Json.obj ++ finding :: after ∧ (∀ d ∈ before, Admitted d) ∧
      Refusable finding

/-- A document without findings, with findings that are no list, or with a finding to refuse. -/
def RefusableDocument (data : Json) : Prop :=
  Lacks ["findings"] data ∨ ∃ (entries : PyDict) (v : Json), data = .obj entries ∧
    Dict.get? entries "findings" = some v ∧ ∀ findings, v = .arr findings → RefusableList findings

end Shapes

section Checks

/-- Whether `in` raises an exception depends on the kind of the value only. -/
theorem pyIn_kind (v : Json) :
    (∀ name, pyIn name v = .error .typeError) ∨ ∀ name, ∃ b, pyIn name v = .ok b := by
  cases v with
  | null | bool | int | float => exact .inl fun _ => rfl
  | str | arr | obj => exact .inr fun _ => ⟨_, rfl⟩

theorem not_lacks_of_error {names : List String} {v : Json} {name : String} {e : PyError}
    (h : pyIn name v = .error e) : ¬ Lacks names v := by
  rintro ⟨other, -, hother⟩
  rcases pyIn_kind v with hkind | hkind
  · simp [hkind other] at hother
  · obtain ⟨b, hb⟩ := hkind name
    simp [hb] at h

theorem lacks_cons {name : String} {names : List String} {v : Json} :
    Lacks (name :: names) v ↔ pyIn name v = .ok false ∨ Lacks names v := by
  simp [Lacks]

theorem missingFields_total {finding : Json} (h : ∀ name, ∃ b, pyIn name finding = .ok b)
    (fields : List String) : ∃ missing, missingFields finding fields = .ok missing := by
  induction fields with
  | nil => exact ⟨[], rfl⟩
  | cons name fields ih =>
    obtain ⟨b, hb⟩ := h name
    obtain ⟨missing, hmissing⟩ := ih
    simp [missingFields, hb, hmissing, bind, Except.bind, pure, Except.pure]

theorem missingFields_lacks {finding : Json} {fields : List String} :
    (∃ f fs, missingFields finding fields = .ok (f :: fs)) ↔ Lacks fields finding := by
  induction fields with
  | nil => simp [missingFields, Lacks, pure, Except.pure]
  | cons name fields ih =>
    rw [lacks_cons, ← ih]
    cases hin : pyIn name finding with
    | error e =>
      have hrest := fun h => not_lacks_of_error hin (ih.mp h)
      simpa [missingFields, hin, bind, Except.bind] using hrest
    | ok present =>
      have hkind : ∀ name, ∃ b, pyIn name finding = .ok b :=
        (pyIn_kind finding).resolve_left fun herror => by simp [herror name] at hin
      obtain ⟨missing, hmissing⟩ := missingFields_total hkind fields
      cases present <;> simp [missingFields, hin, hmissing, bind, Except.bind, pure, Except.pure]

theorem validateLocation_refused {location : Json} {fields : List String} :
    (∃ message, validateLocation location fields = .error (.validation message)) ↔
      Lacks fields location := by
  induction fields with
  | nil => simp [validateLocation, Lacks]
  | cons name fields ih =>
    rw [lacks_cons, ← ih]
    cases hin : pyIn name location with
    | error e =>
      have hrest := fun h => not_lacks_of_error hin (ih.mp h)
      simpa [validateLocation, hin, raising, bind, Except.bind] using hrest
    | ok present => cases present <;> simp [validateLocation, hin, raising, bind, Except.bind]

theorem validateFinding_refused {finding : Json} :
    (∃ message, validateFinding finding = .error (.validation message)) ↔ Refusable finding := by
  cases hm : missingFields finding requiredFields with
  | error e =>
    refine iff_of_false ?_ ?_
    · simp [validateFinding, hm, raising, bind, Except.bind]
    · rintro (hlacks | ⟨d, location, rfl, -, -⟩)
      · obtain ⟨f, fs, hmissing⟩ := missingFields_lacks.mpr hlacks
        simp [hm] at hmissing
      · have hkind : ∀ name, ∃ b, pyIn name (.obj d) = .ok b := fun _ => ⟨_, rfl⟩
        obtain ⟨missing, hmissing⟩ := missingFields_total hkind requiredFields
        simp [hm] at hmissing
  | ok missing =>
    cases missing with
    | cons f fs =>
      refine iff_of_true ?_ (.inl (missingFields_lacks.mp ⟨f, fs, hm⟩))
      simp [validateFinding, hm, raising, bind, Except.bind]
    | nil =>
      have hpresent : ¬ Lacks requiredFields finding := by
        rw [← missingFields_lacks]
        simp [hm]
      rw [Refusable, or_iff_right hpresent]
      cases finding with
      | obj d =>
        obtain ⟨location, hlocation⟩ : ∃ location, Dict.get? d "location" = some location :=
          pyIn_obj.mp (missingFields_eq_nil.mp hm "location" (by decide))
        have hcheck : validateFinding (.obj d) = validateLocation location locationFields := by
          simp [validateFinding, hm, hlocation, raising, pyGet, bind, Except.bind, pure,
            Except.pure]
        rw [hcheck, validateLocation_refused]
        simp [hlocation]
      | null | bool | int | float | str | arr =>
        simp [validateFinding, hm, raising, pyGet, bind, Except.bind]

theorem refusableList_cons {finding : Json} {findings : List Json} :
    RefusableList (finding :: findings) ↔ Refusable finding ∨
      (∃ d, finding = .obj d ∧ Admitted d) ∧ RefusableList findings := by
  constructor
  · rintro ⟨before, refused, after, hlist, hbefore, hrefused⟩
    cases before with
    | nil =>
      obtain ⟨rfl, -⟩ := List.cons.inj hlist
      exact .inl hrefused
    | cons d before =>
      obtain ⟨rfl, rfl⟩ := List.cons.inj hlist
      obtain ⟨hd, hrest⟩ := List.forall_mem_cons.mp hbefore
      exact .inr ⟨⟨d, rfl, hd⟩, before, refused, after, rfl, hrest, hrefused⟩
  · rintro (hrefused | ⟨⟨d, rfl, hd⟩, before, refused, after, rfl, hbefore, hrefused⟩)
    · exact ⟨[], finding, findings, rfl, by simp, hrefused⟩
    · exact ⟨d :: before, refused, after, rfl, List.forall_mem_cons.mpr ⟨hd, hbefore⟩, hrefused⟩

theorem validateFindings_refused {findings : List Json} (idx : Nat) :
    (∃ message, validateFindings idx findings = .error (.validation message)) ↔
      RefusableList findings := by
  induction findings generalizing idx with
  | nil => simp [validateFindings, RefusableList]
  | cons finding findings ih =>
    rw [refusableList_cons, ← ih (idx + 1), ← validateFinding_refused, ← validateFinding_ok]
    cases hf : validateFinding finding with
    | ok u => simp [validateFindings, hf]
    | error e => cases e <;> simp [validateFindings, hf]

theorem validateFindingsJson_refused {data : Json} :
    (∃ message, validateFindingsJson data = .error (.validation message)) ↔
      RefusableDocument data := by
  have hlacks : Lacks ["findings"] data ↔ pyIn "findings" data = .ok false := by simp [Lacks]
  rw [RefusableDocument, hlacks]
  cases data with
  | obj entries =>
    cases hf : Dict.get? entries "findings" with
    | none =>
      have hin : pyIn "findings" (.obj entries) = .ok false := by
        simp [pyIn, hf, pure, Except.pure]
      refine iff_of_true ?_ (.inl hin)
      simp [validateFindingsJson, hin, raising, bind, Except.bind]
    | some v =>
      have hin : pyIn "findings" (.obj entries) = .ok true := by
        simp [pyIn, hf, pure, Except.pure]
      have hget : pyIndex (.obj entries) "findings" = .ok v := by
        simp [pyIndex, hf, pure, Except.pure]
      cases v with
      | arr findings =>
        have hloop : validateFindingsJson (.obj entries) = validateFindings 0 findings := by
          simp [validateFindingsJson, hin, hget, raising, bind, Except.bind]
        rw [hloop, validateFindings_refused]
        simp [hin, hf]
      | null | bool | int | float | str | obj =>
        simp [validateFindingsJson, hin, hget, hf, raising, bind, Except.bind]
  | str | arr | null | bool | int | float =>
    cases hin : pyIn "findings" _ with
    | error e => simp [validateFindingsJson, hin, raising, bind, Except.bind]
    | ok found =>
      cases found <;> simp [validateFindingsJson, hin, pyIndex, raising, bind, Except.bind]

end Checks

section Verdict

theorem StrictFinding.admitted {d : PyDict} (h : StrictFinding d) : Admitted d where
  id := h.id
  severity := h.severity
  ruleCaught := h.ruleCaught
  location := by
    obtain ⟨entries, hlocation, hfile, hline⟩ := h.location
    refine ⟨.obj entries, hlocation, ?_⟩
    simp only [locationFields, List.forall_mem_cons, List.not_mem_nil, false_imp_iff,
      implies_true, and_true, pyIn_obj]
    exact ⟨hfile, hline⟩

theorem WellFormed.returns {data : Json} (h : WellFormed data) :
    validateFindingsJson data = .ok () := by
  obtain ⟨entries, findings, rfl, hget, hall⟩ := h
  exact validateFindingsJson_ok.mpr ⟨entries, findings, rfl, hget, fun d hd => (hall d hd).admitted⟩

/-- The validation does what it says for the well-formed values and for those that it can
refuse. -/
theorem validated_iff (data : Json) : Validated data ↔ WellFormed data ∨ RefusableDocument data := by
  rw [← validateFindingsJson_refused]
  constructor
  · rintro ⟨hok | hrefused, hsound⟩
    · exact .inl (hsound hok)
    · exact .inr hrefused
  · rintro (hwell | ⟨message, hrefused⟩)
    · exact ⟨.inl hwell.returns, fun _ => hwell⟩
    · exact ⟨.inr ⟨message, hrefused⟩, fun hok => by simp [hrefused] at hok⟩

/-- A finding whose location is a text. -/
def textLocated : PyDict :=
  [("id", .str "VULN-01"), ("severity", .str "HIGH"), ("location", .str "file:line"),
    ("rule_caught", .str "Rule 1")]

/-- The value `null` raises a `TypeError`, and a text with `file` and `line` in it passes for a
location. -/
theorem null_and_text_location_not_validated :
    ¬ Validated .null ∧ ¬ Validated (findingsDocument [textLocated]) := by
  constructor
  · rintro ⟨hanswered, -⟩
    simp [validateFindingsJson, pyIn, raising, bind, Except.bind] at hanswered
  · rintro ⟨-, hsound⟩
    obtain ⟨entries, findings, hdata, hget, hall⟩ := hsound (by decide)
    obtain rfl := Json.obj.inj hdata
    have hlist : [Json.obj textLocated] = findings.map Json.obj :=
      Json.arr.inj (Option.some.inj hget)
    have hmem : Json.obj textLocated ∈ findings.map Json.obj := hlist ▸ List.mem_cons_self
    obtain ⟨d, hd, hsame⟩ := List.mem_map.mp hmem
    obtain ⟨location, hlocation, -⟩ := (hall d hd).location
    have htext : Dict.get? textLocated "location" = some (.str "file:line") := rfl
    rw [Json.obj.inj hsame, htext] at hlocation
    simp at hlocation

end Verdict

end SolanaAuditor.Suggestions
