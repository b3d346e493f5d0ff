/- SolanaAuditor/Python
   digest: Exceptions and numbers of the Python scripts. -/

import SolanaAuditor.Json
import SolanaAuditor.Lib.Lists
import SolanaAuditor.Lib.StableSort
import Mathlib.Algebra.Order.Ring.Abs
import Mathlib.Algebra.Order.Ring.Rat
import Mathlib.Data.List.Infix

set_option autoImplicit false
set_option relaxedAutoImplicit false

namespace SolanaAuditor

inductive PyError
  | valueError | keyError | indexError | typeError | attributeError | overflowError
  deriving DecidableEq

abbrev Py (α : Type) := Except PyError α

theorem Py.bind_eq_ok {α β : Type} {x : Py α} {f : α → Py β} {b : β} :
    x >>= f = .ok b ↔ ∃ a, x = .ok a ∧ f a = .ok b := by
  cases x <;> simp [bind, Except.bind]

section Collect

variable {α β : Type} {make : α → Py β} {collect : List α → Py (List β)} {as : List α}
  {bs : List β}

/-- A loop that appends to its result what it makes of each member. -/
structure Collects (make : α → Py β) (collect : List α → Py (List β)) : Prop where
  nil : collect [] = .ok []
  cons : ∀ a as, collect (a :: as) = make a >>= fun b => collect as >>= fun bs => .ok (b :: bs)

theorem Collects.cons_ok (h : Collects make collect) {a : α} : collect (a :: as) = .ok bs ↔
    ∃ b, make a = .ok b ∧ ∃ rest, collect as = .ok rest ∧ b :: rest = bs := by
  simp only [h.cons, Py.bind_eq_ok, Except.ok.injEq]

/-- The results are those of the members, in their order. -/
theorem Collects.ok_iff (h : Collects make collect) :
    collect as = .ok bs ↔ List.Forall₂ (fun a b => make a = .ok b) as bs := by
  induction as generalizing bs with
  | nil => rw [h.nil, List.forall₂_nil_left_iff, Except.ok.injEq, eq_comm]
  | cons a as ih =>
    rw [h.cons_ok]
    constructor
    · rintro ⟨b, hb, rest, hrest, rfl⟩
      exact .cons hb (ih.mp hrest)
    · intro hall
      cases hall with
      | cons hb hrest => exact ⟨_, hb, _, ih.mpr hrest, rfl⟩

theorem Collects.map_ok (h : Collects make collect) {f : α → β}
    (hf : ∀ a ∈ as, make a = .ok (f a)) : collect as = .ok (as.map f) := by
  rw [h.ok_iff, List.forall₂_map_right_iff, List.forall₂_same]
  exact hf

end Collect
/-- The least natural number that `float()` does not round to a finite double. -/
def floatLimit : Nat := 2 ^ 1024 - 2 ^ 970

/-- `float(n)` of an integer, in exact arithmetic up to its overflow. -/
def floatOfInt (n : Int) : Py FloatValue :=
  if n.natAbs < floatLimit then .ok (.finite n) else .error .overflowError

/-- `isinstance(x, (int, float))`: a Boolean is an integer. -/
def isNumber : Json → Bool
  | .bool _ | .int _ | .float _ => true
  | .null | .str _ | .arr _ | .obj _ => false

/-- `float(x)` of a number. -/
def toFloat : Json → Py FloatValue
  | .bool b => .ok (.finite (if b then 1 else 0))
  | .int n => floatOfInt n
  | .float x => .ok x
  | .null | .str _ | .arr _ | .obj _ => .error .typeError

theorem toFloat_of_isNumber {x : Json} (h : isNumber x = true)
    (hrange : ∀ n, x = .int n → n.natAbs < floatLimit) : ∃ v, toFloat x = .ok v := by
  cases x with
  | bool b => exact ⟨_, rfl⟩
  | int n => exact ⟨.finite n, by simp [toFloat, floatOfInt, hrange n rfl]⟩
  | float v => exact ⟨v, rfl⟩
  | null | str | arr | obj => simp [isNumber] at h

theorem toFloat_of_not_isNumber {x : Json} (h : isNumber x = false) :
    toFloat x = .error .typeError := by
  cases x with
  | null | str | arr | obj => rfl
  | bool | int | float => simp [isNumber] at h

/-- An integer beyond the limit is a number without a float. -/
theorem toFloat_overflow {n : Int} (h : ¬ n.natAbs < floatLimit) :
    toFloat (.int n) = .error .overflowError := by
  simp [toFloat, floatOfInt, h]

theorem toFloat_returns {v : Json} :
    (∃ x, toFloat v = .ok x) ↔ isNumber v = true ∧ ∀ n, v = .int n → n.natAbs < floatLimit := by
  constructor
  · rintro ⟨x, hx⟩
    refine ⟨?_, ?_⟩
    · by_contra hn
      rw [toFloat_of_not_isNumber (Bool.eq_false_iff.mpr hn)] at hx
      simp at hx
    · rintro n rfl
      by_contra hover
      simp [toFloat_overflow hover] at hx
  · rintro ⟨hn, hrange⟩
    exact toFloat_of_isNumber hn hrange

/-- `abs(x - score) > tolerance` -/
def farFrom (x : FloatValue) (score tolerance : ℚ) : Bool :=
  match x with
  | .finite q => decide (tolerance < |q - score|)
  | .posInf | .negInf => true
  | .nan => false

/-- Python's truth value of a JSON value. -/
def truthy : Json → Bool
  | .null => false
  | .bool b => b
  | .int n => n != 0
  | .float (.finite q) => q != 0
  | .float _ => true
  | .str s => s != ""
  | .arr items => !items.isEmpty
  | .obj entries => !entries.isEmpty

/-- `v == s` of a value and a text. -/
def isText (s : String) : Json → Bool
  | .str t => t == s
  | _ => false

/-- A text, or a value that Python takes for false. -/
def TextOrFalsy (v : Json) : Prop := truthy v = true → ∃ s, v = .str s

def charsLess : List Char → List Char → Bool
  | _, [] => false
  | [], _ :: _ => true
  | c :: s, d :: t => if c = d then charsLess s t else decide (c.toNat < d.toNat)

/-- `s < t` of texts: the order of their code points. -/
def textLess (s t : String) : Bool := charsLess s.toList t.toList

/-- Texts neither of which is less are equal. -/
theorem charsLess_total {s t : List Char} (h : charsLess s t = false) (h' : charsLess t s = false) :
    s = t := by
  induction s generalizing t with
  | nil =>
    cases t with
    | nil => rfl
    | cons d t => simp [charsLess] at h
  | cons c s ih =>
    cases t with
    | nil => simp [charsLess] at h'
    | cons d t =>
      unfold charsLess at h h'
      by_cases hc : c = d
      · subst hc
        rw [if_pos rfl] at h h'
        rw [ih h h']
      · rw [if_neg hc] at h
        rw [if_neg (Ne.symm hc)] at h'
        have hne : c.toNat ≠ d.toNat := fun heq => hc (Char.toNat_inj.mp heq)
        simp only [decide_eq_false_iff_not] at h h'
        omega

theorem charsLess_asymm {s t : List Char} (h : charsLess s t = true) : charsLess t s = false := by
  induction s generalizing t with
  | nil => cases t <;> rfl
  | cons c s ih =>
    cases t with
    | nil => simp [charsLess] at h
    | cons d t =>
      unfold charsLess at h ⊢
      by_cases hc : c = d
      · subst hc
        rw [if_pos rfl] at h ⊢
        exact ih h
      · rw [if_neg hc] at h
        rw [if_neg (Ne.symm hc)]
        simp only [decide_eq_true_eq, decide_eq_false_iff_not] at h ⊢
        omega

theorem charsLess_trans {s t u : List Char} (h : charsLess s t = true)
    (h' : charsLess t u = true) : charsLess s u = true := by
  induction s generalizing t u with
  | nil =>
    cases t with
    | nil => exact h'
    | cons d t =>
      cases u with
      | nil => simp [charsLess] at h'
      | cons e u => rfl
  | cons c s ih =>
    cases t with
    | nil => simp [charsLess] at h
    | cons d t =>
      cases u with
      | nil => simp [charsLess] at h'
      | cons e u =>
        unfold charsLess at h h' ⊢
        grind

theorem strictWeak_textLess : Lib.StableSort.StrictWeak (fun _ => True) textLess where
  asymm s t _ _ := charsLess_asymm
  trans s t u _ _ _ h h' := by
    unfold textLess at h h' ⊢
    by_contra hlt
    rw [Bool.not_eq_false] at hlt
    cases hst : charsLess s.toList t.toList with
    | true =>
      rw [charsLess_trans hlt hst] at h'
      contradiction
    | false =>
      rw [charsLess_total hst h] at hlt
      rw [h'] at hlt
      contradiction

/-- `sub in s` -/
def isSubstring (sub s : String) : Bool := decide (sub.toList <:+: s.toList)

/-- `key in container` -/
def pyIn (key : String) : Json → Py Bool
  | .obj entries => return (Lib.Dict.get? entries key).isSome
  | .arr items => return items.any fun
      | .str s => s == key
      | _ => false
  | .str s => return isSubstring key s
  | .null | .bool _ | .int _ | .float _ => .error .typeError

theorem pyIn_obj {key : String} {d : List (String × Json)} :
    pyIn key (.obj d) = .ok true ↔ ∃ v, Lib.Dict.get? d key = some v := by
  simp [pyIn, pure, Except.pure, Option.isSome_iff_exists]

/-- `container[key]` -/
def pyIndex (container : Json) (key : String) : Py Json :=
  match container with
  | .obj entries =>
      match Lib.Dict.get? entries key with
      | some v => return v
      | none => .error .keyError
  | .null | .bool _ | .int _ | .float _ | .str _ | .arr _ => .error .typeError

/-- `d.get(k, default)` of a value that may be no dictionary. -/
def pyGet (container : Json) (key : String) (default : Json) : Py Json :=
  match container with
  | .obj entries => return (Lib.Dict.get? entries key).getD default
  | .null | .bool _ | .int _ | .float _ | .str _ | .arr _ => .error .attributeError

theorem pyGet_returns {v : Json} (key : String) (default : Json) :
    (∃ w, pyGet v key default = .ok w) ↔ ∃ entries, v = .obj entries := by
  cases v <;> simp [pyGet, pure, Except.pure]

/-- A hashable value up to Python's equality: `1`, `1.0` and `True` are one key. -/
inductive PyKey
  | none | number (x : FloatValue) | text (s : String)
  deriving DecidableEq

/-- The key of a value; lists and dictionaries are not hashable. -/
def pyKey : Json → Option PyKey
  | .null => some .none
  | .bool b => some (.number (.finite (if b then 1 else 0)))
  | .int n => some (.number (.finite n))
  | .float x => some (.number x)
  | .str s => some (.text s)
  | .arr _ | .obj _ => none

/-- Python's text functions that rest on the Unicode tables or on the formatting of values:
`lower`, `upper`, the digits of `\d`, and `str()` of a value that is no string. -/
structure PyText where
  lower : String → String
  upper : String → String
  isDecimal : Char → Bool
  str : Json → String

namespace PyText

def format (text : PyText) : Json → String
  | .str s => s
  | x => text.str x

/-- `x.lower()` of a value that may be no string. -/
def lowered (text : PyText) : Json → Py String
  | .str s => return text.lower s
  | _ => .error .attributeError

/-- `x.upper()` of a value that may be no string. -/
def uppered (text : PyText) : Json → Py String
  | .str s => return text.upper s
  | _ => .error .attributeError

theorem lowered_returns (text : PyText) {v : Json} :
    (∃ s, text.lowered v = .ok s) ↔ ∃ s, v = .str s := by
  cases v <;> simp [lowered, pure, Except.pure]

theorem uppered_returns (text : PyText) {v : Json} :
    (∃ s, text.uppered v = .ok s) ↔ ∃ s, v = .str s := by
  cases v <;> simp [uppered, pure, Except.pure]

/-- Python's text functions on ASCII texts, numbers, Booleans and `None`. -/
def ascii : PyText where
  lower s := String.ofList (s.toList.map Char.toLower)
  upper s := String.ofList (s.toList.map Char.toUpper)
  isDecimal := Char.isDigit
  str
    | .null => "None"
    | .bool b => if b then "True" else "False"
    | .int n => toString n
    | _ => ""

end PyText

/-- Python's character tables: the classes `\s` and `\w` of `re`, `str.isdigit`, the value of a
decimal digit, and the letters that `re.IGNORECASE` takes for one. -/
structure PyChars where
  isSpace : Char → Bool
  isWord : Char → Bool
  isDigit : Char → Bool
  decimal : Char → Option Nat
  sameLetter : Char → Char → Bool

namespace PyChars

/-- `int(digits)` from the value of the digits read so far. -/
def decimalValue (chars : PyChars) : Nat → List Char → Py Nat
  | value, [] => return value
  | value, c :: digits =>
      match chars.decimal c with
      | some d => decimalValue chars (10 * value + d) digits
      | none => .error .valueError

/-- The longest text of digits that `int()` takes. -/
def maxStrDigits : Nat := 4300

def int (chars : PyChars) (digits : List Char) : Py Nat :=
  if maxStrDigits < digits.length then .error .valueError else chars.decimalValue 0 digits

/-- `text.isdigit()` -/
def allDigits (chars : PyChars) (s : List Char) : Bool := !s.isEmpty && s.all chars.isDigit

def ascii : PyChars where
  isSpace c := c.isWhitespace || c.toNat == 11 || c.toNat == 12 || (28 ≤ c.toNat && c.toNat ≤ 31)
  isWord c := c.isAlphanum || c == '_'
  isDigit := Char.isDigit
  decimal c := if c.isDigit then some (c.toNat - '0'.toNat) else none
  sameLetter c d := c.toLower == d.toLower

end PyChars

abbrev PyDict := List (String × Json)

def PyDict.get (d : PyDict) (k : String) : Json := (Lib.Dict.get? d k).getD .null

/-- `finding.get(key, default)` of a dictionary. -/
def field (finding : PyDict) (key : String) (default : Json) : Json :=
  (Lib.Dict.get? finding key).getD default

/-- `a or b` -/
def pyOr (a b : Json) : Json := if truthy a then a else b

/-- The members of a list whose members are used as dictionaries. -/
def pyDicts : List Json → Py (List PyDict)
  | [] => return []
  | .obj d :: items => return d :: (← pyDicts items)
  | _ :: _ => .error .attributeError

/-- `for x in value`, where each `x` is used as a dictionary. The members of a text and the
names of a dictionary are texts. -/
def pyRows : Json → Py (List PyDict)
  | .arr items => pyDicts items
  | .str s => if s.isEmpty then return [] else .error .attributeError
  | .obj entries => if entries.isEmpty then return [] else .error .attributeError
  | .null | .bool _ | .int _ | .float _ => .error .typeError

theorem pyDicts_map_obj (findings : List PyDict) :
    pyDicts (findings.map Json.obj) = .ok findings := by
  induction findings with
  | nil => rfl
  | cons d findings ih => simp [pyDicts, ih, bind, Except.bind, pure, Except.pure]

end SolanaAuditor
