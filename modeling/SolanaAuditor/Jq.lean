/- SolanaAuditor/Jq
   digest: jq filters over documents and whole files, as the scripts use them. -/

import SolanaAuditor.Json

set_option autoImplicit false
set_option relaxedAutoImplicit false

/-!
`jq` is not part of the repository; the filters below follow its manual. A filter that
fails on a document keeps the outputs it made before, and the status of a run over several
documents is that of the last one.
-/

namespace SolanaAuditor

open SolanaAuditor.Lib

/-- A jq evaluation of one value: it gives a value or an error. -/
abbrev JqResult (α : Type) := Except Unit α

/-- What a run of `jq` printed, and whether its exit status is 0. -/
abbrev JqOutput := List Json × Bool

/-- `.k` -/
def jqIndex (k : String) : Json → JqResult Json
  | .obj entries => .ok ((Dict.get? entries k).getD .null)
  | .null => .ok .null
  | _ => .error ()

/-- `has(k)` -/
def jqHas (k : String) : Json → JqResult Bool
  | .obj entries => .ok (Dict.get? entries k).isSome
  | _ => .error ()

/-- `.[]` -/
def jqIterate : Json → JqResult (List Json)
  | .arr items => .ok items
  | .obj entries => .ok (entries.map Prod.snd)
  | _ => .error ()

/-- `.k = v` -/
def jqSet (k : String) (v : Json) : Json → JqResult Json
  | .obj entries => .ok (.obj (Dict.set entries k v))
  | .null => .ok (.obj [(k, v)])
  | _ => .error ()

/-- `a + b` for the operands of this script, whose right one is an array or an object. -/
def jqAdd : Json → Json → JqResult Json
  | .null, b => .ok b
  | .arr xs, .arr ys => .ok (.arr (xs ++ ys))
  | .obj d, .obj e => .ok (.obj (e.foldl (fun d p => Dict.set d p.1 p.2) d))
  | _, _ => .error ()

/-- `a // b`: an error of `a` is as good as `null`. -/
def jqAlternative (a : JqResult Json) (b : Json) : Json :=
  match a with
  | .ok .null => b
  | .ok (.bool false) => b
  | .ok v => v
  | .error _ => b

def jqEqStr (s : String) : Json → Bool
  | .str t => t == s
  | _ => false

/-- `.items[] | g`, stopped by the first error of `g`. -/
def jqEach (g : Json → JqResult (List Json)) : List Json → JqOutput
  | [] => ([], true)
  | x :: xs =>
      match g x with
      | .error _ => ([], false)
      | .ok ys => let rest := jqEach g xs; (ys ++ rest.1, rest.2)

def jqRun (f : Json → JqOutput) : List Json → JqOutput
  | [] => ([], true)
  | [doc] => f doc
  | doc :: docs => let rest := jqRun f docs; ((f doc).1 ++ rest.1, rest.2)

theorem jqRun_fst (f : Json → JqOutput) (docs : List Json) :
    (jqRun f docs).1 = docs.flatMap (fun doc => (f doc).1) := by
  fun_induction jqRun f docs with
  | case1 => rfl
  | case2 doc => simp
  | case3 doc docs hne rest ih => simp [rest, ih]

/-- Only the last document decides the status. -/
theorem jqRun_snd (f : Json → JqOutput) (docs : List Json) :
    (jqRun f docs).2 = true ↔ ∀ doc, docs.getLast? = some doc → (f doc).2 = true := by
  fun_induction jqRun f docs with
  | case1 => simp
  | case2 doc => simp
  | case3 doc docs hne rest ih =>
    obtain ⟨d, ds, rfl⟩ := List.exists_cons_of_ne_nil hne
    simpa [rest, List.getLast?_cons_cons] using ih

def jqSingle : JqResult Json → JqOutput
  | .ok v => ([v], true)
  | .error _ => ([], false)

/-- The text that `jq -r` prints of a value, from its text of a value that is no string. -/
def rawValue (render : Json → String) : Json → String
  | .str s => s
  | v => render v

def rawText (render : Json → String) (out : List Json) : List Char :=
  out.flatMap fun v => (rawValue render v).toList ++ ['\n']

end SolanaAuditor
