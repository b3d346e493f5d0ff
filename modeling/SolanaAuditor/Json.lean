/- SolanaAuditor/Json
   digest: JSON values as the scripts of the repository read and write them. -/

import Mathlib.Data.Rat.Defs
import SolanaAuditor.Lib.Dict

set_option autoImplicit false
set_option relaxedAutoImplicit false

namespace SolanaAuditor

open SolanaAuditor.Lib

/-- A float in exact arithmetic, with the values that are no number of their own. -/
inductive FloatValue
  | finite (q : ℚ) | posInf | negInf | nan
  deriving DecidableEq

/-- A JSON value. Integer and float literals are kept apart, as Python's parser does. -/
inductive Json
  | null
  | bool (b : Bool)
  | int (n : Int)
  | float (x : FloatValue)
  | str (s : String)
  | arr (items : List Json)
  | obj (entries : List (String × Json))

namespace Json

def get? : Json → String → Option Json
  | .obj entries, k => Dict.get? entries k
  | _, _ => none

@[simp] theorem get?_obj (entries : List (String × Json)) (k : String) :
    (Json.obj entries).get? k = Dict.get? entries k := rfl

end Json

end SolanaAuditor
