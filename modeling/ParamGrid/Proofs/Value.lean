import ParamGrid.Proofs.Json.Reading
import ParamGrid.Value

set_option autoImplicit false

namespace ParamGrid.Value

def readNull? : Json → Option Value
  | .null => some null
  | _ => none

def readBool? : Json → Option Value
  | .bool b => some (bool b)
  | _ => none

def readInt? : Json → Option Value
  | .int n => some (int n)
  | _ => none

def readFloat? : Json → Option Value
  | .real x => some (float x)
  | .int n => some (float n.toFloat)
  | _ => none

def readText? : Json → Option Value
  | .string s => some (text s)
  | _ => none

def readings : List (Json → Option Value) :=
  [readNull?, readBool?, readInt?, readFloat?, readText?]

theorem ofJson?_eq_findSome? (j : Json) : ofJson? j = readings.findSome? fun read => read j := by
  cases j <;> rfl

theorem ofJson?_toJson (v : Value) : ofJson? v.toJson = some v := by
  cases v <;> rfl

theorem whole_toJson {v : Value} (noFloats : ∀ x, v ≠ .float x) : v.toJson.Whole := by
  cases v with
  | null => exact .null
  | bool b => exact .bool b
  | int n => exact .int n
  | float x => exact absurd rfl (noFloats x)
  | text s => exact .string s

end ParamGrid.Value
