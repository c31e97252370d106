import ParamGrid.Json.Printer
import ParamGrid.Json.Reader

set_option autoImplicit false

namespace ParamGrid

inductive Value where
  | null
  | bool (b : Bool)
  | int (n : Int64)
  | float (x : Float)
  | text (s : String)

namespace Value

def ofInt32 (n : Int32) : Value :=
  .int n.toInt64

def typeName : Value → String
  | null => "Null"
  | bool _ => "Bool"
  | int _ => "Int"
  | float _ => "Float"
  | text _ => "Text"

def boolText (b : Bool) : String :=
  if b then "true" else "false"

def intText (n : Int64) : String :=
  String.ofList (Json.intChars n.toInt)

def floatText (x : Float) : String :=
  String.ofList (Decimal.Layout.plain.chars x)

def display : Value → String
  | null => "null"
  | bool b => boolText b
  | int n => intText n
  | float x => floatText x
  | text s => s

def rawIdentifier : Value → String
  | null => "NULL"
  | text s => if s = "" then "EMPTY_STRING" else s
  | other => other.display

def identifier (v : Value) : String :=
  v.rawIdentifier.map fun c => if c = ' ' ∨ c = '\\' then '_' else c

def toJson : Value → Json
  | null => .null
  | bool b => .bool b
  | int n => .int n
  | float x => .real x
  | text s => .string s

def ofJson? : Json → Option Value
  | .null => some null
  | .bool b => some (bool b)
  | .int n => some (int n)
  | .real x => some (float x)
  | .string s => some (text s)
  | .list _ | .object _ => none

def readJson? (s : String) : Option Value :=
  (Json.read? s).bind ofJson?

protected def beq : Value → Value → Bool
  | null, null => true
  | bool a, bool b => a == b
  | int a, int b => a == b
  | float a, float b => a == b
  | text a, text b => a == b
  | _, _ => false

instance : BEq Value := ⟨Value.beq⟩

end Value

end ParamGrid
