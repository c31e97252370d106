import ParamGrid.Table
import ParamGrid.Value

set_option autoImplicit false

namespace ParamGrid

structure Combination where
  entries : List (String × Value)

namespace Combination

def get? (c : Combination) (name : String) : Option Value :=
  c.entries.lookup name

def length (c : Combination) : Nat :=
  c.entries.length

def isEmpty (c : Combination) : Bool :=
  c.entries.isEmpty

def applyTo (c : Combination) (table : Table Value) : Table Value :=
  table.putAll c.entries

def toTable (c : Combination) : Table Value :=
  Table.ofList c.entries

def entryIdentifier (entry : String × Value) : String :=
  entry.1 ++ "=" ++ entry.2.identifier

def identifier (c : Combination) : String :=
  ";".intercalate (c.entries.map entryIdentifier)

def entryLine (entry : String × Value) : String :=
  entry.1 ++ ": [" ++ entry.2.display ++ "]\n"

def display (c : Combination) : String :=
  String.join (c.entries.map entryLine)

def toJson (c : Combination) : Json :=
  .object (c.entries.map fun (name, value) => (name, value.toJson))

end Combination

end ParamGrid
