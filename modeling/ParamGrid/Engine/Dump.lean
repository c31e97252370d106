import ParamGrid.Engine.Basic
import ParamGrid.Text.Quoted

set_option autoImplicit false

namespace ParamGrid

def Value.dump : Value → String
  | null => "Null"
  | bool b => "Bool(" ++ Value.boolText b ++ ")"
  | int n => "Int(" ++ Value.intText n ++ ")"
  | float x => "Float(" ++ String.ofList (Decimal.Layout.dump.chars x) ++ ")"
  | text s => "Text(" ++ Text.quote s ++ ")"

def dumpOption {α : Type} (dump : α → String) : Option α → String
  | none => "None"
  | some a => "Some(" ++ dump a ++ ")"

def dumpRecord (name : String) (fields : List (String × String)) : String :=
  name ++ " \x7b " ++ ", ".intercalate (fields.map fun (field, value) => field ++ ": " ++ value) ++
    " \x7d"

def dumpCursor (cursor : List Nat) : String :=
  Text.bracketed (cursor.map toString)

def Dimension.dump (d : Dimension) : String :=
  let slots := fun (slots : List (Option String)) =>
    Text.bracketed (slots.map (dumpOption Text.quote))
  dumpRecord "Dimension"
    [("name", Text.quote d.name),
      ("values", Text.bracketed (d.values.map Value.dump)),
      ("filters", dumpOption slots d.filters)]

def Status.dump : Status → String
  | pending => "Pending"
  | positioned => "Positioned"
  | exhausted => "Exhausted"

def Engine.dump {σ : Type} (e : Engine σ) : String :=
  dumpRecord "CombinatorialEngine"
    [("dimensions", Text.bracketed (e.dimensions.map Dimension.dump)),
      ("cursor", dumpCursor e.cursor),
      ("before_start", Value.boolText e.beforeStart),
      ("status", e.status.dump),
      ("committed", Value.boolText e.committed),
      ("has_hook", Value.boolText e.hook.isSome)]

end ParamGrid
