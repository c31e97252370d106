import ParamGrid.Filter.Basic

set_option autoImplicit false

namespace ParamGrid

structure IndexFault where
  length : Nat
  index : Nat
  deriving DecidableEq, Repr

def IndexFault.message (f : IndexFault) : String :=
  "index out of bounds: the len is " ++ toString f.length ++ " but the index is " ++
    toString f.index

def lookup {α : Type} (items : List α) (index : Nat) : Except IndexFault α :=
  match items[index]? with
  | some item => .ok item
  | none => .error ⟨items.length, index⟩

namespace Filter

def Comparator.holds : Comparator → Nat → Nat → Bool
  | .equal, a, b => a == b
  | .notEqual, a, b => a != b

def eval (cursor : List Nat) : Filter → Except IndexFault Bool
  | compare dimension comparator position =>
    match lookup cursor dimension with
    | .ok chosen => .ok (Comparator.holds comparator chosen position)
    | .error fault => .error fault
  | join .and left right =>
    match left.eval cursor with
    | .ok true => right.eval cursor
    | other => other
  | join .or left right =>
    match left.eval cursor with
    | .ok false => right.eval cursor
    | other => other

def accepts (cursor : List Nat) : Option Filter → Except IndexFault Bool
  | none => .ok true
  | some f => f.eval cursor

end Filter

end ParamGrid
