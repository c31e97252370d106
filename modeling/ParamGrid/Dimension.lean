import ParamGrid.Value

set_option autoImplicit false

namespace ParamGrid

structure Dimension where
  name : String
  values : List Value
  filters : Option (List (Option String))
  name_ne : name ≠ ""
  values_ne : values ≠ []
  length_filters : ∀ slots, filters = some slots → slots.length = values.length

inductive ShapeFault where
  | unnamed
  | noValues (dimension : String)
  | slotCount (dimension : String) (slots values : Nat)
  | repeated (dimension : String)
  deriving DecidableEq, Repr

def ShapeFault.message : ShapeFault → String
  | unnamed => "no name defined for the dimension"
  | noValues dimension => "no values have been defined for dimension '" ++ dimension ++ "'"
  | slotCount dimension slots values =>
    "dimension '" ++ dimension ++ "' declares " ++ toString slots ++ " filters for " ++
      toString values ++ " values"
  | repeated dimension => "dimension '" ++ dimension ++ "' is declared more than once"

namespace Dimension

def build (name : String) (values : List Value) (filters : Option (List (Option String))) :
    Except ShapeFault Dimension :=
  if name_ne : name = "" then .error .unnamed
  else if values_ne : values = [] then .error (.noValues name)
  else
    match filters with
    | none => .ok ⟨name, values, none, name_ne, values_ne, by simp⟩
    | some slots =>
      if length : slots.length = values.length then
        .ok ⟨name, values, some slots, name_ne, values_ne, by rintro _ ⟨rfl⟩; exact length⟩
      else .error (.slotCount name slots.length values.length)

def length (d : Dimension) : Nat :=
  d.values.length

theorem length_pos (d : Dimension) : 0 < d.length :=
  List.length_pos_iff.2 d.values_ne

def isEmpty (d : Dimension) : Bool :=
  d.values.isEmpty

def hasFilters (d : Dimension) : Bool :=
  d.filters.isSome

def filter? (d : Dimension) (index : Nat) : Option String :=
  match d.filters with
  | some slots => (slots[index]?).join
  | none => none

end Dimension

end ParamGrid
