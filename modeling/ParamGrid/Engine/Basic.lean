import ParamGrid.Combination
import ParamGrid.Dimension
import ParamGrid.Filter.Eval
import ParamGrid.Filter.Source
import ParamGrid.Odometer

set_option autoImplicit false

namespace ParamGrid

structure Hook (σ : Type) where
  state : σ
  review : σ → Combination → Bool → Bool × σ

inductive Status where
  | pending
  | positioned
  | exhausted
  deriving DecidableEq, Repr

structure Engine (σ : Type) where
  dimensions : List Dimension
  filters : List (List (Option Filter))
  cursor : List Nat
  beforeStart : Bool
  status : Status
  committed : Bool
  hook : Option (Hook σ)

namespace Engine

variable {σ : Type}

def sizes (e : Engine σ) : List Nat :=
  e.dimensions.map Dimension.length

def repeated? (seen : List String) : List String → Option String
  | [] => none
  | name :: rest => if name ∈ seen then some name else repeated? (name :: seen) rest

def slotName (d : Dimension) (index : Nat) : String :=
  d.name ++ "[" ++ toString index ++ "]"

def compileSlot (names : List String) (d : Dimension) (index : Nat) :
    Except Error (Option Filter) :=
  Filter.compile names (slotName d index) ((d.filter? index).getD "")

def compileSlots (names : List String) (d : Dimension) : Except Error (List (Option Filter)) :=
  (List.range d.length).mapM (compileSlot names d)

/-- Filters may name any dimension, also a later one, so all names are known before the first filter
is compiled. -/
def new (dimensions : List Dimension) : Except Error (Engine σ) :=
  let names := dimensions.map Dimension.name
  match repeated? [] names with
  | some name => .error (.shape (.repeated name))
  | none =>
    match dimensions.mapM (compileSlots names) with
    | .error e => .error e
    | .ok filters =>
      .ok
        { dimensions := dimensions
          filters := filters
          cursor := Odometer.zeros (dimensions.map Dimension.length)
          beforeStart := true
          status := .pending
          committed := false
          hook := none }

def filterCount (e : Engine σ) : Nat :=
  (e.filters.flatten.filter Option.isSome).length

def isEmpty (e : Engine σ) : Bool :=
  e.dimensions.isEmpty

def isExhausted (e : Engine σ) : Bool :=
  e.status = .exhausted

def setHook (e : Engine σ) (hook : Hook σ) : Engine σ :=
  { e with hook := some hook }

def clearHook (e : Engine σ) : Engine σ :=
  { e with hook := none }

def choose : List Dimension → List Nat → Except IndexFault (List (String × Value))
  | d :: dimensions, index :: cursor =>
    match lookup d.values index with
    | .error fault => .error fault
    | .ok value =>
      match choose dimensions cursor with
      | .error fault => .error fault
      | .ok entries => .ok ((d.name, value) :: entries)
  | _, _ => .ok []

def combinationAt (e : Engine σ) (cursor : List Nat) : Except IndexFault Combination :=
  match choose e.dimensions cursor with
  | .error fault => .error fault
  | .ok entries => .ok ⟨entries⟩

def snapshot (e : Engine σ) : Except IndexFault Combination :=
  e.combinationAt e.cursor

def populate (e : Engine σ) (table : Table Value) : Except IndexFault (Table Value) :=
  match e.snapshot with
  | .error fault => .error fault
  | .ok c => .ok (c.applyTo table)

def describe (e : Engine σ) : Except IndexFault String :=
  if e.committed then
    match e.snapshot with
    | .error fault => .error fault
    | .ok c => .ok c.display
  else .ok "[none]"

end Engine

end ParamGrid
