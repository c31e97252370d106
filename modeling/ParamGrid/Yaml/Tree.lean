import ParamGrid.Yaml.Tag

set_option autoImplicit false

namespace ParamGrid.Yaml

structure Properties (α : Type) where
  anchor : Option α
  tag : Option Tag

def Properties.none {α : Type} : Properties α := ⟨.none, .none⟩

inductive Tree (α : Type) where
  | reference (name : α)
  | scalar (properties : Properties α) (text : String) (plain : Bool)
  | sequence (properties : Properties α) (items : List (Tree α))
  | mapping (properties : Properties α) (pairs : List (Tree α × Tree α))

namespace Tree

variable {α : Type}

def blank (properties : Properties α) : Tree α :=
  .scalar properties "" true

def pair (key value : Tree α) : Tree α :=
  .mapping .none [(key, value)]

mutual

def weight : Tree α → Nat
  | reference _ => 1
  | scalar .. => 1
  | sequence _ items => 2 + weightItems items
  | mapping _ pairs => 2 + weightPairs pairs

def weightItems : List (Tree α) → Nat
  | [] => 0
  | item :: rest => item.weight + weightItems rest

def weightPairs : List (Tree α × Tree α) → Nat
  | [] => 0
  | (key, value) :: rest => key.weight + value.weight + weightPairs rest

end

end Tree

end ParamGrid.Yaml
