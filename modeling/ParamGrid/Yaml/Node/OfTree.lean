import ParamGrid.Yaml.Node
import ParamGrid.Yaml.Tree

set_option autoImplicit false

namespace ParamGrid.Yaml

abbrev Bindings := List (String × Nat)

def Bindings.bind (b : Bindings) (name : String) : Bindings :=
  if (b.lookup name).isSome then b.map fun (n, i) => if n = name then (n, b.length) else (n, i)
  else (name, b.length) :: b

def bindAnchor (b : Bindings) (p : Properties String) : Properties Nat × Bindings :=
  match p.anchor with
  | none => (⟨none, p.tag⟩, b)
  | some name => (⟨some b.length, p.tag⟩, b.bind name)

mutual

def numberNames? (b : Bindings) : Tree String → Option (Tree Nat × Bindings)
  | .reference name => (b.lookup name).map fun i => (.reference i, b)
  | .scalar p text plain =>
    let (p, b) := bindAnchor b p
    some (.scalar p text plain, b)
  | .sequence p items => do
    let (p, b) := bindAnchor b p
    let (items, b) ← numberItems? b items
    some (.sequence p items, b)
  | .mapping p pairs => do
    let (p, b) := bindAnchor b p
    let (pairs, b) ← numberPairs? b pairs
    some (.mapping p pairs, b)

def numberItems? (b : Bindings) : List (Tree String) → Option (List (Tree Nat) × Bindings)
  | [] => some ([], b)
  | item :: rest => do
    let (item, b) ← numberNames? b item
    let (rest, b) ← numberItems? b rest
    some (item :: rest, b)

def numberPairs? (b : Bindings) :
    List (Tree String × Tree String) → Option (List (Tree Nat × Tree Nat) × Bindings)
  | [] => some ([], b)
  | (key, value) :: rest => do
    let (key, b) ← numberNames? b key
    let (value, b) ← numberNames? b value
    let (rest, b) ← numberPairs? b rest
    some ((key, value) :: rest, b)

end

def bearer (p : Properties Nat) (t : Tree Nat) : List (Nat × Tree Nat) :=
  match p.anchor with
  | some i => [(i, t)]
  | none => []

mutual

def bearers : Tree Nat → List (Nat × Tree Nat)
  | .reference _ => []
  | .scalar p text plain => bearer p (.scalar p text plain)
  | .sequence p items => bearer p (.sequence p items) ++ bearersOfItems items
  | .mapping p pairs => bearer p (.mapping p pairs) ++ bearersOfPairs pairs

def bearersOfItems : List (Tree Nat) → List (Nat × Tree Nat)
  | [] => []
  | item :: rest => bearers item ++ bearersOfItems rest

def bearersOfPairs : List (Tree Nat × Tree Nat) → List (Nat × Tree Nat)
  | [] => []
  | (key, value) :: rest => bearers key ++ bearers value ++ bearersOfPairs rest

end

def follow (table : List (Nat × Tree Nat)) (t : Tree Nat) : StateT Nat Option (Tree Nat) :=
  match t with
  | .reference i => fun jumps =>
    if jumps = 0 then none else (table.lookup i).map fun found => (found, jumps - 1)
  | other => pure other

-- Replaces aliases in a tree no deeper than `depth`. An alias inside the node that it stands for
-- has no end, so the bounds on depth and jumps refuse it.
def expand (table : List (Nat × Tree Nat)) : Nat → Tree Nat → StateT Nat Option Node
  | 0, _ => fun _ => none
  | depth + 1, t => do
    match ← follow table t with
    | .scalar p text plain => pure (.scalar ⟨text, plain, p.tag⟩)
    | .sequence p items =>
      let items ← items.mapM (expand table depth)
      pure (.sequence p.tag items)
    | .mapping p pairs =>
      let pairs ← pairs.mapM fun (key, value) => do
        let key ← expand table depth key
        let value ← expand table depth value
        pure (key, value)
      pure (.mapping p.tag pairs)
    | .reference _ => fun _ => none

def maxDepth : Nat := 128

def nodeOfTree? (t : Tree String) : Option Node := do
  let (numbered, _) ← numberNames? [] t
  let table := (bearers numbered).reverse
  let (node, _) ← (expand table (maxDepth + 1) numbered).run (100 * t.weight)
  some node

end ParamGrid.Yaml
