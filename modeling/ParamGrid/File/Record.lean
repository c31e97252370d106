import ParamGrid.File.Entry
import ParamGrid.Table

set_option autoImplicit false

namespace ParamGrid.File

structure DimensionRecord where
  name : String
  entries : List Entry

abbrev Block := List DimensionRecord

end ParamGrid.File

namespace ParamGrid

structure File where
  top : Option File.Block
  tests : Table File.Block

namespace File

open Yaml (Node)

def text? : Node → Option String
  | .scalar s => some s.text
  | _ => none

def isBlank (s : Yaml.Scalar) : Bool :=
  s.plain && s.text = ""

def items? : Node → Option (List Node)
  | .sequence _ items => some items
  | .scalar s => if isBlank s then some [] else none
  | .mapping .. => none

def pairs? : Node → Option (List (Node × Node))
  | .mapping _ pairs => some pairs
  | .scalar s => if isBlank s then some [] else none
  | .sequence .. => none

def fields? (known : List String) : List (Node × Node) → Option (List (String × Node))
  | [] => some []
  | (key, value) :: rest => do
    let name ← text? key
    if name ∈ known then
      let fields ← fields? (known.erase name) rest
      some ((name, value) :: fields)
    else none

def record? (known : List String) (node : Node) : Option (List (String × Node)) :=
  (pairs? node).bind (fields? known)

def DimensionRecord.ofNode? (node : Node) : Option DimensionRecord := do
  let fields ← record? ["name", "values"] node
  let name ← (← fields.lookup "name") |> text?
  let entries ← (← items? (← fields.lookup "values")).mapM Entry.ofNode?
  some ⟨name, entries⟩

def blockOfNode? (node : Node) : Option Block := do
  (← items? node).mapM DimensionRecord.ofNode?

def testOfNode? (node : Node) : Option Block := do
  let fields ← record? ["combinations"] node
  blockOfNode? (← fields.lookup "combinations")

def testOfPair? (pair : Node × Node) : Option (String × Block) := do
  let name ← text? pair.1
  let block ← testOfNode? pair.2
  some (name, block)

-- The block at the top counts as absent when a null stands in its place. A tag that calls for a
-- null must have one.
def topOfNode? (node : Node) : Option (Option Block) :=
  match node with
  | .scalar s =>
    if !s.plain then none
    else if s.tag = some (Yaml.Tag.core "null") then if Yaml.isNull s.text then some none else none
    else if s.tag.isNone ∧ (s.text = "" ∨ Yaml.isNull s.text) then some none
    else (blockOfNode? node).map some
  | _ => (blockOfNode? node).map some

def ofNode? (node : Node) : Option File := do
  let fields ← record? ["combinations", "tests"] node
  let top ← match fields.lookup "combinations" with
    | none => some none
    | some node => topOfNode? node
  let tests ← match fields.lookup "tests" with
    | none => some []
    | some node => (← pairs? node).mapM testOfPair?
  some ⟨top, Table.ofList tests⟩

end File

end ParamGrid
