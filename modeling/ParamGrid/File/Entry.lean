import ParamGrid.Value
import ParamGrid.Yaml.Core
import ParamGrid.Yaml.Document

set_option autoImplicit false

namespace ParamGrid

-- Integers beyond the range of values become doubles if 64 bits without a sign hold them, and are
-- refused otherwise.
def Value.ofInt? (n : Int) : Option Value :=
  if Int64.minValue.toInt ≤ n ∧ n ≤ Int64.maxValue.toInt then some (.int (Int64.ofInt n))
  else if 0 ≤ n ∧ n < UInt64.size then some (.float n.toNat.toUInt64.toFloat)
  else none

def Value.ofDatum? : Yaml.Datum → Option Value
  | .null => some .null
  | .bool b => some (.bool b)
  | .int n => Value.ofInt? n
  | .real x => some (.float x)
  | .text s => some (.text s)

def Value.ofNode? : Yaml.Node → Option Value
  | .scalar s => s.datum?.bind Value.ofDatum?
  | _ => none

def Value.readYaml? (text : String) : Option Value :=
  (Yaml.read? text).bind Value.ofNode?

namespace File

structure Entry where
  value : Value
  filter : Option String

inductive EntryPart where
  | value
  | filter
  deriving DecidableEq

def EntryPart.ofNode? : Yaml.Node → Option EntryPart
  | .scalar s =>
    match s.datum? with
    | some (.text key) =>
      if key = "value" ∨ key = "text" then some .value
      else if key = "filter" then some .filter
      else none
    | some (.int n) =>
      if s.text.startsWith "-" then none
      else if n = 0 then some .value
      else if n = 1 then some .filter
      else none
    | _ => none
  | _ => none

def filterOfNode? : Yaml.Node → Option (Option String)
  | .scalar s =>
    match s.datum? with
    | some .null => some none
    | some (.text t) => some (some t)
    | _ => none
  | _ => none

structure EntryParts where
  value : Option Value
  filter : Option (Option String)

def EntryParts.add? (parts : EntryParts) (pair : Yaml.Node × Yaml.Node) : Option EntryParts :=
  match EntryPart.ofNode? pair.1, parts with
  | some .value, ⟨none, filter⟩ => (Value.ofNode? pair.2).map fun v => ⟨some v, filter⟩
  | some .filter, ⟨value, none⟩ => (filterOfNode? pair.2).map fun f => ⟨value, some f⟩
  | _, _ => none

def EntryParts.complete? (parts : EntryParts) : Option Entry :=
  parts.value.map fun v => ⟨v, parts.filter.join⟩

-- Entries are of no type that a file could have made up.
def Entry.refuses (tag : Option Yaml.Tag) : Bool :=
  tag.any fun t => t.scope = .file

def Entry.ofNode? : Yaml.Node → Option Entry
  | .scalar s => (Value.ofNode? (.scalar s)).map fun v => ⟨v, none⟩
  | .sequence tag items =>
    if Entry.refuses tag then none
    else
      match items with
      | [value] => (Value.ofNode? value).map fun v => ⟨v, none⟩
      | [value, filter] => do
        let v ← Value.ofNode? value
        let f ← filterOfNode? filter
        some ⟨v, f⟩
      | _ => none
  | .mapping tag pairs =>
    if Entry.refuses tag then none
    else (pairs.foldlM EntryParts.add? ⟨none, none⟩).bind EntryParts.complete?

end File

end ParamGrid
