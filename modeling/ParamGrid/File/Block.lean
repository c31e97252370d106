import ParamGrid.Error
import ParamGrid.File.Record
import ParamGrid.Yaml.Document

set_option autoImplicit false

namespace ParamGrid.File

def read? (source : String) : Except LoadFault File :=
  match (Yaml.read? source).bind ofNode? with
  | some file => .ok file
  | none => .error .undecodable

def blockNames (file : File) : List (Option String) :=
  (if file.top.isSome then [none] else []) ++ file.tests.names.map some

inductive Choice where
  | top
  | test (name : String)
  | firstTest (name : String)
  deriving DecidableEq, Repr

def choose (file : File) (test : Option String) : Except LoadFault (Choice × Block) :=
  match test with
  | some name =>
    match file.tests.get? name with
    | some block => .ok (.test name, block)
    | none => .error (.unknownTest name file.tests.names)
  | none =>
    match file.top, file.tests.entries with
    | some block, _ => .ok (.top, block)
    | none, (name, block) :: _ => .ok (.firstTest name, block)
    | none, [] => .error .noBlocks

def DimensionRecord.dimension (r : DimensionRecord) : Except ShapeFault Dimension :=
  let values := r.entries.map Entry.value
  let filters := r.entries.map Entry.filter
  Dimension.build r.name values (if filters.any Option.isSome then some filters else none)

def dimensions (block : Block) : Except ShapeFault (List Dimension) :=
  block.mapM DimensionRecord.dimension

end ParamGrid.File
