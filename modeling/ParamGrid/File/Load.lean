import ParamGrid.Engine.Basic
import ParamGrid.File.Block
import ParamGrid.Log.Event

set_option autoImplicit false

namespace ParamGrid.File

open Log (Logged)

def Choice.events : Choice → List Log.Event
  | .top => []
  | .test name => [.usingTest name]
  | .firstTest name => [.usingFirstTest name]

def orLoadError {α : Type} : Except LoadFault α → Except Error α
  | .ok a => .ok a
  | .error fault => .error (.load fault)

def orShapeError {α : Type} : Except ShapeFault α → Except Error α
  | .ok a => .ok a
  | .error fault => .error (.shape fault)

def chooseLogged (file : File) (test : Option String) : Logged Block :=
  match file.choose test with
  | .ok (choice, block) => ⟨choice.events, .ok block⟩
  | .error fault => ⟨[], .error (.load fault)⟩

def loadDimensions (source : String) (test : Option String) : Logged (List Dimension) := do
  let file ← .ofResult (orLoadError (read? source))
  let block ← chooseLogged file test
  .ofResult (orShapeError (dimensions block))

def buildEngine {σ : Type} (dimensions : List Dimension) : Logged (Engine σ) :=
  match Engine.new dimensions with
  | .ok engine => ⟨[.compiled engine.dimensions.length engine.filterCount], .ok engine⟩
  | .error e => ⟨[], .error e⟩

def loadEngine {σ : Type} (source : String) (test : Option String) : Logged (Engine σ) := do
  let dimensions ← loadDimensions source test
  buildEngine dimensions

def blockNamesOf (source : String) : Except Error (List (Option String)) :=
  (orLoadError (read? source)).map blockNames

end ParamGrid.File
