import ParamGrid.Cli.Notice
import ParamGrid.File.Load

set_option autoImplicit false

namespace ParamGrid.Cli

open Log (Logged)

def checkBlock (path source : String) (block : Option String) : Logged Unit := do
  .event (.checkingBlock path block)
  let _engine : Engine Unit ← File.loadEngine source block
  pure ()

def checkBlocks (path source : String) : List (Option String) → Logged Unit
  | [] => pure ()
  | block :: rest => do
    checkBlock path source block
    checkBlocks path source rest

def checkSource (path source : String) : Logged Unit := do
  let names ← .ofResult (File.blockNamesOf source)
  checkBlocks path source names

structure Found where
  path : String
  file : FileTree

def checkFile (f : Found) : Logged Unit :=
  match f.file.readText with
  | .error cause => ⟨[], .error (.load (.unreadable f.path cause))⟩
  | .ok source => checkSource f.path source

def isCombinationFile (names : List String) : Bool :=
  match names.getLast? with
  | none => false
  | some name =>
    FileTree.extension? name = some "yaml" || FileTree.extension? name = some "yml"

def pathLe : (a b : List String) → Bool
  | [], _ => true
  | _ :: _, [] => false
  | a :: as, b :: bs => if a < b then true else if b < a then false else pathLe as bs

def foundAt (path : String) : FileTree → List Found
  | .file content => [⟨path, .file content⟩]
  | .directory entries =>
    let below := (FileTree.directory entries).files.filter fun f => isCombinationFile f.1
    (below.mergeSort fun a b => pathLe a.1 b.1).map fun (names, content) =>
      ⟨names.foldl FileTree.join path, .file content⟩

def fileNotices (path : String) (checked : Logged Unit) : List Notice :=
  checked.events.map .log ++
    match checked.result with
    | .ok () => []
    | .error e => [.heading path, .report e]

def isFailure (checked : Logged Unit) : Bool :=
  match checked.result with
  | .ok () => false
  | .error _ => true

def checkFiles (found : List Found) : Outcome :=
  let checked := found.map fun f => (f.path, checkFile f)
  let failed := (checked.filter fun (_, c) => isFailure c).length
  { exit := if failed = 0 then 0 else 1
    stdout := ""
    notices := checked.flatMap (fun (path, c) => fileNotices path c) ++
      [.summary found.length failed] }

end ParamGrid.Cli
