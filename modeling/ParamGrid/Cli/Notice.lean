import ParamGrid.FileTree
import ParamGrid.Log.Directive

set_option autoImplicit false

namespace ParamGrid.Cli

inductive Notice where
  | log (event : Log.Event)
  | heading (path : String)
  | report (error : Error)
  | summary (checked failed : Nat)
  | fault (fault : IndexFault)

def reportLines (e : Error) : List String :=
  let places := (e.labels?.getD []).map fun l =>
    "bytes " ++ toString l.offset ++ " to " ++ toString (l.offset + l.length)
  let source := e.source?.elim [] fun (name, content) => ["in " ++ name ++ ": " ++ content]
  let details := e.message :: (e.cause?.toList ++ source ++ places ++
    e.help?.toList.map ("help: " ++ ·))
  e.code :: "" :: details.flatMap fun detail => (detail.splitOn "\n").map ("  " ++ ·)

def Notice.linesWith (render : Error → List String) : Notice → List String
  | log event => event.line.splitOn "\n"
  | heading path => (path ++ ":").splitOn "\n"
  | report error => render error
  | summary checked failed =>
    [toString checked ++ " files checked, " ++ toString failed ++ " failed"]
  | fault f => [f.message]

def Notice.lines : Notice → List String :=
  linesWith reportLines

def Notice.isShown (directives : List Log.Directive) : Notice → Bool
  | log event => Log.Directive.allow directives event
  | _ => true

structure Outcome where
  exit : Nat
  stdout : String
  notices : List Notice

end ParamGrid.Cli
