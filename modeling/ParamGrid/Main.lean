import ParamGrid.Cli.Run

set_option autoImplicit false

namespace ParamGrid.Main

open Cli

def readFault : IO.Error → ReadFault
  | .inappropriateType .. => .isDirectory
  | .invalidArgument .. => .notDirectory
  | _ => .notFound

partial def readTree (path : String) : IO FileTree := do
  let place ← IO.FS.realPath path
  if ← place.isDir then
    let names := (← place.readDir).toList.map IO.FS.DirEntry.fileName
    let entries ← names.mapM fun name => do
      pure (name, ← readTree (FileTree.join path name))
    pure (.directory entries)
  else
    pure (.file (← IO.FS.readBinFile path))

def Command.path : Command → String
  | .list file _ _ => file
  | .count file _ => file
  | .check path => path

def lookFor (args : List String) : IO Look := do
  match Request.read? 0 args with
  | some (.run _ command) =>
    let wanted := Command.path command
    let found ← (Except.ok <$> readTree wanted).catchExceptions fun e =>
      pure (.error (readFault e))
    pure fun path => if path = wanted then found else .error .notFound
  | _ => pure fun _ => .error .notFound

def printLines (lines : List String) : IO Unit :=
  lines.forM fun line => IO.eprintln line

end ParamGrid.Main

open ParamGrid Cli Main in
def main (args : List String) : IO UInt32 := do
  let look ← lookFor args
  match run? look (← IO.getEnv "RUST_LOG") args with
  | some outcome =>
    IO.print outcome.stdout
    printLines (outcome.notices.flatMap Notice.lines)
    pure outcome.exit.toUInt32
  | none =>
    printLines usageLines
    pure 2
