import ParamGrid.Cli.Check
import ParamGrid.Cli.Request
import ParamGrid.Engine.Advance

set_option autoImplicit false

namespace ParamGrid.Cli

open Log (Logged)

abbrev Look := String → Except ReadFault FileTree

def versionLine : String := "combinatoria 0.1.0\n"

def loadFile (look : Look) (path : String) (test : Option String) : Logged (Engine Unit) :=
  match (look path).bind FileTree.readText with
  | .error cause => ⟨[], .error (.load (.unreadable path cause))⟩
  | .ok source => do
    .event (.loading path)
    File.loadEngine source test

def trialEvents (trials : List Engine.Trial) : List Log.Event :=
  (trials.filter fun t => !t.accepted).map fun t => .rejected t.cursor

def runEvents (e : Engine Unit) (run : Engine.Run Unit) : List Log.Event :=
  trialEvents run.trials ++ if e.isEmpty then [] else [.exhausted]

def numberedBlock (number : Nat) (c : Combination) : String :=
  "--- Combination " ++ toString number ++ " ---\n" ++ c.display

def numberedBlocks (first : Nat) : List Combination → String
  | [] => ""
  | c :: rest => numberedBlock first c ++ numberedBlocks (first + 1) rest

def listText (format : Format) (cs : List Combination) : String :=
  match format with
  | .text => numberedBlocks 1 cs
  | .json => (Json.list (cs.map Combination.toJson)).pretty ++ "\n"

def countText (cs : List Combination) : String :=
  toString cs.length ++ "\n"

def enumerate (look : Look) (path : String) (test : Option String)
    (print : List Combination → String) : Outcome :=
  let loaded := loadFile look path test
  let log := loaded.events.map Notice.log
  match loaded.result with
  | .error e => ⟨1, "", log ++ [.report e]⟩
  | .ok engine =>
    match engine.run with
    | .error fault => ⟨101, "", log ++ [.fault fault]⟩
    | .ok run => ⟨0, print run.combinations, log ++ (runEvents engine run).map .log⟩

def check (look : Look) (path : String) : Outcome :=
  match look path with
  | .error cause => ⟨1, "", [.report (.load (.unlistable cause))]⟩
  | .ok tree => checkFiles (foundAt path tree)

def perform (look : Look) : Command → Outcome
  | .list file test format => enumerate look file test (listText format)
  | .count file test => enumerate look file test countText
  | .check path => check look path

def usageLines : List String :=
  ["usage: combinatoria [-v...] list FILE [-t TEST] [-f text|json]",
    "       combinatoria [-v...] count FILE [-t TEST]",
    "       combinatoria [-v...] check [PATH]"]

def run? (look : Look) (directives : Option String) (args : List String) : Option Outcome :=
  (Request.read? 0 args).map fun request =>
    match request with
    | .version => ⟨0, versionLine, []⟩
    | .run verbosity command =>
      let outcome := perform look command
      let shown := Notice.isShown (Log.Directive.choose directives verbosity)
      { outcome with notices := outcome.notices.filter shown }

end ParamGrid.Cli
