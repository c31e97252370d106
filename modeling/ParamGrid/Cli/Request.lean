set_option autoImplicit false

namespace ParamGrid.Cli

inductive Format where
  | text
  | json
  deriving DecidableEq, Repr

inductive Command where
  | list (file : String) (test : Option String) (format : Format)
  | count (file : String) (test : Option String)
  | check (path : String)
  deriving DecidableEq, Repr

inductive Request where
  | version
  | run (verbosity : Nat) (command : Command)
  deriving DecidableEq, Repr

inductive Choice where
  | verbose
  | test
  | format
  deriving DecidableEq, Repr

inductive CommandName where
  | list
  | count
  | check
  deriving DecidableEq, Repr

def CommandName.ofText? : String → Option CommandName
  | "list" => some .list
  | "count" => some .count
  | "check" => some .check
  | _ => none

def CommandName.choices : CommandName → List Choice
  | list => [.verbose, .test, .format]
  | count => [.verbose, .test]
  | check => [.verbose]

def Choice.letter : Choice → Char
  | verbose => 'v'
  | test => 't'
  | format => 'f'

def Choice.word : Choice → List Char
  | verbose => "verbose".toList
  | test => "test".toList
  | format => "format".toList

structure Given where
  verbosity : Nat
  test : Option String
  format : Option String
  operands : List String

def Given.set? (g : Given) (choice : Choice) (value : String) : Option Given :=
  match choice, g.test, g.format with
  | .test, none, _ => some { g with test := some value }
  | .format, _, none => some { g with format := some value }
  | _, _, _ => none

inductive Open where
  | nothing
  | valueOf (choice : Choice)

def readLetters? (choices : List Choice) (g : Given) : List Char → Option (Given × Open)
  | [] => some (g, .nothing)
  | c :: rest =>
    match choices.find? fun choice => choice.letter = c with
    | none => none
    | some .verbose => readLetters? choices { g with verbosity := g.verbosity + 1 } rest
    | some choice =>
      match rest with
      | [] => some (g, .valueOf choice)
      | '=' :: value => (g.set? choice (String.ofList value)).map (·, .nothing)
      | value => (g.set? choice (String.ofList value)).map (·, .nothing)

def readWord? (choices : List Choice) (g : Given) (text : List Char) : Option (Given × Open) :=
  let word := text.takeWhile (· ≠ '=')
  let value := (text.dropWhile (· ≠ '=')).drop 1
  match choices.find? fun choice => choice.word = word, decide (word = text) with
  | some .verbose, true => some ({ g with verbosity := g.verbosity + 1 }, .nothing)
  | some .verbose, false => none
  | some choice, true => some (g, .valueOf choice)
  | some choice, false => (g.set? choice (String.ofList value)).map (·, .nothing)
  | none, _ => none

def looksLikeOption (arg : String) : Bool :=
  arg.startsWith "-" && arg ≠ "-"

def readArgument? (choices : List Choice) (g : Given) (arg : String) : Option (Given × Open) :=
  match arg.toList with
  | '-' :: '-' :: text => readWord? choices g text
  | '-' :: c :: text => readLetters? choices g (c :: text)
  | _ => some ({ g with operands := arg :: g.operands }, .nothing)

def readArguments? (choices : List Choice) (g : Given) (pending : Open) :
    List String → Option Given
  | [] =>
    match pending with
    | .nothing => some g
    | .valueOf _ => none
  | arg :: rest =>
    match pending with
    | .valueOf choice =>
      if looksLikeOption arg then none
      else (g.set? choice arg).bind fun g => readArguments? choices g .nothing rest
    | .nothing =>
      if arg = "--" then some { g with operands := rest.reverse ++ g.operands }
      else (readArgument? choices g arg).bind fun (g, pending) =>
        readArguments? choices g pending rest

def format? : Option String → Option Format
  | none | some "text" => some .text
  | some "json" => some .json
  | _ => none

def operand? (g : Given) (default? : Option String) : Option String :=
  match g.operands with
  | [] => default?
  | [path] => if path = "" then none else some path
  | _ => none

def command? (name : CommandName) (g : Given) : Option Command := do
  match name with
  | .list => some (.list (← operand? g none) g.test (← format? g.format))
  | .count => some (.count (← operand? g none) g.test)
  | .check => some (.check (← operand? g (some ".")))

-- Reads a command with its arguments; how often it asks for more in the log counts in place of what
-- was asked for before it.
def readCommand? (verbosity : Nat) (name : CommandName) (args : List String) : Option Request := do
  let given ← readArguments? name.choices ⟨0, none, none, []⟩ .nothing args
  let command ← command? name given
  some (.run (if given.verbosity = 0 then verbosity else given.verbosity) command)

inductive Lead where
  | version
  | verbose (times : Nat)

def readLeadLetters? (times : Nat) : List Char → Option Lead
  | [] => some (.verbose times)
  | 'v' :: rest => readLeadLetters? (times + 1) rest
  | 'V' :: _ => some .version
  | _ => none

def readLead? (arg : String) : Option Lead :=
  match arg with
  | "--verbose" => some (.verbose 1)
  | "--version" => some .version
  | _ =>
    match arg.toList with
    | '-' :: c :: text => readLeadLetters? 0 (c :: text)
    | _ => none

def Request.read? (verbosity : Nat) : List String → Option Request
  | [] => none
  | arg :: rest =>
    match CommandName.ofText? arg with
    | some name => readCommand? verbosity name rest
    | none =>
      match readLead? arg with
      | some .version => some .version
      | some (.verbose times) => Request.read? (verbosity + times) rest
      | none => none

end ParamGrid.Cli
