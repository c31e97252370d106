import ParamGrid.Engine.Dump

set_option autoImplicit false

namespace ParamGrid.Log

inductive Level where
  | error
  | warn
  | info
  | debug
  | trace
  deriving DecidableEq, Repr

def Level.rank : Level → Nat
  | error => 1
  | warn => 2
  | info => 3
  | debug => 4
  | trace => 5

inductive Event where
  | loading (path : String)
  | usingTest (test : String)
  | usingFirstTest (test : String)
  | compiled (dimensions filters : Nat)
  | rejected (cursor : List Nat)
  | exhausted
  | checkingBlock (path : String) (block : Option String)
  deriving DecidableEq, Repr

namespace Event

def level : Event → Level
  | rejected _ => .trace
  | _ => .debug

def target : Event → String
  | loading _ | usingTest _ | usingFirstTest _ => "combinatoria::loader"
  | compiled .. | rejected _ | exhausted => "combinatoria::engine"
  | checkingBlock .. => "combinatoria::cli"

def message : Event → String
  | loading _ => "loading combination file"
  | usingTest _ => "using test-scoped combinations"
  | usingFirstTest _ => "no top-level combinations, using first test block"
  | compiled .. => "combinatorial engine compiled"
  | rejected _ => "candidate rejected"
  | exhausted => "combinations exhausted"
  | checkingBlock .. => "checking block"

def fields : Event → List (String × String)
  | loading path => [("path", path)]
  | usingTest test => [("test", Text.quote test)]
  | usingFirstTest test => [("test", test)]
  | compiled dimensions filters =>
    [("dimensions", toString dimensions), ("filters", toString filters)]
  | rejected cursor => [("cursor", dumpCursor cursor)]
  | exhausted => []
  | checkingBlock path block => [("path", path), ("block", dumpOption Text.quote block)]

def hasField (e : Event) (name : List Char) : Bool :=
  ("message" :: e.fields.map Prod.fst).any fun n => n.toList = name

end Event

def Level.text : Level → String
  | error => "ERROR"
  | warn => "WARN"
  | info => "INFO"
  | debug => "DEBUG"
  | trace => "TRACE"

def Event.line (e : Event) : String :=
  e.level.text ++ " " ++ e.message ++
    String.join (e.fields.map fun (name, value) => " " ++ name ++ "=" ++ value)

structure Logged (α : Type) where
  events : List Event
  result : Except Error α

namespace Logged

variable {α β : Type}

def ofResult (r : Except Error α) : Logged α := ⟨[], r⟩

def ok (a : α) : Logged α := ⟨[], .ok a⟩

def event (e : Event) : Logged Unit := ⟨[e], .ok ()⟩

def andThen (x : Logged α) (f : α → Logged β) : Logged β :=
  match x.result with
  | .error e => ⟨x.events, .error e⟩
  | .ok a => ⟨x.events ++ (f a).events, (f a).result⟩

instance : Monad Logged where
  pure := ok
  bind := andThen

end Logged

end ParamGrid.Log
