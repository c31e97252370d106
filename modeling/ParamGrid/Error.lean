import ParamGrid.Dimension
import ParamGrid.Filter.Fault

set_option autoImplicit false

namespace ParamGrid

inductive ReadFault where
  | notFound
  | isDirectory
  | notDirectory
  | notText
  deriving DecidableEq, Repr

def ReadFault.message : ReadFault → String
  | notFound => "No such file or directory (os error 2)"
  | isDirectory => "Is a directory (os error 21)"
  | notDirectory => "Not a directory (os error 20)"
  | notText => "stream did not contain valid UTF-8"

inductive LoadFault where
  | unreadable (path : String) (cause : ReadFault)
  | unlistable (cause : ReadFault)
  | undecodable
  | unknownTest (test : String) (declared : List String)
  | noBlocks
  deriving DecidableEq, Repr

def LoadFault.message : LoadFault → String
  | unreadable path _ => "failed to read '" ++ path ++ "'"
  | unlistable _ => "failed to walk directory"
  | undecodable => "invalid combination file"
  | unknownTest test _ => "no combinations declared for test '" ++ test ++ "'"
  | noBlocks => "file declares no combinations"

def LoadFault.help? : LoadFault → Option String
  | unknownTest _ declared =>
    let names := ", ".intercalate declared
    if names = "" then none else some ("declared tests: " ++ names)
  | noBlocks => some "add a top-level `combinations` list"
  | _ => none

def LoadFault.cause? : LoadFault → Option String
  | unreadable _ cause | unlistable cause => some cause.message
  | undecodable => some "yaml"
  | _ => none

inductive Error where
  | filter (origin source : String) (fault : Filter.Fault)
  | shape (fault : ShapeFault)
  | load (fault : LoadFault)
  deriving DecidableEq, Repr

inductive ErrorKind where
  | malformed
  | unknownDimension
  | shape
  | load
  deriving DecidableEq, Repr

def ErrorKind.text : ErrorKind → String
  | malformed => "Syntax"
  | unknownDimension => "UnknownDimension"
  | shape => "Shape"
  | load => "Load"

def ErrorKind.title : ErrorKind → String
  | malformed => "Syntax error: "
  | unknownDimension => "Unknown dimension: "
  | shape => "Shape error: "
  | load => "Load error: "

def ErrorKind.code : ErrorKind → String
  | malformed => "combinatoria::syntax"
  | unknownDimension => "combinatoria::unknown_dimension"
  | shape => "combinatoria::shape"
  | load => "combinatoria::load"

structure Label where
  offset : Nat
  length : Nat
  text : String
  deriving DecidableEq, Repr

namespace Error

def kind : Error → ErrorKind
  | filter _ _ ⟨.unknownDimension _, _⟩ => .unknownDimension
  | filter .. => .malformed
  | shape _ => .shape
  | load _ => .load

def summary : Error → String
  | filter _ _ fault => fault.cause.message
  | shape fault => fault.message
  | load fault => fault.message

def message (e : Error) : String :=
  e.kind.title ++ e.summary

def code (e : Error) : String :=
  e.kind.code

def help? : Error → Option String
  | filter _ _ fault => fault.cause.help?
  | shape _ => none
  | load fault => fault.help?

def span? : Error → Option Span
  | filter _ _ fault => some fault.span
  | _ => none

def source? : Error → Option (String × String)
  | filter origin source _ => some (origin, source)
  | _ => none

def labels? (e : Error) : Option (List Label) :=
  e.span?.map fun span => [⟨span.start, span.length, e.summary⟩]

def cause? : Error → Option String
  | load fault => fault.cause?
  | _ => none

end Error

end ParamGrid
