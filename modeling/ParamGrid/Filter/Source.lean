import ParamGrid.Error
import ParamGrid.Filter.Compile

set_option autoImplicit false

namespace ParamGrid.Filter

def compile (names : List String) (origin source : String) : Except Error (Option Filter) :=
  match compileChars names source.toList with
  | .ok filter => .ok filter
  | .error fault => .error (.filter origin source fault)

end ParamGrid.Filter
