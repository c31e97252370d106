set_option autoImplicit false

namespace ParamGrid

inductive Json where
  | null
  | bool (b : Bool)
  | int (n : Int64)
  | real (x : Float)
  | string (s : String)
  | list (items : List Json)
  | object (members : List (String × Json))

end ParamGrid
