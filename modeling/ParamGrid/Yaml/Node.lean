import ParamGrid.Yaml.Tag

set_option autoImplicit false

namespace ParamGrid.Yaml

structure Scalar where
  text : String
  plain : Bool
  tag : Option Tag
  deriving DecidableEq

inductive Node where
  | scalar (s : Scalar)
  | sequence (tag : Option Tag) (items : List Node)
  | mapping (tag : Option Tag) (pairs : List (Node × Node))

end ParamGrid.Yaml
