set_option autoImplicit false

namespace ParamGrid.Text

abbrev CodePoints := List (Nat × Nat)

def CodePoints.has (points : CodePoints) (c : Char) : Bool :=
  points.any fun range => range.1 ≤ c.toNat && c.toNat ≤ range.2

end ParamGrid.Text
