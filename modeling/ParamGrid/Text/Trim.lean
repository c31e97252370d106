import ParamGrid.Text.CodePoints

set_option autoImplicit false

namespace ParamGrid.Text

def whiteSpace : CodePoints :=
  [(0x09, 0x0d), (0x20, 0x20), (0x85, 0x85), (0xa0, 0xa0), (0x1680, 0x1680), (0x2000, 0x200a),
   (0x2028, 0x2029), (0x202f, 0x202f), (0x205f, 0x205f), (0x3000, 0x3000)]

def trim (text : List Char) : List Char :=
  ((text.dropWhile whiteSpace.has).reverse.dropWhile whiteSpace.has).reverse

end ParamGrid.Text
