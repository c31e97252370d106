import ParamGrid.Decimal.Nearest

set_option autoImplicit false

namespace ParamGrid.Decimal

structure Numeral where
  negative : Bool
  whole : List Char
  fraction : List Char
  power : Int

def digitsValue (digits : List Char) : Nat :=
  Nat.ofDigitChars 10 digits 0

def splitSign : List Char → Bool × List Char
  | '-' :: rest => (true, rest)
  | '+' :: rest => (false, rest)
  | rest => (false, rest)

def readPower? : List Char → Option Int
  | [] => some 0
  | mark :: rest =>
    if mark = 'e' ∨ mark = 'E' then
      let (negative, digits) := splitSign rest
      if digits ≠ [] ∧ digits.all Char.isDigit then
        some (if negative then -(digitsValue digits : Int) else digitsValue digits)
      else none
    else none

def Numeral.read? (text : List Char) : Option Numeral :=
  let (negative, body) := splitSign text
  let whole := body.takeWhile Char.isDigit
  let (fraction, rest) := match body.dropWhile Char.isDigit with
    | '.' :: after => (after.takeWhile Char.isDigit, after.dropWhile Char.isDigit)
    | after => ([], after)
  if whole = [] ∧ fraction = [] then none
  else (readPower? rest).map fun power => ⟨negative, whole, fraction, power⟩

def Numeral.toFloat (n : Numeral) : Float :=
  let magnitude := nearest (digitsValue (n.whole ++ n.fraction)) (n.power - n.fraction.length)
  if n.negative then -magnitude else magnitude

end ParamGrid.Decimal
