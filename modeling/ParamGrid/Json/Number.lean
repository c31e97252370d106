import ParamGrid.Decimal.Nearest
import ParamGrid.Json

set_option autoImplicit false

namespace ParamGrid.Json

def maxWord : Nat := UInt64.size - 1

def maxExponent : Nat := Nat.pow 2 31 - 1

def digitValue (c : Char) : Nat :=
  c.toNat - '0'.toNat

def gather (limit : Nat) (word : Nat) : List Char → Nat × List Char
  | c :: rest =>
    if c.isDigit ∧ 10 * word + digitValue c ≤ limit then
      gather limit (10 * word + digitValue c) rest
    else (word, c :: rest)
  | [] => (word, [])

def powerOfTen (n : Nat) : Float :=
  Decimal.nearest 1 n

def scaleDown (last : Nat) : Nat → Float → Float
  | 0, x => x / powerOfTen last
  | n + 1, x => if x == 0 then x else scaleDown last n (x / powerOfTen 308)

def scale? (word : Nat) (exponent : Int) : Option Float :=
  let x := word.toUInt64.toFloat
  if exponent < 0 then
    let steps := (exponent.natAbs - 1) / 308
    some (scaleDown (exponent.natAbs - 308 * steps) steps x)
  else if exponent ≤ 308 then
    let scaled := x * powerOfTen exponent.toNat
    if scaled.isInf then none else some scaled
  else if x == 0 then some x
  else none

def signed (negative : Bool) (x : Float) : Float :=
  if negative then -x else x

def startsWithDigit : List Char → Bool
  | c :: _ => c.isDigit
  | [] => false

def readScaled? (negative : Bool) (word : Nat) (exponent : Int) (text : List Char) :
    Option (Float × List Char) :=
  let (shrinks, digits) := match text with
    | '+' :: rest => (false, rest)
    | '-' :: rest => (true, rest)
    | rest => (false, rest)
  if startsWithDigit digits then
    let (power, rest) := gather maxExponent 0 digits
    if startsWithDigit rest then
      if word = 0 ∨ shrinks then some (signed negative 0, rest.dropWhile Char.isDigit) else none
    else
      (scale? word (if shrinks then exponent - power else exponent + power)).map fun x =>
        (signed negative x, rest)
  else none

def readPower? (negative : Bool) (word : Nat) (exponent : Int) (text : List Char) :
    Option (Float × List Char) :=
  match text with
  | 'e' :: rest | 'E' :: rest => readScaled? negative word exponent rest
  | rest => (scale? word exponent).map fun x => (signed negative x, rest)

def readFraction? (negative : Bool) (word : Nat) (exponent : Nat) (text : List Char) :
    Option (Float × List Char) :=
  if startsWithDigit text then
    let (gathered, rest) := gather maxWord word text
    let taken := text.length - rest.length
    readPower? negative gathered ((exponent : Int) - taken) (rest.dropWhile Char.isDigit)
  else none

-- Whole numbers keep their type within 64 bits; a zero with a minus sign is the double `-0`.
def wholeNumber (negative : Bool) (word : Nat) : Json :=
  if negative then
    if 0 < word ∧ word ≤ Nat.pow 2 63 then .int (Int64.ofInt (-word))
    else .real (-word.toUInt64.toFloat)
  else if word < Nat.pow 2 63 then .int (Int64.ofNat word)
  else .real word.toUInt64.toFloat

def readUnsigned? (negative : Bool) (text : List Char) : Option (Json × List Char) :=
  if !startsWithDigit text then none
  else
    let (word, tail) := gather maxWord 0 text
    let dropped := tail.takeWhile Char.isDigit
    let rest := tail.dropWhile Char.isDigit
    if text.head? = some '0' ∧ startsWithDigit (text.drop 1) then none
    else
      match rest with
      | '.' :: after =>
        (readFraction? negative word dropped.length after).map fun (x, r) => (.real x, r)
      | 'e' :: after | 'E' :: after =>
        (readScaled? negative word dropped.length after).map fun (x, r) => (.real x, r)
      | _ =>
        if dropped = [] then some (wholeNumber negative word, rest)
        else (scale? word dropped.length).map fun x => (.real (signed negative x), rest)

def readNumber? : List Char → Option (Json × List Char)
  | '-' :: rest => readUnsigned? true rest
  | text => readUnsigned? false text

end ParamGrid.Json
