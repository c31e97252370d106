import ParamGrid.Decimal.Shortest

set_option autoImplicit false

namespace ParamGrid.Decimal

structure Layout where
  positional : Int → Bool
  fraction : Bool
  plus : Bool
  tie : Tie

def Layout.plain : Layout := ⟨fun _ => true, false, false, .up⟩

def Layout.json : Layout := ⟨fun e => -5 ≤ e && e ≤ 15, true, true, .even⟩

def Layout.dump : Layout := ⟨fun e => -4 ≤ e && e ≤ 15, true, false, .up⟩

def zeros (n : Nat) : List Char :=
  List.replicate n '0'

def positionalChars (fraction : Bool) (digits : List Char) (leading : Int) : List Char :=
  if leading < 0 then '0' :: '.' :: (zeros (-leading - 1).toNat ++ digits)
  else
    let whole := leading.toNat + 1
    if digits.length ≤ whole then
      digits ++ zeros (whole - digits.length) ++ (if fraction then ['.', '0'] else [])
    else digits.take whole ++ '.' :: digits.drop whole

def exponentChars (plus : Bool) (digits : List Char) (leading : Int) : List Char :=
  let tail := match digits with
    | first :: second :: rest => first :: '.' :: second :: rest
    | _ => digits
  let sign := if leading < 0 then ['-'] else if plus then ['+'] else []
  tail ++ 'e' :: (sign ++ Nat.toDigits 10 leading.natAbs)

def Layout.decimalChars (l : Layout) (d : Scientific) : List Char :=
  let digits := Nat.toDigits 10 d.coefficient
  let leading := d.exponent + digits.length - 1
  if l.positional leading then positionalChars l.fraction digits leading
  else exponentChars l.plus digits leading

def isNegative (x : Float) : Bool :=
  Nat.pow 2 63 ≤ x.toBits.toNat

def Layout.chars (l : Layout) (x : Float) : List Char :=
  if x.isNaN then "NaN".toList
  else
    let magnitude :=
      if x.isInf then "inf".toList
      else if x == 0 then (if l.fraction then ['0', '.', '0'] else ['0'])
      else l.decimalChars (shortest l.tie x)
    if isNegative x then '-' :: magnitude else magnitude

end ParamGrid.Decimal
