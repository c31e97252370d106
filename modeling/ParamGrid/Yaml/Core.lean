import ParamGrid.Decimal.Numeral
import ParamGrid.Yaml.Node

set_option autoImplicit false

namespace ParamGrid.Yaml

inductive Datum where
  | null
  | bool (b : Bool)
  | int (n : Int)
  | real (x : Float)
  | text (s : String)

def isNull (text : String) : Bool :=
  ["null", "Null", "NULL", "~"].contains text

def bool? (text : String) : Option Bool :=
  if ["true", "True", "TRUE"].contains text then some true
  else if ["false", "False", "FALSE"].contains text then some false
  else none

def digitValue? (base : Nat) (c : Char) : Option Nat :=
  let value :=
    if c.isDigit then some (c.toNat - '0'.toNat)
    else if 'a' ≤ c ∧ c ≤ 'f' then some (c.toNat - 'a'.toNat + 10)
    else if 'A' ≤ c ∧ c ≤ 'F' then some (c.toNat - 'A'.toNat + 10)
    else none
  value.filter (· < base)

def digits? (base : Nat) (digits : List Char) : Option Nat :=
  if digits = [] then none
  else digits.foldlM (fun n c => (digitValue? base c).map (base * n + ·)) 0

def isPadded (text : List Char) : Bool :=
  match (Decimal.splitSign text).2 with
  | '0' :: d :: rest => (d :: rest).all Char.isDigit
  | _ => false

def based? : List Char → Option Nat
  | '0' :: 'x' :: digits => digits? 16 digits
  | '0' :: 'o' :: digits => digits? 8 digits
  | '0' :: 'b' :: digits => digits? 2 digits
  | _ => none

def natural? (text : List Char) : Option Nat :=
  match based? text with
  | some n => some n
  | none => if isPadded text then none else digits? 10 text

def int? : List Char → Option Int
  | '-' :: text => (natural? text).map fun n => -(n : Int)
  | '+' :: text => (natural? text).map Int.ofNat
  | text => (natural? text).map Int.ofNat

-- The integers that can be read at all; a longer one is read as another number, if it can be.
def IsWide (n : Int) : Prop :=
  -(Nat.pow 2 127 : Int) ≤ n ∧ n < (Nat.pow 2 128 : Int)

instance (n : Int) : Decidable (IsWide n) :=
  inferInstanceAs (Decidable (_ ∧ _))

def wideInt? (text : List Char) : Option Int :=
  (int? text).filter fun n => IsWide n

def nan : Float := Float.ofBits 0x7ff8000000000000

def real? (text : List Char) : Option Float :=
  let s := String.ofList text
  if [".inf", ".Inf", ".INF", "+.inf", "+.Inf", "+.INF"].contains s then
    some (Float.ofBits 0x7ff0000000000000)
  else if ["-.inf", "-.Inf", "-.INF"].contains s then some (Float.ofBits 0xfff0000000000000)
  else if [".nan", ".NaN", ".NAN"].contains s then some nan
  else (Decimal.Numeral.read? text).bind fun numeral =>
    let x := numeral.toFloat
    if x.isFinite then some x else none

def plainDatum (text : String) : Datum :=
  let chars := text.toList
  if text = "" ∨ isNull text then .null
  else
    match bool? text, wideInt? chars with
    | some b, _ => .bool b
    | none, some n => .int n
    | none, none =>
      match if isPadded chars then none else real? chars with
      | some x => .real x
      | none => .text text

def Scalar.datum? (s : Scalar) : Option Datum :=
  match s.tag with
  | none => some (if s.plain then plainDatum s.text else .text s.text)
  | some tag =>
    if tag = .core "bool" then (bool? s.text).map .bool
    else if tag = .core "int" then (wideInt? s.text.toList).map .int
    else if tag = .core "float" then (real? s.text.toList).map .real
    else if tag = .core "null" then if isNull s.text then some .null else none
    else
      match tag.scope with
      | .file => none
      | .broken => some (if s.plain then plainDatum s.text else .text s.text)
      | .common => some (.text s.text)

end ParamGrid.Yaml
