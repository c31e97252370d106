set_option autoImplicit false

namespace ParamGrid.Decimal

structure Scientific where
  coefficient : Nat
  exponent : Int
  deriving DecidableEq, Repr

inductive Tie
  | up
  | even
  deriving DecidableEq, Repr

structure Interval where
  value : Nat
  below : Nat
  above : Nat
  denominator : Nat
  closed : Bool

def Interval.ofBits (bits : Nat) : Interval :=
  let fraction : Nat := bits % Nat.pow 2 52
  let biased : Nat := bits / Nat.pow 2 52 % 2048
  let significand : Nat := if biased = 0 then fraction else fraction + Nat.pow 2 52
  -- In units of a quarter of the last place, so that half a gap below a power of two is whole.
  let power : Int := (if biased = 0 then -1074 else (biased : Int) - 1075) - 2
  let unit : Nat := Nat.pow 2 power.toNat
  let narrow := fraction = 0 ∧ 1 < biased
  { value := 4 * significand * unit
    below := (if narrow then 1 else 2) * unit
    above := 2 * unit
    denominator := Nat.pow 2 (-power).toNat
    closed := significand % 2 = 0 }

def Interval.contains (i : Interval) (coefficient : Nat) (exponent : Int) : Bool :=
  let point := coefficient * Nat.pow 10 exponent.toNat * i.denominator
  let scale := Nat.pow 10 (-exponent).toNat
  let low := (i.value - i.below) * scale
  let high := (i.value + i.above) * scale
  if i.closed then low ≤ point && point ≤ high else low < point && point < high

def Interval.onGrid? (tie : Tie) (i : Interval) (exponent : Int) : Option Nat :=
  let scaled := i.value * Nat.pow 10 (-exponent).toNat
  let step := Nat.pow 10 exponent.toNat * i.denominator
  let floor := scaled / step
  let rest := scaled % step
  if rest = 0 then some floor
  else
    match i.contains floor exponent, i.contains (floor + 1) exponent with
    | false, false => none
    | true, false => some floor
    | false, true => some (floor + 1)
    | true, true =>
      if 2 * rest < step then some floor
      else if step < 2 * rest then some (floor + 1)
      else
        match tie with
        | .up => some (floor + 1)
        | .even => some (if floor % 2 = 0 then floor else floor + 1)

def digitCount (n : Nat) : Nat :=
  (Nat.toDigits 10 n).length

def Interval.leadingExponent (i : Interval) : Int :=
  if i.denominator ≤ i.value then digitCount (i.value / i.denominator) - 1
  else -digitCount ((i.denominator + i.value - 1) / i.value - 1)

-- Seventeen digits always suffice, so the last resort is never taken.
def Interval.shortest (tie : Tie) (i : Interval) : Scientific :=
  let leading := i.leadingExponent
  let found := (List.range 17).findSome? fun (extra : Nat) =>
    let exponent := leading - extra
    (i.onGrid? tie exponent).map fun coefficient => Scientific.mk coefficient exponent
  match found with
  | some d => if d.coefficient % 10 = 0 then ⟨d.coefficient / 10, d.exponent + 1⟩ else d
  | none => ⟨i.value, 0⟩

def shortest (tie : Tie) (x : Float) : Scientific :=
  (Interval.ofBits x.toBits.toNat).shortest tie

end ParamGrid.Decimal
