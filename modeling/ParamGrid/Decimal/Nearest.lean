set_option autoImplicit false

namespace ParamGrid.Decimal

def infinityBits : Nat := 2047 * Nat.pow 2 52

def roundHalfEven (num den : Nat) : Nat :=
  let floor := num / den
  let rest := num % den
  if 2 * rest < den then floor
  else if den < 2 * rest then floor + 1
  else if floor % 2 = 0 then floor else floor + 1

def lastPlace (num den : Nat) : Int :=
  let guess : Int := (Nat.log2 num : Int) - Nat.log2 den - 52
  let floor := num * Nat.pow 2 (-guess).toNat / (den * Nat.pow 2 guess.toNat)
  max (if floor < Nat.pow 2 52 then guess - 1 else guess) (-1074)

-- The bits of the double nearest to `num / den`. A significand that rounds up to the next power of
-- two carries into the exponent field, as it should.
def nearestBits (num den : Nat) : Nat :=
  if num = 0 then 0
  else
    let place := lastPlace num den
    let significand := roundHalfEven (num * Nat.pow 2 (-place).toNat) (den * Nat.pow 2 place.toNat)
    min ((place + 1074).toNat * Nat.pow 2 52 + significand) infinityBits

def nearest (coefficient : Nat) (exponent : Int) : Float :=
  let leading := exponent + (Nat.toDigits 10 coefficient).length
  let bits :=
    if coefficient = 0 ∨ leading < -400 then 0
    else if 400 < leading then infinityBits
    else nearestBits (coefficient * Nat.pow 10 exponent.toNat) (Nat.pow 10 (-exponent).toNat)
  Float.ofBits bits.toUInt64

end ParamGrid.Decimal
