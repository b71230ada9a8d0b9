namespace DocModule.Decimal

-- A finite binary floating point number of 64 bits: its magnitude is mantissa * 2 ^ exponent. The
-- mantissa has at most 53 bits, the exponent is at least -1074 and at most 971, and the mantissa has
-- exactly 53 bits unless the exponent is the least one, so that equal numbers of one sign are equal
-- values.
structure Binary64 where
  negative : Bool
  mantissa : Nat
  exponent : Int
  deriving DecidableEq, Repr

namespace Binary64

-- The quotient rounded to the nearest integer, a tie to the even neighbour.
def roundDiv (num den : Nat) : Nat :=
  let quotient := num / den
  let rest := 2 * (num % den)
  if rest < den ∨ (rest = den ∧ quotient % 2 = 0) then quotient else quotient + 1

def zero (negative : Bool) : Binary64 :=
  ⟨negative, 0, -1074⟩

def isZero (x : Binary64) : Bool :=
  x.mantissa == 0

def negate (x : Binary64) : Binary64 :=
  { x with negative := !x.negative }

-- The integer e with 2 ^ e ≤ num / den < 2 ^ (e + 1), for positive num and den.
def binaryOrder (num den : Nat) : Int :=
  let guess : Int := (num.log2 : Int) - (den.log2 : Int)
  let reached := den * Nat.pow 2 guess.toNat ≤ num * Nat.pow 2 (-guess).toNat
  if reached then guess else guess - 1

-- The number nearest to num / den, a tie to the even mantissa; none if its magnitude is too large
-- for any finite number.
def ofRatio? (negative : Bool) (num den : Nat) : Option Binary64 :=
  if num = 0 then some (zero negative)
  else
    let exponent := max (-1074) (binaryOrder num den - 52)
    let mantissa := roundDiv (num * Nat.pow 2 (-exponent).toNat) (den * Nat.pow 2 exponent.toNat)
    let (mantissa, exponent) :=
      if mantissa = Nat.pow 2 53 then (Nat.pow 2 52, exponent + 1) else (mantissa, exponent)
    if exponent > 971 then none else some ⟨negative, mantissa, exponent⟩

-- The number nearest to num / den * 2 ^ shift.
def ofScaled? (negative : Bool) (num den : Nat) (shift : Int) : Option Binary64 :=
  ofRatio? negative (num * Nat.pow 2 shift.toNat) (den * Nat.pow 2 (-shift).toNat)

def mul? (x y : Binary64) : Option Binary64 :=
  ofScaled? (x.negative != y.negative) (x.mantissa * y.mantissa) 1 (x.exponent + y.exponent)

def div? (x y : Binary64) : Option Binary64 :=
  ofScaled? (x.negative != y.negative) x.mantissa y.mantissa (x.exponent - y.exponent)

-- The number nearest to digits * 10 ^ power. Beyond the tested bounds the result is an overflow or
-- zero whatever the digits are, so the power itself is not computed there.
def ofDecimal? (negative : Bool) (digits : Nat) (power : Int) : Option Binary64 :=
  let order : Int := (Nat.toDigits 10 digits).length + power
  if digits = 0 ∨ order < -330 then some (zero negative)
  else if order > 310 then none
  else ofRatio? negative (digits * Nat.pow 10 power.toNat) (Nat.pow 10 (-power).toNat)

-- Equality of the numbers denoted: the two zeros are equal.
def sameNumber (x y : Binary64) : Bool :=
  x == y || (x.isZero && y.isZero)

end Binary64

end DocModule.Decimal
