import DocModule.Decimal.Binary64

namespace DocModule.Decimal

structure Digits where
  digits : Nat
  power : Int
  deriving DecidableEq, Repr

namespace Shortest

-- The magnitudes that are nearer to a number than to its neighbours, in quarters of the unit of its
-- last bit. The ends belong to it when its mantissa is even, and the lower end is nearer where the
-- numbers below are twice as dense.
def lower (x : Binary64) : Nat :=
  if x.mantissa = Nat.pow 2 52 ∧ x.exponent > -1074 then 4 * x.mantissa - 1 else 4 * x.mantissa - 2

def upper (x : Binary64) : Nat :=
  4 * x.mantissa + 2

-- The power of ten of the first significant digit of a number other than zero. Every such number
-- times 10 ^ 350 has an integer part with as many digits as its order says.
def decimalOrder (x : Binary64) : Int :=
  let scaled := x.mantissa * Nat.pow 10 350 * Nat.pow 2 x.exponent.toNat / Nat.pow 2 (-x.exponent).toNat
  (Nat.toDigits 10 scaled).length - 351

-- Of the multiples of 10 ^ power next to the number, the one that reads back as the number; the
-- nearer one if both do, and the even one of two equally near.
def onGrid? (x : Binary64) (power : Int) : Option Digits :=
  let shift := x.exponent - 2
  let perQuarter := Nat.pow 2 shift.toNat * Nat.pow 10 (-power).toNat
  let perDigit := Nat.pow 10 power.toNat * Nat.pow 2 (-shift).toNat
  let fits (digits : Nat) : Bool :=
    let here := digits * perDigit
    let low := lower x * perQuarter
    let high := upper x * perQuarter
    if x.mantissa % 2 = 0 then low ≤ here && here ≤ high else low < here && here < high
  let exact := 4 * x.mantissa * perQuarter
  let below := exact / perDigit
  let rest := 2 * (exact % perDigit)
  let nearer :=
    if rest < perDigit ∨ (rest = perDigit ∧ below % 2 = 0) then below else below + 1
  let farther := if nearer = below then below + 1 else below
  if fits nearer then some ⟨nearer, power⟩
  else if fits farther then some ⟨farther, power⟩
  else none

end Shortest

-- The fewest digits that read back as the number, and of those the nearest to it. Seventeen digits
-- are always enough.
def shortest (x : Binary64) : Digits :=
  let order := Shortest.decimalOrder x
  ((List.range 17).findSome? fun (n : Nat) => Shortest.onGrid? x (order - n)).getD ⟨0, 0⟩

end DocModule.Decimal
