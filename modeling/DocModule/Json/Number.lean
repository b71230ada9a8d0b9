import DocModule.Json.Basic

namespace DocModule.Json

open Decimal

def digit? (c : Char) : Option Nat :=
  if c.isDigit then some (c.toNat - '0'.toNat) else none

def digits (cs : List Char) : List Nat × List Char :=
  ((cs.takeWhile Char.isDigit).filterMap digit?, cs.dropWhile Char.isDigit)

def unsignedLimit : Nat :=
  Nat.pow 2 64

-- The significand grows by the digits as long as it fits 64 bits; the result is the significand
-- and the digits left over.
def gather (significand : Nat) : List Nat → Nat × List Nat
  | [] => (significand, [])
  | d :: ds =>
      let next := significand * 10 + d
      if next < unsignedLimit then gather next ds else (significand, d :: ds)

def powerOfTen (n : Nat) : Binary64 :=
  (Binary64.ofRatio? false (Nat.pow 10 n) 1).getD (Binary64.zero false)

-- The number times 10 ^ power, where powers up to 10 ^ 308 are taken in one rounded step and smaller
-- ones in steps of 10 ^ -308; none on overflow.
def scale? (x : Binary64) (power : Int) : Option Binary64 :=
  if power.natAbs ≤ 308 then
    if 0 ≤ power then x.mul? (powerOfTen power.natAbs) else x.div? (powerOfTen power.natAbs)
  else if x.isZero then some x
  else if 0 ≤ power then none
  else
    match x.div? (powerOfTen 308) with
    | none => none
    | some x => scale? x (power + 308)
termination_by power.natAbs

-- The floating point number with the given significand and power of ten. Both the significand and
-- the scaling are rounded.
def float? (negative : Bool) (significand : Nat) (power : Int) : Option Number := do
  let x ← Binary64.ofRatio? false significand 1
  let x ← scale? x power
  some (.float (if negative then x.negate else x))

-- A number without fraction and exponent whose digits fit 64 bits. A negative one that is zero or
-- does not fit a signed integer is a floating point number.
def whole? (negative : Bool) (significand : Nat) : Option Number :=
  if !negative then some (.int significand)
  else if significand ≠ 0 ∧ significand ≤ Nat.pow 2 63 then some (.int (-(significand : Int)))
  else float? true significand 0

def natOfDigits (ds : List Nat) : Nat :=
  ds.foldl (fun n d => n * 10 + d) 0

-- What follows the exponent mark: a sign or none, and at least one digit.
def exponent? (cs : List Char) : Option (Int × List Char) :=
  let (negative, cs) := match cs with
    | '+' :: rest => (false, rest)
    | '-' :: rest => (true, rest)
    | _ => (false, cs)
  let (ds, rest) := digits cs
  if ds.isEmpty then none
  else
    let size : Int := natOfDigits ds
    some (if negative then -size else size, rest)

-- The end of a number whose significand and power of ten are known so far.
def scaled? (negative : Bool) (significand : Nat) (power : Int) (cs : List Char) :
    Option (Number × List Char) :=
  let finish (power : Int) (rest : List Char) := do
    some (← float? negative significand power, rest)
  match cs with
  | 'e' :: rest | 'E' :: rest => do
      let (extra, rest) ← exponent? rest
      finish (power + extra) rest
  | _ => finish power cs

-- A number without its sign. A zero in front is followed by no further digit, and a point by at
-- least one.
def unsigned? (negative : Bool) (cs : List Char) : Option (Number × List Char) :=
  let (ds, rest) := digits cs
  if ds.isEmpty || (ds.head? == some 0 && ds.length > 1) then none
  else
    let (significand, left) := gather 0 ds
    match rest with
    | '.' :: afterPoint =>
        let (part, rest) := digits afterPoint
        if part.isEmpty then none
        else
          let (significand, leftPart) := gather significand part
          let power : Int := (left.length : Int) - ((part.length - leftPart.length : Nat) : Int)
          scaled? negative significand power rest
    | 'e' :: _ | 'E' :: _ => scaled? negative significand left.length rest
    | _ =>
        if left.isEmpty then do some (← whole? negative significand, rest)
        else scaled? negative significand left.length rest

def number? : List Char → Option (Number × List Char)
  | '-' :: rest => unsigned? true rest
  | cs => unsigned? false cs

end DocModule.Json
