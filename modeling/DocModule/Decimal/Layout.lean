import DocModule.Decimal.Shortest

namespace DocModule.Decimal

-- Which powers of ten of the first digit are written without an exponent.
structure Layout where
  least : Int
  most : Int

namespace Layout

-- The digits of a magnitude without the zeros at the end, and the power of ten of the last one left.
def trimmed (digits : List Char) (power : Int) : List Char × Int :=
  let zeros := (digits.reverse.takeWhile (· == '0')).length
  (digits.take (digits.length - zeros), power + zeros)

def zeros (count : Nat) : List Char :=
  List.replicate count '0'

-- The digits with a point so that the first one has the given power of ten, and at least one digit
-- on either side of the point.
def positional (digits : List Char) (order : Int) : List Char :=
  if order < 0 then '0' :: '.' :: (zeros (-order - 1).toNat ++ digits)
  else
    let whole := digits.take (order.toNat + 1)
    let part := digits.drop (order.toNat + 1)
    whole ++ zeros (order.toNat + 1 - digits.length) ++ '.' :: (if part.isEmpty then ['0'] else part)

def exponential (digits : List Char) (order : Int) : List Char :=
  let part := digits.drop 1
  digits.take 1 ++ (if part.isEmpty then [] else '.' :: part) ++ 'e' :: (toString order).toList

-- The text of a number with the fewest digits that read back as it.
def write (layout : Layout) (x : Binary64) : String :=
  let body :=
    if x.isZero then ['0', '.', '0']
    else
      let found := shortest x
      let (digits, power) := trimmed (Nat.toDigits 10 found.digits) found.power
      let order := power + digits.length - 1
      if layout.least ≤ order ∧ order ≤ layout.most then positional digits order
      else exponential digits order
  String.ofList (if x.negative then '-' :: body else body)

end Layout

end DocModule.Decimal
