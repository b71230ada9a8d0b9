namespace DocModule.Text

-- A set of characters given by closed ranges of code points.
abbrev Ranges := List (Nat × Nat)

def Ranges.covers (ranges : Ranges) (c : Char) : Bool :=
  ranges.any fun (first, last) => first ≤ c.toNat && c.toNat ≤ last

end DocModule.Text
