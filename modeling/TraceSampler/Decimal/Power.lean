/-!
# Powers of two and ten

The two families of numbers in which binary and decimal fractions are scaled.
-/

namespace TraceSampler.Decimal

/-- The scale of a binary exponent. -/
def powerOfTwo (n : Nat) : Nat := Nat.pow 2 n

/-- The scale of a decimal exponent. -/
def powerOfTen (n : Nat) : Nat := Nat.pow 10 n

end TraceSampler.Decimal
