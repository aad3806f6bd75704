import TraceSampler.Decimal.Power

/-!
# Binary floating point, exactly

A double-precision number is a sign and a natural number times a power of two. Decimal text meets
it here in exact integer arithmetic: `decode` takes a number apart, `nearest` rounds a ratio of
two natural numbers to the closest double, a half to the even neighbour.
-/

namespace TraceSampler.Decimal

/-- The parts of a double-precision number: a finite one is `mantissa * 2 ^ exponent`. -/
inductive Binary64
  | nan
  | infinite (negative : Bool)
  | finite (negative : Bool) (mantissa : Nat) (exponent : Int)
  deriving DecidableEq, Repr

namespace Binary64

/-- The number of mantissa bits below the leading one. -/
def fractionBits : Nat := 52

/-- The exponent of the smallest numbers. -/
def leastExponent : Int := -1074

/-- The exponent of the largest numbers. -/
def greatestExponent : Int := 971

/-- Takes a number apart by its bits. -/
def decode (x : Float) : Binary64 :=
  let bits := x.toBits.toNat
  let negative := bits / powerOfTwo 63 == 1
  let biased := bits / powerOfTwo fractionBits % 2048
  let fraction := bits % powerOfTwo fractionBits
  if biased == 2047 then
    if fraction == 0 then .infinite negative else .nan
  else if biased == 0 then .finite negative fraction leastExponent
  else .finite negative (powerOfTwo fractionBits + fraction) (biased - 1075)

/-- The number with the given sign and magnitude `mantissa * 2 ^ exponent`, where the mantissa has
at most 53 bits, and exactly 53 above the least exponent. -/
def encode (negative : Bool) (mantissa : Nat) (exponent : Int) : Float :=
  let sign := if negative then powerOfTwo 63 else 0
  let magnitude :=
    if exponent > greatestExponent then 2047 * powerOfTwo fractionBits
    else if mantissa < powerOfTwo fractionBits then mantissa
    else (exponent + 1075).toNat * powerOfTwo fractionBits + (mantissa - powerOfTwo fractionBits)
  Float.ofBits (sign + magnitude).toUInt64

/-- The ratio `num / den` divided by `2 ^ exponent`, as a ratio again. -/
def scaled (num den : Nat) (exponent : Int) : Nat × Nat :=
  if exponent < 0 then (num * powerOfTwo (-exponent).toNat, den)
  else (num, den * powerOfTwo exponent.toNat)

/-- The quotient rounded to the nearest natural number, a half to the even one. -/
def roundEven (num den : Nat) : Nat :=
  let q := num / den
  let twice := 2 * (num % den)
  if twice > den || (twice == den && q % 2 == 1) then q + 1 else q

/-- The double closest to `num / den`, with the given sign; infinite beyond the largest one. -/
def nearest (negative : Bool) (num den : Nat) : Float :=
  if num == 0 then encode negative 0 leastExponent
  else
    let guess : Int := (num.log2 : Int) - den.log2 - fractionBits
    let (n, d) := scaled num den guess
    let fitted := if n / d < powerOfTwo fractionBits then guess - 1 else guess
    let exponent := max fitted leastExponent
    let (n, d) := scaled num den exponent
    let mantissa := roundEven n d
    if mantissa == powerOfTwo (fractionBits + 1) then
      encode negative (powerOfTwo fractionBits) (exponent + 1)
    else encode negative mantissa exponent

end Binary64

end TraceSampler.Decimal
