import TraceSampler.Decimal.Binary64

/-!
# The shortest decimal of a double

The reals that round to a double form an interval around it. Its shortest decimal is the one with
the fewest digits in that interval and, of those, the one closest to the double. Which of two
equally close ones it is belongs to the style in which the number is written. Seventeen digits
always suffice.
-/

namespace TraceSampler.Decimal

/-- Which of two equally close decimals is taken. -/
inductive TieRule
  | greater
  | evenDigit
  deriving DecidableEq, Repr

/-- The decimal number `digits * 10 ^ exponent`. -/
structure Scientific where
  digits : Nat
  exponent : Int
  deriving DecidableEq, Repr

/-- The greatest `e` such that `10 ^ e` is not above `num / den`, for positive numbers. -/
def decimalExponent (num den : Nat) : Int :=
  if den ≤ num then ((Nat.toDigits 10 (num / den)).length : Int) - 1
  else
    let size := (Nat.toDigits 10 (den / num)).length
    if den ≤ num * powerOfTen (size - 1) then -((size : Int) - 1) else -(size : Int)

/-- The reals that round to a double, as multiples of one over `den`. -/
structure RoundingInterval where
  low : Nat
  value : Nat
  high : Nat
  den : Nat
  closed : Bool

/-- The interval of `mantissa * 2 ^ exponent`: half a step up and half a step down, where the step
below the least mantissa is half as long. The ends belong to it when the mantissa is even. -/
def RoundingInterval.around (mantissa : Nat) (exponent : Int) : RoundingInterval :=
  let unit := powerOfTwo exponent.toNat
  let down :=
    if mantissa == powerOfTwo Binary64.fractionBits && exponent > Binary64.leastExponent then 1
    else 2
  { low := (4 * mantissa - down) * unit
    value := 4 * mantissa * unit
    high := (4 * mantissa + 2) * unit
    den := 4 * powerOfTwo (-exponent).toNat
    closed := mantissa % 2 == 0 }

/-- The decimal lies in the interval. -/
def RoundingInterval.contains (i : RoundingInterval) (d : Scientific) : Bool :=
  let point := d.digits * powerOfTen d.exponent.toNat * i.den
  let scale := powerOfTen (-d.exponent).toNat
  let low := i.low * scale
  let high := i.high * scale
  if i.closed then low ≤ point && point ≤ high else low < point && point < high

/-- The closest decimal with `n` digits that lies in the interval, if one does. -/
def RoundingInterval.withDigits? (i : RoundingInterval) (ties : TieRule) (n : Nat) :
    Option Scientific :=
  let exponent := decimalExponent i.value i.den - n + 1
  let num := i.value * powerOfTen (-exponent).toNat
  let den := i.den * powerOfTen exponent.toNat
  let below : Scientific := ⟨num / den, exponent⟩
  let above : Scientific := ⟨num / den + 1, exponent⟩
  match i.contains below, i.contains above with
  | true, true =>
    let twice := 2 * (num % den)
    let down := twice < den || (twice == den && ties == .evenDigit && below.digits % 2 == 0)
    if down then some below else some above
  | true, false => some below
  | false, true => some above
  | false, false => none

/-- The same number without zeros at the end of its digits. -/
def Scientific.trimmed (d : Scientific) : Scientific :=
  let zeros := ((Nat.toDigits 10 d.digits).reverse.takeWhile (· == '0')).length
  if d.digits == 0 then ⟨0, 0⟩ else ⟨d.digits / powerOfTen zeros, d.exponent + zeros⟩

/-- The shortest decimal of `mantissa * 2 ^ exponent`. -/
def shortest (ties : TieRule) (mantissa : Nat) (exponent : Int) : Scientific :=
  if mantissa == 0 then ⟨0, 0⟩
  else
    let i := RoundingInterval.around mantissa exponent
    match (List.range' 1 17).findSome? (i.withDigits? ties) with
    | some d => d.trimmed
    | none => ⟨0, 0⟩

/-- The digits with the decimal point in its place, and zeros up to it where they are needed. -/
def Scientific.positional (d : Scientific) : List Char :=
  let ds := Nat.toDigits 10 d.digits
  if 0 ≤ d.exponent then
    if d.digits == 0 then ds else ds ++ List.replicate d.exponent.toNat '0'
  else
    let places := (-d.exponent).toNat
    if places < ds.length then
      ds.take (ds.length - places) ++ '.' :: ds.drop (ds.length - places)
    else '0' :: '.' :: List.replicate (places - ds.length) '0' ++ ds

/-- One digit, the point, the other digits, and the power of ten with its sign after an `e`. -/
def Scientific.withExponent (d : Scientific) : List Char :=
  let ds := Nat.toDigits 10 d.digits
  let power := d.exponent + ds.length - 1
  let fraction := if ds.length == 1 then [] else '.' :: ds.drop 1
  let sign := if power < 0 then '-' else '+'
  ds.take 1 ++ fraction ++ 'e' :: sign :: Nat.toDigits 10 power.natAbs

/-- Where a decimal is written without an exponent, and what a whole number ends in. -/
structure NumberStyle where
  /-- The decimal point may stand so many places after the first digit. -/
  mostWhole : Option Nat
  /-- So many zeros may stand between the decimal point and the first digit. -/
  mostZeros : Option Nat
  wholeEnding : List Char
  ties : TieRule

/-- The text of a number in a style. -/
def NumberStyle.write (style : NumberStyle) (x : Float) : String :=
  match Binary64.decode x with
  | .nan => "NaN"
  | .infinite negative => if negative then "-inf" else "inf"
  | .finite negative mantissa exponent =>
    let d := shortest style.ties mantissa exponent
    let sign := if negative then ['-'] else []
    let point := ((Nat.toDigits 10 d.digits).length : Int) + d.exponent
    let whole := (style.mostWhole.map fun n => decide (point ≤ n)).getD true
    let small := (style.mostZeros.map fun n => decide (-point ≤ n)).getD true
    let body :=
      if whole && small then
        d.positional ++ (if 0 ≤ d.exponent then style.wholeEnding else [])
      else d.withExponent
    String.ofList (sign ++ body)

/-- All digits are written out, a whole number stands without a point, and a tie goes up. -/
def NumberStyle.plain : NumberStyle := ⟨none, none, [], .greater⟩

/-- Sixteen places before the point and four zeros after it are written out, beyond that the power
of ten is given; a whole number ends in a point and a zero, and a tie goes to the even digit. -/
def NumberStyle.compact : NumberStyle := ⟨some 16, some 4, ['.', '0'], .evenDigit⟩

end TraceSampler.Decimal
