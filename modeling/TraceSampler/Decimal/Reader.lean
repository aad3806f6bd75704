import TraceSampler.Decimal.Binary64
import TraceSampler.Text.Integer

/-!
# Reading decimal numbers

A decimal text denotes the double closest to it. A sign may come first; then digits with at most
one point among them and an optional power of ten, or one of the words for the values that digits
cannot write, in any case of letters.
-/

namespace TraceSampler.Decimal

/-- The double closest to `digits * 10 ^ exponent`. Digits far beyond either end of the range are
decided without computing the power. -/
def ofScientific (negative : Bool) (digits : Nat) (exponent : Int) : Float :=
  let size : Int := (Nat.toDigits 10 digits).length
  if digits == 0 || size + exponent < -400 then Binary64.nearest negative 0 1
  else if size + exponent > 400 then Binary64.nearest negative (powerOfTwo 1100) 1
  else if exponent < 0 then Binary64.nearest negative digits (powerOfTen (-exponent).toNat)
  else Binary64.nearest negative (digits * powerOfTen exponent.toNat) 1

/-- The power of ten behind an `e`: a signed whole number, or zero if there is none. -/
def readExponent? : List Char → Option Int
  | [] => some 0
  | e :: r =>
    if e == 'e' || e == 'E' then
      match r with
      | '-' :: ds => (Text.Integer.readNat? ds).map fun n => -(n : Int)
      | '+' :: ds => (Text.Integer.readNat? ds).map Int.ofNat
      | ds => (Text.Integer.readNat? ds).map Int.ofNat
    else none

/-- Digits, an optional point with more digits, an optional power of ten; at least one digit stands
before or after the point. -/
def readMagnitude? (negative : Bool) (s : List Char) : Option Float :=
  let whole := s.takeWhile Char.isDigit
  let rest := s.dropWhile Char.isDigit
  let (fraction, rest) := match rest with
    | '.' :: r => (r.takeWhile Char.isDigit, r.dropWhile Char.isDigit)
    | _ => ([], rest)
  match Text.Integer.readNat? (whole ++ fraction), readExponent? rest with
  | some digits, some exponent => some (ofScientific negative digits (exponent - fraction.length))
  | _, _ => none

/-- The words for what digits cannot write. -/
def readWord? (negative : Bool) (s : List Char) : Option Float :=
  match String.ofList (s.map Char.toLower) with
  | "inf" | "infinity" => some (if negative then -1.0 / 0.0 else 1.0 / 0.0)
  | "nan" => some (0.0 / 0.0)
  | _ => none

/-- The double that a text denotes. -/
def readFloat? (text : String) : Option Float :=
  let (negative, s) := match text.toList with
    | '-' :: r => (true, r)
    | '+' :: r => (false, r)
    | s => (false, s)
  match readWord? negative s with
  | some x => some x
  | none => readMagnitude? negative s

end TraceSampler.Decimal
