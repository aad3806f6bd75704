/-!
# Decimal integers

Whole numbers as they stand in headers and path patterns: decimal digits with a sign where the
range allows one, refused when the number leaves its range.
-/

namespace TraceSampler.Text.Integer

/-- The value of one of the digits `0` to `9`. -/
def value? (c : Char) : Option Nat :=
  if '0' ≤ c ∧ c ≤ '9' then some (c.toNat - 48) else none

/-- The number that a run of digits denotes after the digits already read. -/
def readFrom (acc : Nat) : List Char → Option Nat
  | [] => some acc
  | c :: r =>
    match value? c with
    | some v => readFrom (acc * 10 + v) r
    | none => none

/-- The number that a text of digits denotes; the empty text denotes none. -/
def readNat? : List Char → Option Nat
  | [] => none
  | c :: r => readFrom 0 (c :: r)

/-- The first number too large for an unsigned number of 64 bits. -/
def unsignedEnd : Nat := Nat.pow 2 64

/-- The first number too large for a signed number of 64 bits; with a minus sign it is the least. -/
def signedEnd : Nat := Nat.pow 2 63

/-- An unsigned number of 64 bits; a plus sign may precede it. -/
def readUnsigned64? (s : List Char) : Option Nat :=
  let digits := match s with
    | '+' :: r => r
    | _ => s
  (readNat? digits).filter (· < unsignedEnd)

/-- A signed number of 64 bits; a plus or minus sign may precede it. -/
def readSigned64? (s : List Char) : Option Int :=
  match s with
  | '-' :: r => ((readNat? r).filter (· ≤ signedEnd)).map fun n => -(n : Int)
  | '+' :: r => ((readNat? r).filter (· < signedEnd)).map Int.ofNat
  | _ => ((readNat? s).filter (· < signedEnd)).map Int.ofNat

/-- The decimal digits of a number. -/
def ofNat (n : Nat) : String := String.ofList (Nat.toDigits 10 n)

/-- The decimal digits of a number, a minus sign before those of a negative one. -/
def ofInt : Int → String
  | .ofNat n => ofNat n
  | .negSucc n => "-" ++ ofNat (n + 1)

end TraceSampler.Text.Integer
