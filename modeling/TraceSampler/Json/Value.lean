import TraceSampler.Decimal.Shortest
import TraceSampler.Json.Tree
import TraceSampler.Text.Quoted

/-!
# JSON values

What a JSON tree denotes: strings of whole characters, numbers in range, objects ordered by key
with the last value of a repeated one, containers not nested too deeply. `inspect` writes a value
for a log line, each with the name of its kind.
-/

namespace TraceSampler.Json

/-- A number as it is kept: whole numbers of 64 bits exactly, everything else as a double. -/
inductive Number
  | whole (n : Int)
  | real (x : Float)

inductive Value
  | null
  | bool (b : Bool)
  | number (n : Number)
  | text (s : String)
  | array (items : List Value)
  /-- Ordered by key, with distinct keys. -/
  | object (members : List (String × Value))

/-! ## Strings -/

/-- The characters of a string; a half of a surrogate pair without the other denotes none. -/
def decodePieces? : List Piece → Option (List Char)
  | [] => some []
  | .char c :: r => (decodePieces? r).map (c :: ·)
  | .unit n :: r =>
    if 0xD800 ≤ n && n ≤ 0xDBFF then
      match r with
      | .unit m :: r =>
        if 0xDC00 ≤ m && m ≤ 0xDFFF then
          (decodePieces? r).map (Char.ofNat (0x10000 + (n - 0xD800) * 0x400 + (m - 0xDC00)) :: ·)
        else none
      | _ => none
    else if 0xDC00 ≤ n && n ≤ 0xDFFF then none
    else (decodePieces? r).map (Char.ofNat n :: ·)

def textOf? (pieces : List Piece) : Option String := (decodePieces? pieces).map String.ofList

/-! ## Numbers -/

/-- Adds digits to a number as long as it stays below 64 bits; the others are left. -/
def takeDigits (n : Nat) : List Char → Nat × List Char
  | [] => (n, [])
  | c :: r =>
    let next := n * 10 + (c.toNat - 48)
    if next < Decimal.powerOfTwo 64 then takeDigits next r else (n, c :: r)

/-- A power of ten as a double. -/
def scaleOfTen (n : Nat) : Float :=
  Decimal.Binary64.nearest false (Decimal.powerOfTen n) 1

/-- `significand * 10 ^ exponent` as one multiplication or division of doubles, which may miss the
closest double by the last bit; none when it is too large. -/
def scaleByTen? (significand : Nat) (exponent : Int) : Option Float :=
  let x := Decimal.Binary64.nearest false significand 1
  if 0 ≤ exponent then
    if exponent ≤ 308 then
      let y := x * scaleOfTen exponent.toNat
      if y == 1.0 / 0.0 then none else some y
    else if significand == 0 then some x
    else none
  else
    let places := (-exponent).toNat
    if places ≤ 308 then some (x / scaleOfTen places)
    else if places ≤ 616 then some (x / scaleOfTen 308 / scaleOfTen (places - 308))
    else some 0.0

/-- The number that a numeral denotes, unless it is too large. -/
def Number.ofNumeral? (n : Numeral) : Option Number :=
  let (digits, dropped) := takeDigits 0 n.whole
  let signed := fun (x : Float) => if n.negative then -x else x
  if n.fraction.isEmpty && n.power.isNone && dropped.isEmpty &&
      !(n.negative && (digits == 0 || digits > Decimal.powerOfTwo 63)) then
    some (.whole (if n.negative then -(digits : Int) else digits))
  else
    let (significand, unread) := takeDigits digits n.fraction
    let exponent : Int := (dropped.length : Int) + unread.length - n.fraction.length
    match n.power with
    | none => (scaleByTen? significand exponent).map fun x => .real (signed x)
    | some (negative, power) =>
      match Text.Integer.readNat? power with
      | none => none
      | some p =>
        if p ≥ Decimal.powerOfTwo 31 then
          if significand != 0 && !negative then none else some (.real (signed 0.0))
        else
          let exponent := if negative then exponent - p else exponent + p
          (scaleByTen? significand exponent).map fun x => .real (signed x)

/-! ## Values -/

/-- Puts a member into its place by key; a member with the same key is replaced. -/
def insertMember (key : String) (v : Value) : List (String × Value) → List (String × Value)
  | [] => [(key, v)]
  | (k, w) :: r =>
    if key = k then (key, v) :: r
    else if key < k then (key, v) :: (k, w) :: r
    else (k, w) :: insertMember key v r

/-- Containers may be nested less deeply than this. -/
def nestingLimit : Nat := 128

mutual

/-- The value that a tree denotes where so many levels are left for containers. -/
def Tree.denote? (levels : Nat) : Tree → Option Value
  | .null => some .null
  | .bool b => some (.bool b)
  | .number n => (Number.ofNumeral? n).map .number
  | .text pieces => (textOf? pieces).map .text
  | .array items => if levels ≤ 1 then none else (denoteItems? (levels - 1) items).map .array
  | .object members =>
    if levels ≤ 1 then none else (denoteMembers? (levels - 1) members).map fun ms =>
      .object (ms.foldl (fun acc (k, v) => insertMember k v acc) [])

def denoteItems? (levels : Nat) : List Tree → Option (List Value)
  | [] => some []
  | t :: r =>
    match Tree.denote? levels t, denoteItems? levels r with
    | some v, some vs => some (v :: vs)
    | _, _ => none

def denoteMembers? (levels : Nat) : List (List Piece × Tree) → Option (List (String × Value))
  | [] => some []
  | (key, t) :: r =>
    match textOf? key, Tree.denote? levels t, denoteMembers? levels r with
    | some k, some v, some ms => some ((k, v) :: ms)
    | _, _, _ => none

end

/-- The value of a text that holds one value and nothing else. -/
def Value.read? (text : String) : Option Value :=
  (Tree.read? text).bind (Tree.denote? nestingLimit)

/-! ## Values in log lines -/

def Number.write : Number → String
  | .whole n => Text.Integer.ofInt n
  | .real x => Decimal.NumberStyle.compact.write x

mutual

/-- A value with the name of its kind. -/
def Value.inspect : Value → String
  | .null => "Null"
  | .bool b => "Bool(" ++ (if b then "true" else "false") ++ ")"
  | .number n => "Number(" ++ n.write ++ ")"
  | .text s => "String(" ++ Text.Quoted.encode s ++ ")"
  | .array items => "Array [" ++ Text.joinWith ", " (inspectItems items) ++ "]"
  | .object members => "Object \x7b" ++ Text.joinWith ", " (inspectMembers members) ++ "\x7d"

def inspectItems : List Value → List String
  | [] => []
  | v :: r => v.inspect :: inspectItems r

def inspectMembers : List (String × Value) → List String
  | [] => []
  | (k, v) :: r => (Text.Quoted.encode k ++ ": " ++ v.inspect) :: inspectMembers r

end

end TraceSampler.Json
