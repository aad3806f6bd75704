import TraceSampler.Decimal.Reader
import TraceSampler.Decimal.Shortest
import TraceSampler.Pattern

/-!
# Tests of fields

What a filter asks of a field of a span: that the span has it, or also that its value is a given
one. The text of a value is read as the first kind of value that it can be and is written again in
the one form of that kind. Tests have an order, in which kinds of values come before the values.
-/

namespace TraceSampler.Log

/-- What the value of a field has to be. -/
inductive ValueTest
  | bool (b : Bool)
  /-- A number with a fraction or beyond the range of whole numbers. -/
  | real (x : Float)
  | notANumber
  | unsigned (n : Nat)
  | signed (n : Int)
  | pattern (text : String)

namespace ValueTest

/-- Reads a value. A pattern has to follow the syntax of patterns. -/
def read? (s : List Char) : Option ValueTest :=
  let text := String.ofList s
  if text == "true" then some (.bool true)
  else if text == "false" then some (.bool false)
  else
    match Text.Integer.readUnsigned64? s, Text.Integer.readSigned64? s, Decimal.readFloat? text with
    | some n, _, _ => some (.unsigned n)
    | none, some n, _ => some (.signed n)
    | none, none, some x => some (if x.isNaN then .notANumber else .real x)
    | none, none, none => if Pattern.isWordFree text then some (.pattern text) else none

def write : ValueTest → String
  | bool b => if b then "true" else "false"
  | real x => Decimal.NumberStyle.plain.write x
  | notANumber => "NaN"
  | unsigned n => Text.Integer.ofNat n
  | signed n => Text.Integer.ofInt n
  | pattern text => text

/-- The place of a kind of value in the order. -/
def rank : ValueTest → Nat
  | bool _ => 0
  | real _ => 1
  | notANumber => 2
  | unsigned _ => 3
  | signed _ => 4
  | pattern _ => 5

def cmp : ValueTest → ValueTest → Ordering
  | bool a, bool b => compare a.toNat b.toNat
  | real a, real b => if a < b then .lt else if b < a then .gt else .eq
  | unsigned a, unsigned b => compare a b
  | signed a, signed b => compare a b
  | pattern a, pattern b => compare a b
  | a, b => compare a.rank b.rank

end ValueTest

/-- A field that a span has to have, and what its value has to be. -/
structure FieldTest where
  name : String
  value : Option ValueTest

namespace FieldTest

/-- Reads a name with or without an equals sign and a value. What stands behind a second equals sign
is passed over. -/
def read? (s : List Char) : Option FieldTest :=
  match Text.split '=' s with
  | name :: value :: _ =>
    (ValueTest.read? value).map fun test => ⟨String.ofList name, some test⟩
  | _ => some ⟨String.ofList s, none⟩

def write (f : FieldTest) : String :=
  f.name ++ ((f.value.map fun v => "=" ++ v.write).getD "")

/-- Tests of values come after tests of names alone, and those of one name stand together. -/
def cmp (a b : FieldTest) : Ordering :=
  let values := match a.value, b.value with
    | some v, some w => v.cmp w
    | _, _ => .eq
  (compare a.value.isSome.toNat b.value.isSome.toNat).then ((compare a.name b.name).then values)

end FieldTest

end TraceSampler.Log
