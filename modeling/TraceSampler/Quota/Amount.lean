/-!
# Amounts of tokens

What a token bucket needs of the numbers it counts in. The running sampler counts in doubles; the
laws of a bucket are about any numbers that behave, so the operations are a class.
-/

namespace TraceSampler.Quota

/-- Numbers that tokens are counted in. -/
class Amount (α : Type) where
  zero : α
  add : α → α → α
  mul : α → α → α
  /-- The lesser of two numbers; a number that is none at all gives way to the other. -/
  lesser : α → α → α
  /-- What is left after one whole token is taken, if there is one. -/
  takeOne? : α → Option α
  /-- A stretch of time in seconds. -/
  seconds : (nanoseconds : Nat) → α

namespace Amount

/-- Nanoseconds in a second. -/
def nanosPerSecond : Nat := 1000000000

/-- The lesser of two doubles, where one that is not a number does not count. -/
def lesserFloat (x y : Float) : Float :=
  if x.isNaN then y
  else if y.isNaN then x
  else if x < y then x
  else y

/-- Whole seconds and the rest, each as a double. -/
def floatSeconds (nanoseconds : Nat) : Float :=
  Float.ofNat (nanoseconds / nanosPerSecond) +
    Float.ofNat (nanoseconds % nanosPerSecond) / Float.ofNat nanosPerSecond

instance : Amount Float where
  zero := 0.0
  add := (· + ·)
  mul := (· * ·)
  lesser := lesserFloat
  takeOne? x := if x ≥ 1.0 then some (x - 1.0) else none
  seconds := floatSeconds

end Amount

end TraceSampler.Quota
