import TraceSampler.Quota.Amount

/-!
# Token buckets

A bucket starts full. Tokens flow in at a steady rate up to the capacity in force, and each request
that is let through takes one out. Time is counted in nanoseconds; a clock that goes backwards
counts as one that stands still.
-/

namespace TraceSampler.Quota

/-- A point in time, in nanoseconds. -/
abbrev Instant := Int

/-- The nanoseconds from one point in time to another, or none if that lies before it. -/
def elapsed (start finish : Instant) : Nat := (finish - start).toNat

structure Bucket (α : Type) where
  tokens : α
  updatedAt : Instant

namespace Bucket

variable {α : Type} [Amount α]

/-- A full bucket. -/
def full (capacity : α) (now : Instant) : Bucket α := ⟨capacity, now⟩

/-- What flowed in since the last update, as far as it fits. -/
def refilled (b : Bucket α) (capacity rate : α) (now : Instant) : α :=
  Amount.lesser
    (Amount.add b.tokens (Amount.mul (Amount.seconds (elapsed b.updatedAt now)) rate)) capacity

/-- Refills the bucket and takes a token, if there is a whole one. -/
def draw (b : Bucket α) (capacity rate : α) (now : Instant) : Bucket α × Bool :=
  let tokens := b.refilled capacity rate now
  match Amount.takeOne? tokens with
  | some rest => (⟨rest, now⟩, true)
  | none => (⟨tokens, now⟩, false)

end Bucket

end TraceSampler.Quota
