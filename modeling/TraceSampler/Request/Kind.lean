/-!
# Kinds of requests

A request is sampled as regular traffic, or because its client asked for a trace, with or without
proof of who it is. Each kind draws on a token bucket of its own.
-/

namespace TraceSampler

inductive BucketKind
  | regular
  /-- For clients that proved who they are. -/
  | relaxed
  /-- For clients that did not. -/
  | strict
  deriving DecidableEq, Repr

inductive RequestKind
  | regular
  | authenticatedTrigger
  | unauthenticatedTrigger
  deriving DecidableEq, Repr, Inhabited

namespace RequestKind

def bucket : RequestKind → BucketKind
  | .regular => .regular
  | .authenticatedTrigger => .relaxed
  | .unauthenticatedTrigger => .strict

/-- The client asked for the trace. -/
def isTrigger (k : RequestKind) : Bool := k != .regular

def name : RequestKind → String
  | .regular => "REGULAR"
  | .authenticatedTrigger => "AUTHENTICATED_TRIGGER_TRACE"
  | .unauthenticatedTrigger => "UNAUTHENTICATED_TRIGGER_TRACE"

/-- The kind with a name. -/
def ofName? (s : String) : Option RequestKind :=
  match s with
  | "REGULAR" => some .regular
  | "AUTHENTICATED_TRIGGER_TRACE" => some .authenticatedTrigger
  | "UNAUTHENTICATED_TRIGGER_TRACE" => some .unauthenticatedTrigger
  | _ => none

/-- Different kinds of requests draw on different buckets. -/
theorem bucket_injective {a b : RequestKind} (h : a.bucket = b.bucket) : a = b := by
  cases a <;> cases b <;> first | rfl | cases h

end RequestKind

/-- One value for every kind of bucket. -/
structure PerBucket (α : Type) where
  regular : α
  relaxed : α
  strict : α
  deriving DecidableEq, Repr

namespace PerBucket

def all {α : Type} (a : α) : PerBucket α := ⟨a, a, a⟩

def get {α : Type} (p : PerBucket α) : BucketKind → α
  | .regular => p.regular
  | .relaxed => p.relaxed
  | .strict => p.strict

def set {α : Type} (p : PerBucket α) (k : BucketKind) (a : α) : PerBucket α :=
  match k with
  | .regular => { p with regular := a }
  | .relaxed => { p with relaxed := a }
  | .strict => { p with strict := a }

@[simp] theorem get_set_self {α : Type} (p : PerBucket α) (k : BucketKind) (a : α) :
    (p.set k a).get k = a := by
  cases k <;> rfl

theorem get_set_of_ne {α : Type} (p : PerBucket α) {k l : BucketKind} (h : l ≠ k) (a : α) :
    (p.set k a).get l = p.get l := by
  cases k <;> cases l <;> first | rfl | exact absurd rfl h

end PerBucket

end TraceSampler
