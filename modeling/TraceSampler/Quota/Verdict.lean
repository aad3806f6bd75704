import TraceSampler.Quota.Amount
import TraceSampler.Request.Kind

/-!
# Verdicts on requests

Whether a request is traced, and on what grounds: the configuration in force when it was decided
and whether a token bucket had run dry.
-/

namespace TraceSampler.Quota

/-- Where a sample rate comes from. -/
inductive RateSource
  | file
  | default
  | oboe
  | lastOboe
  | defaultMisconfigured
  | oboeDefault
  | custom
  deriving DecidableEq, Repr

def RateSource.code : RateSource → Nat
  | .file => 1
  | .default => 2
  | .oboe => 3
  | .lastOboe => 4
  | .defaultMisconfigured => 5
  | .oboeDefault => 6
  | .custom => 7

/-- The source with a code. -/
def RateSource.ofCode? (n : Nat) : Option RateSource :=
  match n with
  | 1 => some .file
  | 2 => some .default
  | 3 => some .oboe
  | 4 => some .lastOboe
  | 5 => some .defaultMisconfigured
  | 6 => some .oboeDefault
  | 7 => some .custom
  | _ => none

/-- The size of a token bucket and how many tokens flow into it each second. -/
structure BucketSettings (α : Type) where
  capacity : α
  rate : α

/-- The configuration that a request is decided on. -/
structure TraceConfig (α : Type) where
  sampleRate : Int
  source : RateSource
  tracing : Bool
  trigger : Bool
  buckets : PerBucket (Option (BucketSettings α))

namespace TraceConfig

variable {α : Type} [Amount α]

/-- A bucket that is not configured holds nothing. -/
def capacity (c : TraceConfig α) (k : BucketKind) : α :=
  ((c.buckets.get k).map BucketSettings.capacity).getD Amount.zero

/-- Nothing flows into a bucket that is not configured. -/
def rate (c : TraceConfig α) (k : BucketKind) : α :=
  ((c.buckets.get k).map BucketSettings.rate).getD Amount.zero

end TraceConfig

/-- The verdict on a request. -/
structure Verdict (α : Type) where
  sampled : Bool
  /-- The request counts in the metrics. -/
  measured : Bool
  kind : RequestKind
  /-- The configuration, if there was one. -/
  config : Option (TraceConfig α)
  /-- The request was selected but its bucket had no token left. -/
  exhausted : Bool

/-- The verdict while no settings are known. -/
def Verdict.withoutSettings {α : Type} (kind : RequestKind) : Verdict α :=
  { sampled := false, measured := false, kind, config := none, exhausted := false }

/-- Why there is no verdict. -/
inductive VerdictError
  /-- The parent does not read as a trace parent. -/
  | invalidParent (parent : String)
  | internal (reason : String)
  deriving DecidableEq, Repr

def VerdictError.message : VerdictError → String
  | .invalidParent parent => "invalid parent context: " ++ parent
  | .internal reason => "quota machinery failure: " ++ reason

end TraceSampler.Quota
