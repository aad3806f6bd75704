import TraceSampler.Quota.Bucket
import TraceSampler.Quota.Verdict

/-!
# Sampling settings

What the service prescribes: the sample rate, whether tracing and trigger-tracing are on, and the
token buckets. Settings hold for a limited time after they were fetched.
-/

namespace TraceSampler.Quota

structure Settings (α : Type) where
  sampleRate : Int := 0
  source : RateSource := .default
  tracing : Bool := true
  trigger : Bool := true
  buckets : PerBucket (Option (BucketSettings α)) := .all none
  /-- How long the settings hold, in nanoseconds. -/
  lifetime : Nat := 120 * Amount.nanosPerSecond
  fetchedAt : Instant := 0

namespace Settings

variable {α : Type}

/-- The settings no longer hold. -/
def isExpired (s : Settings α) (now : Instant) : Bool := elapsed s.fetchedAt now > s.lifetime

/-- The configuration that the settings prescribe. -/
def config (s : Settings α) : TraceConfig α :=
  { sampleRate := s.sampleRate, source := s.source, tracing := s.tracing, trigger := s.trigger,
    buckets := s.buckets }

end Settings

end TraceSampler.Quota
