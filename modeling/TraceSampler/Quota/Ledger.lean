import TraceSampler.Quota.Policy
import TraceSampler.Quota.Settings
import TraceSampler.Request.Options
import TraceSampler.Run

/-!
# Deciding on requests

The ledger holds the time, the settings last published and the token buckets. A request is traced
when tracing is on for it, it is selected, and the bucket of its kind has a token left. Selected is
a request whose parent was sampled; without a parent, one that asks for a trace while that is
allowed, or one that the dice pick at the sample rate.
-/

namespace TraceSampler.Quota

/-- What is known of a request when its verdict is asked for. -/
structure Ask where
  /-- The name of the span. -/
  name : String
  /-- The trace parent, if the request goes on with a trace. -/
  parent : Option String := none
  options : Option TraceOptions := none
  signals : List String := []
  /-- A number drawn at random below the sample resolution. -/
  dice : Nat := 0

structure Ledger (α : Type) where
  now : Instant := 0
  settings : Option (Settings α) := none
  buckets : PerBucket (Option (Bucket α)) := .all none

/-- The sample rate that selects every request. -/
def sampleResolution : Int := 1000000

/-- Whether the dice select a request at a sample rate. -/
def roll (sampleRate : Int) (dice : Nat) : Bool :=
  if sampleRate ≤ 0 then false
  else if sampleRate ≥ sampleResolution then true
  else (dice : Int) < sampleRate

/-- Whether the flags of a trace parent say that it was sampled. -/
def parentSampled (parent : String) : Except VerdictError Bool :=
  match Text.split '-' parent.toList with
  | [_, _, _, flags] =>
    match Text.Hex.readByte? flags with
    | some n => .ok (n % 2 == 1)
    | none => .error (.invalidParent parent)
  | _ => .error (.invalidParent parent)

namespace Ledger

variable {α : Type}

/-- The settings that hold now. -/
def current? (l : Ledger α) : Option (Settings α) :=
  l.settings.filter fun s => !s.isExpired l.now

/-- The settings as the policy narrows them for a request. -/
def narrowed (p : Policy) (s : Settings α) (signals : List String) : TraceConfig α :=
  { s.config with
    tracing := s.tracing && p.allowsTracing signals
    trigger := s.trigger && p.allowsTrigger }

/-- The kind of request that the options ask for. -/
def requestedKind (a : Ask) : RequestKind := (a.options.map TraceOptions.requestKind).getD .regular

/-- The kind that a request has; asking for a trace only makes a difference to a new one. -/
def kindOf (a : Ask) : RequestKind := if a.parent.isSome then .regular else requestedKind a

/-- Whether a request is selected under a configuration with tracing on. -/
def selected (c : TraceConfig α) (a : Ask) : Except VerdictError Bool :=
  match a.parent with
  | some parent => parentSampled parent
  | none => .ok (if (kindOf a).isTrigger then c.trigger else roll c.sampleRate a.dice)

variable [Amount α]

/-- Takes a token from a bucket, which is full at its first use. -/
def takeToken (l : Ledger α) (c : TraceConfig α) (k : BucketKind) : Ledger α × Bool :=
  let bucket := (l.buckets.get k).getD (.full (c.capacity k) l.now)
  let (bucket, taken) := bucket.draw (c.capacity k) (c.rate k) l.now
  ({ l with buckets := l.buckets.set k (some bucket) }, taken)

/-- The verdict on a request, and the ledger after it. -/
def decide (p : Policy) (l : Ledger α) (a : Ask) :
    Ledger α × Except VerdictError (Verdict α) :=
  match l.current? with
  | none => (l, .ok (.withoutSettings (requestedKind a)))
  | some settings =>
    let config := narrowed p settings a.signals
    let kind := kindOf a
    let verdict : Verdict α :=
      { sampled := false, measured := config.tracing, kind, config := some config,
        exhausted := false }
    if !config.tracing then (l, .ok verdict)
    else
      match selected config a with
      | .error e => (l, .error e)
      | .ok false => (l, .ok verdict)
      | .ok true =>
        let (l, taken) := l.takeToken config kind.bucket
        (l, .ok { verdict with sampled := taken, exhausted := !taken })

/-- What is logged of a verdict. -/
def log (name : String) (answer : Except VerdictError (Verdict α)) : List Log.Record :=
  match answer with
  | .error _ => []
  | .ok v =>
    if v.config.isNone then [.debug ("No sampling settings available, not tracing " ++ name)]
    else
      let flag := fun (b : Bool) => if b then "true" else "false"
      [.trace ("Trace decision for " ++ name ++ ": sampled=" ++ flag v.sampled ++
        " request_type=" ++ v.kind.name ++ " exhausted=" ++ flag v.exhausted)]

/-! ## Runs -/

/-- What happens to a ledger. -/
inductive Event (α : Type)
  | publish (settings : Option (Settings α))
  | advance (nanoseconds : Nat)
  | ask (a : Ask)

/-- The ledger after an event, and the verdict that the event asked for. -/
def step (p : Policy) (l : Ledger α) :
    Event α → Ledger α × Option (Except VerdictError (Verdict α))
  | .publish settings => ({ l with settings }, none)
  | .advance ns => ({ l with now := l.now + ns }, none)
  | .ask a =>
    let (l, answer) := l.decide p a
    (l, some answer)

/-- The ledger after a run, and the answers of the run in their order. -/
def run (p : Policy) (l : Ledger α) (events : List (Event α)) :
    Ledger α × List (Option (Except VerdictError (Verdict α))) :=
  TraceSampler.run (step p) l events

end Ledger

end TraceSampler.Quota
