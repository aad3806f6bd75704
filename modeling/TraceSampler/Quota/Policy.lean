import TraceSampler.Pattern

/-!
# Local policy

What the owner of the process decides about tracing: for all requests, for trigger-trace requests,
and for the requests to some resources. The policy only narrows what the settings allow.
-/

namespace TraceSampler.Quota

/-- Turns tracing on or off for the requests that a pattern picks out. -/
structure ResourceRule where
  pattern : Pattern
  tracing : Bool

namespace ResourceRule

/-- Reads the pattern of a rule; none if it is no pattern. -/
def ofPattern? (pattern : String) (tracing : Bool) : Option ResourceRule :=
  (Pattern.compile? pattern).map fun p => ⟨p, tracing⟩

/-- One of the signals of a request matches. -/
def applies (r : ResourceRule) (signals : List String) : Bool := signals.any r.pattern.isMatch

end ResourceRule

structure Policy where
  tracing : Option Bool := none
  trigger : Option Bool := none
  resources : List ResourceRule := []

namespace Policy

/-- Whether a request may be traced: as the first rule says that applies to it, or else as the
policy says for all requests. -/
def allowsTracing (p : Policy) (signals : List String) : Bool :=
  match p.resources.find? (·.applies signals) with
  | some rule => rule.tracing
  | none => p.tracing.getD true

def allowsTrigger (p : Policy) : Bool := p.trigger.getD true

end Policy

end TraceSampler.Quota
