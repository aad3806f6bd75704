import TraceSampler.Header.TraceState
import TraceSampler.Request.Answer
import TraceSampler.Span.Attribute

/-!
# Sampling results

What becomes of a span: whether it is recorded and sent, the attributes that tell why, and the
answer to the trace options of the request.
-/

namespace TraceSampler

inductive SamplingDecision
  | drop
  | recordOnly
  | recordAndSample
  deriving DecidableEq, Repr

namespace SamplingDecision

def name : SamplingDecision → String
  | .drop => "DROP"
  | .recordOnly => "RECORD_ONLY"
  | .recordAndSample => "RECORD_AND_SAMPLE"

/-- The name in log lines. -/
def label : SamplingDecision → String
  | .drop => "Drop"
  | .recordOnly => "RecordOnly"
  | .recordAndSample => "RecordAndSample"

end SamplingDecision

structure SamplingResult where
  decision : SamplingDecision
  attributes : Attributes
  /-- The answer to trace options, spelled for the trace state. -/
  answer : Option String := none

namespace SamplingResult

/-- The attributes that tell the exporter how a span is to be treated. -/
def markers (detailed metrics : Bool) : Attributes :=
  .ofList
    [("sw.internal.detailedTracing", .bool detailed), ("sw.internal.metrics", .bool metrics),
      ("sw.internal.sampler", .bool true)]

/-- A span whose local parent is sampled. -/
def parentSampled : SamplingResult := ⟨.recordAndSample, markers true true, none⟩

/-- A span whose local parent is not sampled. -/
def parentNotSampled : SamplingResult := ⟨.drop, markers false false, none⟩

/-- A span that only counts in the metrics. -/
def metricsOnly : SamplingResult := ⟨.recordOnly, markers false true, none⟩

/-- A span that leaves no trace at all. -/
def notTraced : SamplingResult := ⟨.drop, markers false false, none⟩

/-- The result with more attributes, which take precedence, and with the answer to trace
options. -/
def wrap (r : SamplingResult) (additional : Attributes) (answer : Option String) :
    SamplingResult :=
  { r with
    attributes := r.attributes.merge additional
    answer := answer.map OptionsAnswer.sanitize }

/-- The trace state of the span: that of its parent, with the answer to trace options. -/
def traceState (r : SamplingResult) (parent : TraceState) : TraceState :=
  match r.answer with
  | some answer => parent.insert TraceState.responseKey answer
  | none => parent

end SamplingResult

end TraceSampler
