import TraceSampler.Header.Carrier
import TraceSampler.Log.Record
import TraceSampler.Request.Answer
import TraceSampler.Span.Context

/-!
# Response headers

The response to a request names the span that served it and, where the client sent trace options,
answers them. The answer is taken from the trace state of the span.
-/

namespace TraceSampler

def traceReplyHeader : String := "X-Trace"

def optionsReplyHeader : String := "X-Trace-Options-Response"

namespace SpanContext

/-- The identity of the span, where the flags only say whether it is sampled. -/
def replyText (s : SpanContext) : String := s.textWithFlags (TraceState.sampledText s.isSampled)

/-- The answer to trace options that the trace state carries. -/
def optionsReply? (s : SpanContext) : Option String :=
  (s.state.get? TraceState.responseKey).map OptionsAnswer.desanitize

/-- Writes the response headers of a span; one that identifies nothing has none. -/
def respond (s : SpanContext) (c : Carrier) : Carrier :=
  if s.isValid then
    let c := c.set traceReplyHeader s.replyText
    match s.optionsReply? with
    | some answer => c.set optionsReplyHeader answer
    | none => c
  else c

/-- What is logged while response headers are written. -/
def respondLog (s : SpanContext) : List Log.Record :=
  if s.isValid then
    (s.optionsReply?.map fun answer =>
      Log.Record.trace ("Responding to X-Trace-Options with " ++ answer)).toList
  else []

end SpanContext

end TraceSampler
