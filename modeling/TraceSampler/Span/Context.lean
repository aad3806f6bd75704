import TraceSampler.Header.TraceState

/-!
# Span contexts

What identifies a span to other processes: its trace, itself, the flags of the trace, and the trace
state that came with it.
-/

namespace TraceSampler

abbrev TraceId := BitVec 128

abbrev SpanId := BitVec 64

structure SpanContext where
  traceId : TraceId := 0
  spanId : SpanId := 0
  flags : BitVec 8 := 0
  /-- The context came from another process. -/
  isRemote : Bool := false
  state : TraceState := {}
  deriving DecidableEq, Repr

namespace SpanContext

/-- The flags of a trace that is sampled or not, and has no other flag. -/
def flagsOf (sampled : Bool) : BitVec 8 := if sampled then 1 else 0

/-- Both identifiers are other than zero. -/
def isValid (c : SpanContext) : Bool := c.traceId != 0 && c.spanId != 0

/-- The lowest flag is set. -/
def isSampled (c : SpanContext) : Bool := c.flags.getLsbD 0

def traceHex (c : SpanContext) : List Char := Text.Hex.fixed 32 c.traceId.toNat

def spanHex (c : SpanContext) : List Char := Text.Hex.fixed 16 c.spanId.toNat

/-- The identity of a span with the given two digits for its flags. -/
def textWithFlags (c : SpanContext) (flags : List Char) : String :=
  String.ofList ('0' :: '0' :: '-' :: c.traceHex ++ '-' :: c.spanHex ++ '-' :: flags)

/-- The trace parent header of the span. -/
def traceParent (c : SpanContext) : String :=
  c.textWithFlags (Text.Hex.fixed 2 c.flags.toNat)

end SpanContext

end TraceSampler
