import TraceSampler.Header.Carrier
import TraceSampler.Header.TraceParent
import TraceSampler.Request.Options

/-!
# Taking and passing on trace headers

What a request brings along in its headers, and what goes out with the requests that it causes:
the span that it continues, the trace state, and the trace options with their signature.
-/

namespace TraceSampler

def traceStateHeader : String := "tracestate"

def optionsHeader : String := "x-trace-options"

def signatureHeader : String := "x-trace-options-signature"

/-- The headers that are read and written. -/
def traceHeaders : List String :=
  [traceParentHeader, traceStateHeader, optionsHeader, signatureHeader]

/-- What a request brings along. -/
structure RequestContext where
  /-- The span that the request continues. -/
  span : Option SpanContext := none
  options : Option TraceOptions := none
  /-- The options as they came, to be passed on. -/
  optionsText : Option String := none
  signature : Option String := none
  /-- The trace state as it came, if other vendors had a part in it. -/
  inboundState : Option String := none
  deriving DecidableEq, Repr

namespace RequestContext

/-- An entry of a trace state header that is not this library's own. -/
def isForeignEntry (entry : List Char) : Bool :=
  !(['s', 'w', '='] : List Char).isPrefixOf (Text.trim entry)

/-- The trace state of a carrier, where an entry of it belongs to another vendor. -/
def inboundState? (c : Carrier) : Option String :=
  (c.get? traceStateHeader).filter fun s => (Text.split ',' s.toList).any isForeignEntry

/-- The trimmed trace parent of a carrier. -/
def traceParent? (c : Carrier) : Option (List Char) :=
  (c.get? traceParentHeader).map fun s => Text.trim s.toList

/-- The span that a carrier conveys, with the trace state beside it. -/
def span? (c : Carrier) : Option SpanContext :=
  match (traceParent? c).map TraceParent.read with
  | some (.ok p) =>
    some
      { traceId := p.traceId, spanId := p.spanId, flags := p.flags, isRemote := true
        state := ((c.get? traceStateHeader).map TraceState.ofHeader).getD {} }
  | _ => none

/-- Takes the context of a request from its headers. -/
def extract (verify : Verifier) (c : Carrier) : RequestContext :=
  let header := c.get? optionsHeader
  let signature := c.get? signatureHeader
  let options := TraceOptions.read? verify header signature
  { span := span? c
    options
    optionsText := if options.isSome then header else none
    signature := if options.isSome then signature else none
    inboundState := inboundState? c }

/-- What is logged while the context of a request is taken. -/
def extractLog (verify : Verifier) (c : Carrier) : List Log.Record :=
  let parent := ((traceParent? c).map TraceParent.readLog).getD []
  let options :=
    (TraceOptions.read? verify (c.get? optionsHeader) (c.get? signatureHeader)).map
      TraceOptions.log
  parent ++ options.toList

/-- Puts a header that may be absent. -/
def setOptional (c : Carrier) (header : String) (value : Option String) : Carrier :=
  match value with
  | some v => c.set header v
  | none => c

/-- Passes a span and the options of the request on. A span that identifies nothing is not passed
on, and then neither are the options. -/
def inject (r : RequestContext) (s : SpanContext) (c : Carrier) : Carrier :=
  if s.isValid then
    let value := TraceState.vendorValue s.spanId s.isSampled
    let c := c.set traceStateHeader (s.state.outbound value).text
    let c := setOptional c optionsHeader r.optionsText
    setOptional c signatureHeader r.signature
  else c

/-- What is logged while a span is passed on. -/
def injectLog (s : SpanContext) : List Log.Record :=
  if s.isValid then []
  else [.debug (HeaderFailure.mk .inject traceStateHeader "invalid span context").message]

end RequestContext

end TraceSampler
