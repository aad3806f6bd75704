import TraceSampler.Header.Failure
import TraceSampler.Log.Record
import TraceSampler.Span.Context

/-!
# The trace parent header

`version-trace-span-flags` in hexadecimal digits of fixed widths and either case, and for versions
to come a tail behind one more hyphen. A header that breaks the format, names a version that can
never be, or identifies nothing, is refused.
-/

namespace TraceSampler

/-- Why a trace parent header is refused. -/
inductive TraceParentError
  | malformed
  | forbiddenVersion
  /-- Version `00` ends with the flags. -/
  | tailInFirstVersion
  | zeroTraceId
  | zeroSpanId
  deriving DecidableEq, Repr

def TraceParentError.reason : TraceParentError → String
  | .malformed => "invalid traceparent"
  | .forbiddenVersion => "`ff` is an invalid traceparent version"
  | .tailInFirstVersion =>
    "traceparent with version `00` should contain only 4 values delimited by `-`"
  | .zeroTraceId => "`0` value for trace_id is invalid"
  | .zeroSpanId => "`0` value for span_id is invalid"

/-- The name of the header. -/
def traceParentHeader : String := "traceparent"

/-- What is said of a header that is refused. -/
def TraceParentError.message (e : TraceParentError) : String :=
  (HeaderFailure.mk .extract traceParentHeader e.reason).message

/-- The identity that a trace parent header conveys. -/
structure TraceParent where
  traceId : TraceId
  spanId : SpanId
  flags : BitVec 8
  deriving DecidableEq, Repr

namespace TraceParent

/-- The fields of a header as they are written. -/
structure Fields where
  version : List Char
  trace : List Char
  span : List Char
  flags : List Char
  /-- Everything from the hyphen behind the flags on. -/
  tail : List Char
  deriving DecidableEq, Repr

/-- So many hexadecimal digits from the front of a text. -/
def takeHex? (width : Nat) (s : List Char) : Option (List Char × List Char) :=
  let digits := s.take width
  if digits.length == width && digits.all Text.Hex.isDigit then some (digits, s.drop width)
  else none

/-- What stands behind a hyphen. -/
def dropHyphen? : List Char → Option (List Char)
  | '-' :: r => some r
  | _ => none

/-- A tail is absent, or starts with a hyphen and stays on one line. -/
def isTail (s : List Char) : Bool :=
  match s with
  | [] => true
  | '-' :: r => !r.contains '\n'
  | _ => false

/-- Cuts a header into its fields. -/
def fields? (s : List Char) : Option Fields := do
  let (version, s) ← takeHex? 2 s
  let (trace, s) ← takeHex? 32 (← dropHyphen? s)
  let (span, s) ← takeHex? 16 (← dropHyphen? s)
  let (flags, tail) ← takeHex? 2 (← dropHyphen? s)
  if isTail tail then some ⟨version, trace, span, flags, tail⟩ else none

/-- The version that headers are written in. -/
def isFirstVersion (version : List Char) : Bool := version == ['0', '0']

/-- The version that no header may have, in letters of one case. -/
def isForbiddenVersion (version : List Char) : Bool :=
  version == ['f', 'f'] || version == ['F', 'F']

/-- The number that hexadecimal digits denote. -/
def number (digits : List Char) : Nat := (Text.Hex.read? digits).getD 0

/-- Reads a trimmed header. -/
def read (s : List Char) : Except TraceParentError TraceParent :=
  match fields? s with
  | none => .error .malformed
  | some f =>
    if isForbiddenVersion f.version then .error .forbiddenVersion
    else if isFirstVersion f.version && !f.tail.isEmpty then .error .tailInFirstVersion
    else if number f.trace = 0 then .error .zeroTraceId
    else if number f.span = 0 then .error .zeroSpanId
    else
      .ok
        { traceId := BitVec.ofNat 128 (number f.trace)
          spanId := BitVec.ofNat 64 (number f.span)
          flags := BitVec.ofNat 8 (number f.flags) }

/-- What is logged while a trimmed header is read: a version that is not known yet, and why the
header is refused. -/
def readLog (s : List Char) : List Log.Record :=
  let unknown := match fields? s with
    | some f =>
      if isForbiddenVersion f.version || isFirstVersion f.version then []
      else
        [.warn ("Unsupported traceparent version " ++ String.ofList f.version ++
          ", still attempting to parse")]
    | none => []
  let refused := match read s with
    | .ok _ => []
    | .error e => [.debug e.message]
  unknown ++ refused

end TraceParent

end TraceSampler
