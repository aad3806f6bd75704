import TraceSampler.Header.Exchange
import TraceSampler.Quota.Ledger
import TraceSampler.Sampling.Result
import TraceSampler.Transaction.Namer

/-!
# Sampling spans

Every span of the process is sampled once, when it starts. A span with a local parent follows it. A
span that starts the work of this process is named and decided on: it goes on with a trace when its
remote parent was touched by this library before, and starts a new one otherwise.
-/

namespace TraceSampler

/-- The span that is sampled. -/
structure SpanRequest where
  context : RequestContext
  traceId : TraceId
  name : String
  kind : SpanKind
  attributes : Attributes

/-- Who decides on requests, with a state of type `σ`. -/
abbrev DecisionMaker (σ : Type) :=
  σ → Quota.Ask → σ × Except Quota.VerdictError (Quota.Verdict Float)

/-- What a sampler remembers from one span to the next. -/
structure Sampler (σ : Type) where
  maker : σ
  namer : Transaction.Namer := {}

namespace SpanRequest

/-- The URL of a request: as an attribute gives it, or put together from its parts. -/
def url (a : Attributes) : String :=
  match a.text? "url.full" with
  | some url => url
  | none =>
    let scheme := ((a.text? "url.scheme").map fun s => s ++ "://").getD ""
    scheme ++ (a.text? "server.address").getD "" ++ (a.text? "url.path").getD ""

/-- What is logged while the URL of a request is found. -/
def urlLog (a : Attributes) : List Log.Record :=
  match a.text? "url.full" with
  | some _ => []
  | none => [.trace ("Constructed url " ++ url a)]

/-- What the rules of a policy are matched against: the URL, and the kind and name of the span. -/
def signals (name : String) (kind : SpanKind) (a : Attributes) : List String :=
  [url a, kind.name ++ ":" ++ Text.strip name]

/-- How a span begins. -/
inductive Origin
  /-- It follows a parent in this process. -/
  | inProcess (sampled : Bool)
  /-- It starts a trace. -/
  | newTrace
  /-- It goes on with the trace of a remote parent, whose identifier in the trace state is given. -/
  | continued (parent : SpanContext) (parentId : String)
  deriving DecidableEq, Repr

/-- How a span begins, as its context tells. A remote parent counts only where the trace state
names the span that this library last saw. -/
def Origin.of (c : RequestContext) : Origin :=
  match c.span.filter SpanContext.isValid with
  | none => .newTrace
  | some parent =>
    if parent.isRemote then
      match parent.state.vendorParent? with
      | some parentId => .continued parent parentId
      | none => .newTrace
    else .inProcess parent.isSampled

/-- The span that goes on with a trace, if it does. -/
def Origin.parentText? : Origin → Option String
  | .continued parent _ => some parent.traceParent
  | _ => none

def Origin.isNewTrace : Origin → Bool
  | .continued _ _ => false
  | _ => true

/-- What the decision maker is asked. -/
def ask (r : SpanRequest) (o : Origin) (dice : Nat) : Quota.Ask :=
  { name := r.name, parent := o.parentText?, options := r.context.options
    signals := signals r.name r.kind r.attributes, dice }

/-- The attributes that a span gets whatever is decided: where it comes from and what its
transaction is called. -/
def additional (r : SpanRequest) (o : Origin) (transaction : String) : Attributes :=
  let parent := match o with
    | .continued _ parentId => [("sw.tracestate_parent_id", AttributeValue.text parentId)]
    | _ => []
  let isRemote := (r.context.span.map SpanContext.isRemote).getD false
  let inbound := if isRemote then r.context.inboundState.toList else []
  .ofList (parent ++ inbound.map (fun s => ("sw.w3c.tracestate", AttributeValue.text s)) ++
    [("sw.transaction", .text transaction)])

end SpanRequest

namespace SamplingResult

/-- The attributes that tell at which rate and from which bucket a span was sampled. -/
def configAttributes (v : Quota.Verdict Float) : List (String × AttributeValue) :=
  match v.config with
  | none => []
  | some config =>
    [("sw.SampleRate", .whole config.sampleRate), ("sw.SampleSource", .whole config.source.code),
      ("sw.BucketRate", .real (config.rate v.kind.bucket)),
      ("sw.BucketCapacity", .real (config.capacity v.kind.bucket))]

/-- The attributes that the options of a request bring to a new trace. -/
def optionAttributes (o : TraceOptions) (kind : RequestKind) : List (String × AttributeValue) :=
  o.custom.map (fun (k, v) => (k, AttributeValue.text v)) ++
    (if kind.isTrigger then [("TriggeredTrace", .bool true)] else []) ++
    (o.swKeys.toList.map fun s => ("SWKeys", AttributeValue.text s))

/-- The result for the first span of a process on a verdict. -/
def ofVerdict (v : Quota.Verdict Float) (options : Option TraceOptions) (isNewTrace : Bool) :
    SamplingResult :=
  if !v.sampled then if v.measured then metricsOnly else notTraced
  else
    let asked := if isNewTrace then options.toList else []
    let added := configAttributes v ++ [("sw.RequestType", .text v.kind.name)] ++
      asked.flatMap fun o => optionAttributes o v.kind
    { decision := .recordAndSample
      attributes := added.foldl (fun a (k, x) => a.insert k x) (markers true v.measured) }

end SamplingResult

namespace Sampler

variable {σ : Type}

/-- What the sampling of the first span of a process comes to, once it is named and decided on. -/
def conclude (r : SpanRequest) (o : SpanRequest.Origin) (transaction : String)
    (answer : Except Quota.VerdictError (Quota.Verdict Float)) : SamplingResult :=
  let additional := r.additional o transaction
  match answer with
  | .error _ => SamplingResult.notTraced.wrap additional none
  | .ok v =>
    let reply := r.context.options.map fun options => (OptionsAnswer.of options v o.isNewTrace).text
    (SamplingResult.ofVerdict v r.context.options o.isNewTrace).wrap additional reply

/-- Samples a span that starts the work of this process. -/
def sampleRoot (config : Transaction.NamingConfig) (decide : DecisionMaker σ) (s : Sampler σ)
    (r : SpanRequest) (o : SpanRequest.Origin) (dice : Nat) : Sampler σ × SamplingResult :=
  let (namer, transaction) := s.namer.name config ⟨r.traceId, r.name, r.attributes⟩
  let (maker, answer) := decide s.maker (r.ask o dice)
  ({ maker, namer }, conclude r o transaction answer)

/-- Samples a span. -/
def sample (config : Transaction.NamingConfig) (decide : DecisionMaker σ) (s : Sampler σ)
    (r : SpanRequest) (dice : Nat) : Sampler σ × SamplingResult :=
  match SpanRequest.Origin.of r.context with
  | .inProcess sampled =>
    (s, if sampled then .parentSampled else .parentNotSampled)
  | o => s.sampleRoot config decide r o dice

/-- What the decision maker is asked while a span is sampled, if it is asked. -/
def asked? (r : SpanRequest) (dice : Nat) : Option Quota.Ask :=
  match SpanRequest.Origin.of r.context with
  | .inProcess _ => none
  | o => some (r.ask o dice)

/-- What is logged while a span is sampled. `makerLog` tells what the decision maker logs. -/
def sampleLog (config : Transaction.NamingConfig) (decide : DecisionMaker σ)
    (makerLog : σ → Quota.Ask → List Log.Record) (s : Sampler σ) (r : SpanRequest) (dice : Nat) :
    List Log.Record :=
  let root := match asked? r dice with
    | none => []
    | some ask =>
      let refused := match (decide s.maker ask).2 with
        | .ok _ => []
        | .error e =>
          [Log.Record.debug ("Unable to make a trace decision for " ++ r.name ++
            ", not tracing: " ++ e.message)]
      SpanRequest.urlLog r.attributes ++
        s.namer.nameLog config ⟨r.traceId, r.name, r.attributes⟩ ++
        makerLog s.maker ask ++ refused
  let result := (s.sample config decide r dice).2
  root ++ [.trace ("Sampling decision for " ++ r.name ++ ": " ++ result.decision.label)]

/-! ## Runs -/

/-- What happens to a sampler whose decision maker is a ledger. -/
inductive Event
  | sample (r : SpanRequest) (dice : Nat)
  | publish (settings : Option (Quota.Settings Float))
  /-- Something that concerns the namer alone. -/
  | naming (e : Transaction.Namer.Event)
  | advance (nanoseconds : Nat)

/-- The sampler after an event, and the result that the event asked for. -/
def step (config : Transaction.NamingConfig) (p : Quota.Policy) (s : Sampler (Quota.Ledger Float)) :
    Event → Sampler (Quota.Ledger Float) × Option SamplingResult
  | .sample r dice =>
    let (s, result) := s.sample config (Quota.Ledger.decide p) r dice
    (s, some result)
  | .publish settings =>
    ({ s with maker := (Quota.Ledger.step p s.maker (.publish settings)).1 }, none)
  | .naming e => ({ s with namer := (Transaction.Namer.step config s.namer e).1 }, none)
  | .advance ns =>
    ({ maker := (Quota.Ledger.step p s.maker (.advance ns)).1
       namer := (Transaction.Namer.step config s.namer (.advance ns)).1 }, none)

/-- The sampler after a run, and the results of the run in their order. -/
def run (config : Transaction.NamingConfig) (p : Quota.Policy) (s : Sampler (Quota.Ledger Float))
    (events : List Event) : Sampler (Quota.Ledger Float) × List (Option SamplingResult) :=
  TraceSampler.run (step config p) s events

end Sampler

end TraceSampler
