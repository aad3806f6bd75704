import TraceSampler.ExpiringCache
import TraceSampler.Run
import TraceSampler.Span.Context
import TraceSampler.Transaction.Path
import TraceSampler.Transaction.Registry
import TraceSampler.Transaction.Scheme

/-!
# Naming transactions

A transaction is named by the first of these that there is: the name registered for its trace, the
name that a scheme makes, its handler, its route, its URL path, and the name of its span. Names
that are not registered may get the domain in front, are brought into their plain form, and count
against the limit of names. Names made from paths are kept for a while.
-/

namespace TraceSampler.Transaction

structure NamingConfig where
  /-- The tokens that select the segments of a path. -/
  pattern : Option (List String) := none
  domainPrefixed : Bool := false
  schemes : SchemeChain := {}
  deriving DecidableEq, Repr

/-- What a span offers to name its transaction by. -/
inductive NameSource
  | scheme (name : String)
  | handler (name : String)
  | route (name : String)
  | path (path : String)
  | span (name : String)
  deriving DecidableEq, Repr

/-- The span whose transaction is to be named. -/
structure NameRequest where
  traceId : TraceId
  span : String
  attributes : Attributes

/-- The first thing that a span offers to name its transaction by. -/
def NamingConfig.source? (c : NamingConfig) (r : NameRequest) : Option NameSource :=
  let a := r.attributes
  match (c.schemes.name? a).filter fun n => !n.isEmpty with
  | some name => some (.scheme name)
  | none =>
    match a.text? "HandlerName", a.text? "http.route", a.text? "url.path" with
    | some name, _, _ => some (.handler name)
    | none, some name, _ => some (.route name)
    | none, none, some path => some (.path path)
    | none, none, none => if Text.isBlankText r.span then none else some (.span r.span)

/-- The host that a span is served by. -/
def domain? (a : Attributes) : Option String :=
  match a.nonemptyText? "http.host" with
  | some host => some host
  | none => a.nonemptyText? "server.address"

/-- The name behind the domain, with one slash between them if the name starts with none. -/
def prefixed (name : String) (a : Attributes) : String :=
  match domain? a with
  | some domain => if ['/'].isPrefixOf name.toList then domain ++ name else domain ++ "/" ++ name
  | none => name

/-- A name with its domain, if the configuration asks for it. -/
def NamingConfig.qualified (c : NamingConfig) (name : String) (a : Attributes) : String :=
  if c.domainPrefixed then prefixed name a else name

structure Namer where
  now : Int := 0
  registry : Registry := {}
  pathNames : ExpiringCache String String :=
    .empty ExpiringCache.standardCapacity ExpiringCache.standardLifetime .afterWrite
  customNames : ExpiringCache TraceId String :=
    .empty ExpiringCache.standardCapacity ExpiringCache.standardLifetime .afterAccess

namespace Namer

/-- A namer whose limit follows a feed that starts with the given value. -/
def following (first : Option Nat) : Namer :=
  { registry := { feed := some { latest := first } } }

/-- Registers a name for a trace. Neither the trace that is none nor the empty name can be
registered. -/
def setCustom (n : Namer) (traceId : TraceId) (name : String) : Namer × Bool :=
  if traceId = 0 || name.isEmpty then (n, false)
  else ({ n with customNames := n.customNames.put traceId (normalize name) n.now }, true)

def setCustomLog (traceId : TraceId) (name : String) : List Log.Record :=
  if traceId = 0 || name.isEmpty then [] else normalizeLog name

/-- The name of a path, which is kept for a while. -/
def pathName (c : NamingConfig) (n : Namer) (path : String) : Namer × String :=
  match n.pathNames.get path n.now with
  | (cache, some name) => ({ n with pathNames := cache }, name)
  | (cache, none) =>
    let name := nameOfPath c.pattern path
    ({ n with pathNames := cache.put path name n.now }, name)

/-- The text of a source. -/
def sourceName (c : NamingConfig) (n : Namer) : NameSource → Namer × String
  | .path path => n.pathName c path
  | .scheme name | .handler name | .route name | .span name => (n, name)

/-- The name of a transaction that has none registered. -/
def derive (c : NamingConfig) (n : Namer) (r : NameRequest) : Namer × String :=
  match c.source? r with
  | none => (n, unknownName)
  | some source =>
    let (n, name) := n.sourceName c source
    let (registry, name) := n.registry.report (normalize (c.qualified name r.attributes))
    ({ n with registry }, name)

/-- The name of a transaction. -/
def name (c : NamingConfig) (n : Namer) (r : NameRequest) : Namer × String :=
  match n.customNames.get r.traceId n.now with
  | (customNames, some name) => ({ n with customNames }, name)
  | (customNames, none) => derive c { n with customNames } r

/-- What is logged of a source. -/
def sourceLog (c : NamingConfig) (n : Namer) : NameSource → List Log.Record
  | .scheme name => [.trace ("Using scheme derived transaction name " ++ name)]
  | .handler name => [.trace ("Using HandlerName " ++ name ++ " as the transaction name")]
  | .route name => [.trace ("Using http.route " ++ name ++ " as the transaction name")]
  | .path path =>
    if (n.pathNames.get path n.now).2.isSome then []
    else
      [.trace ("Using path pattern to extract transaction name " ++ nameOfPath c.pattern path)]
  | .span _ => []

/-- What is logged while a transaction is named. -/
def nameLog (c : NamingConfig) (n : Namer) (r : NameRequest) : List Log.Record :=
  match n.customNames.get r.traceId n.now with
  | (_, some name) => [.trace ("Using custom transaction name " ++ name)]
  | (_, none) =>
    match c.source? r with
    | none => []
    | some source =>
      let name := c.qualified (n.sourceName c source).2 r.attributes
      n.sourceLog c source ++ normalizeLog name ++ n.registry.pollLog

def clear (n : Namer) : Namer := { n with registry := n.registry.clear }

/-- Forgets the names let through, the limit and the names made from paths. -/
def reset (n : Namer) : Namer :=
  { n with registry := n.registry.reset, pathNames := n.pathNames.clear }

/-! ## Runs -/

/-- What happens to a namer. -/
inductive Event
  | name (r : NameRequest)
  | custom (traceId : TraceId) (name : String)
  | publish (limit : Option Nat)
  | dropFeed
  | clear
  | reset
  | advance (nanoseconds : Nat)

/-- What an event is answered. -/
inductive Answer
  | name (s : String)
  | registered (done : Bool)
  | nothing
  deriving DecidableEq, Repr

def updateFeed (n : Namer) (f : LimitFeed → LimitFeed) : Namer :=
  { n with registry := { n.registry with feed := n.registry.feed.map f } }

/-- The namer after an event, and its answer. -/
def step (c : NamingConfig) (n : Namer) : Event → Namer × Answer
  | .name r => let (n, s) := n.name c r; (n, .name s)
  | .custom traceId s => let (n, done) := n.setCustom traceId s; (n, .registered done)
  | .publish limit => (n.updateFeed (·.send limit), .nothing)
  | .dropFeed => (n.updateFeed LimitFeed.close, .nothing)
  | .clear => (n.clear, .nothing)
  | .reset => (n.reset, .nothing)
  | .advance ns => ({ n with now := n.now + ns }, .nothing)

/-- The namer after a run, and the answers of the run in their order. -/
def run (c : NamingConfig) (n : Namer) (events : List Event) : Namer × List Answer :=
  TraceSampler.run (step c) n events

/-- What is logged of an event. -/
def stepLog (c : NamingConfig) (n : Namer) : Event → List Log.Record
  | .name r => n.nameLog c r
  | .custom traceId s => setCustomLog traceId s
  | .clear | .reset => n.registry.clearLog
  | .publish _ | .dropFeed | .advance _ => []

end Namer

end TraceSampler.Transaction
