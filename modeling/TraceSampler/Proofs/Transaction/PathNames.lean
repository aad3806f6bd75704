import TraceSampler.Proofs.ExpiringCache
import TraceSampler.Transaction.Namer

/-!
# The names kept for paths

A namer keeps the names that it made from paths. The cache is there for speed alone: a namer that
makes the name of every path anew gives the same answers and lets the same names through, whatever
happens to the two of them, however many entries are pushed out and however old others get.

How the name of a path is come by is a parameter of `stepBy`; with `pathName` it is the step of a
namer (`stepBy_pathName`), with `pathNameAnew` that of a namer without a cache. The two are compared
by `SameButPaths`, whose invariant is that every name kept is the name of its path.

* `SameButPaths.pathName`: a path gets the same name, kept or not.
* `SameButPaths.step`: one event.
* `run_eq_runBy_pathNameAnew`: whole runs.
-/

namespace TraceSampler.Transaction.Namer

/-! ## Namers with and without the cache -/

/-- A way to come by the name of a path. -/
abbrev PathNaming := Namer → String → Namer × String

/-- Makes the name of a path anew, and neither reads nor keeps one. -/
def pathNameAnew (c : NamingConfig) : PathNaming := fun n path => (n, nameOfPath c.pattern path)

/-- The text of a source. -/
def sourceNameBy (f : PathNaming) (n : Namer) : NameSource → Namer × String
  | .path path => f n path
  | .scheme name | .handler name | .route name | .span name => (n, name)

/-- The name of a transaction that has none registered. -/
def deriveBy (f : PathNaming) (c : NamingConfig) (n : Namer) (r : NameRequest) : Namer × String :=
  match c.source? r with
  | none => (n, unknownName)
  | some source =>
    let (n, name) := n.sourceNameBy f source
    let (registry, name) := n.registry.report (normalize (c.qualified name r.attributes))
    ({ n with registry }, name)

/-- The name of a transaction. -/
def nameBy (f : PathNaming) (c : NamingConfig) (n : Namer) (r : NameRequest) : Namer × String :=
  match n.customNames.get r.traceId n.now with
  | (customNames, some name) => ({ n with customNames }, name)
  | (customNames, none) => deriveBy f c { n with customNames } r

/-- The namer after an event, and its answer. -/
def stepBy (f : PathNaming) (c : NamingConfig) (n : Namer) : Event → Namer × Answer
  | .name r => let (n, s) := n.nameBy f c r; (n, .name s)
  | e => step c n e

/-- The namer after a run, and the answers of the run in their order. -/
def runBy (f : PathNaming) (c : NamingConfig) (n : Namer) (events : List Event) :
    Namer × List Answer :=
  TraceSampler.run (stepBy f c) n events

theorem sourceNameBy_pathName (c : NamingConfig) (n : Namer) (source : NameSource) :
    n.sourceNameBy (pathName c) source = n.sourceName c source := by
  cases source with
  | path path => rfl
  | scheme name => rfl
  | handler name => rfl
  | route name => rfl
  | span name => rfl

theorem deriveBy_pathName (c : NamingConfig) (n : Namer) (r : NameRequest) :
    n.deriveBy (pathName c) c r = n.derive c r := by
  unfold deriveBy derive
  cases c.source? r with
  | none => rfl
  | some source => simp only [sourceNameBy_pathName]

theorem nameBy_pathName (c : NamingConfig) (n : Namer) (r : NameRequest) :
    n.nameBy (pathName c) c r = n.name c r := by
  cases hget : n.customNames.get r.traceId n.now with
  | mk customNames registered =>
    cases registered with
    | some name => simp only [nameBy, Namer.name, hget]
    | none => simp only [nameBy, Namer.name, hget, deriveBy_pathName]

/-- With its own way to come by the name of a path, the step is that of the namer. -/
theorem stepBy_pathName (c : NamingConfig) (n : Namer) (e : Event) :
    stepBy (pathName c) c n e = step c n e := by
  cases e with
  | name r => simp only [stepBy, step, nameBy_pathName]
  | custom traceId s => rfl
  | publish limit => rfl
  | dropFeed => rfl
  | clear => rfl
  | reset => rfl
  | advance ns => rfl

theorem runBy_pathName (c : NamingConfig) (n : Namer) (events : List Event) :
    runBy (pathName c) c n events = run c n events := by
  have hstep : stepBy (pathName c) c = step c := by
    funext n e
    exact stepBy_pathName c n e
  rw [runBy, hstep, run]

/-! ## The same but for the names kept -/

/-- The namers differ at most in the names kept for paths, and the first one keeps right ones. -/
structure SameButPaths (c : NamingConfig) (n m : Namer) : Prop where
  now : n.now = m.now
  registry : n.registry = m.registry
  customNames : n.customNames = m.customNames
  kept : n.pathNames.Remembers (nameOfPath c.pattern)

namespace SameButPaths

variable {c : NamingConfig} {n m : Namer}

/-- A path gets the same name whether it is kept or made anew, and keeping it is right. -/
theorem pathName (h : SameButPaths c n m) (path : String) :
    (n.pathName c path).2 = (pathNameAnew c m path).2 ∧
      SameButPaths c (n.pathName c path).1 (pathNameAnew c m path).1 := by
  have hread : (n.pathNames.get path n.now).1.Remembers (nameOfPath c.pattern) :=
    h.kept.get path n.now
  obtain ⟨cache, found, hget⟩ : ∃ cache found, n.pathNames.get path n.now = (cache, found) :=
    ⟨_, _, rfl⟩
  rw [hget] at hread
  cases found with
  | some name =>
    have hname : name = nameOfPath c.pattern path := h.kept.eq_of_get (congrArg Prod.snd hget)
    simp only [Namer.pathName, hget]
    exact ⟨hname, h.now, h.registry, h.customNames, hread⟩
  | none =>
    simp only [Namer.pathName, hget]
    exact ⟨rfl, h.now, h.registry, h.customNames, hread.put path n.now⟩

/-- A source has the same text. -/
theorem sourceName (h : SameButPaths c n m) (source : NameSource) :
    (n.sourceName c source).2 = (m.sourceNameBy (pathNameAnew c) source).2 ∧
      SameButPaths c (n.sourceName c source).1 (m.sourceNameBy (pathNameAnew c) source).1 := by
  cases source with
  | path path => exact h.pathName path
  | scheme name => exact ⟨rfl, h⟩
  | handler name => exact ⟨rfl, h⟩
  | route name => exact ⟨rfl, h⟩
  | span name => exact ⟨rfl, h⟩

/-- The registry judges the same name. -/
theorem derive (h : SameButPaths c n m) (r : NameRequest) :
    (n.derive c r).2 = (m.deriveBy (pathNameAnew c) c r).2 ∧
      SameButPaths c (n.derive c r).1 (m.deriveBy (pathNameAnew c) c r).1 := by
  cases hsource : c.source? r with
  | none =>
    simp only [Namer.derive, deriveBy, hsource, true_and]
    exact h
  | some source =>
    obtain ⟨htext, hsame⟩ := h.sourceName source
    simp only [Namer.derive, deriveBy, hsource, htext, hsame.registry, true_and]
    exact ⟨hsame.now, rfl, hsame.customNames, hsame.kept⟩

/-- A registered name goes before all others in both. -/
theorem name (h : SameButPaths c n m) (r : NameRequest) :
    (n.name c r).2 = (m.nameBy (pathNameAnew c) c r).2 ∧
      SameButPaths c (n.name c r).1 (m.nameBy (pathNameAnew c) c r).1 := by
  obtain ⟨customNames, found, hget⟩ : ∃ customNames found,
      n.customNames.get r.traceId n.now = (customNames, found) := ⟨_, _, rfl⟩
  have hget' : m.customNames.get r.traceId m.now = (customNames, found) := by
    rw [← h.customNames, ← h.now, hget]
  cases found with
  | some registered =>
    simp only [Namer.name, nameBy, hget, hget', true_and]
    exact ⟨h.now, h.registry, rfl, h.kept⟩
  | none =>
    have hread : SameButPaths c { n with customNames } { m with customNames } :=
      ⟨h.now, h.registry, rfl, h.kept⟩
    simp only [Namer.name, nameBy, hget, hget']
    exact hread.derive r

/-- Every event is answered alike, and leaves the two alike. -/
theorem step (h : SameButPaths c n m) (e : Event) :
    (Namer.step c n e).2 = (stepBy (pathNameAnew c) c m e).2 ∧
      SameButPaths c (Namer.step c n e).1 (stepBy (pathNameAnew c) c m e).1 := by
  cases e with
  | name r =>
    obtain ⟨hanswer, hsame⟩ := h.name r
    exact ⟨congrArg Answer.name hanswer, hsame⟩
  | custom traceId s =>
    simp only [Namer.step, stepBy, setCustom]
    split
    · exact ⟨rfl, h⟩
    · refine ⟨rfl, h.now, h.registry, ?_, h.kept⟩
      simp only [h.customNames, h.now]
  | publish limit =>
    have hregistry : (n.updateFeed (·.send limit)).registry =
        (m.updateFeed (·.send limit)).registry := by
      simp only [updateFeed, h.registry]
    exact ⟨rfl, h.now, hregistry, h.customNames, h.kept⟩
  | dropFeed =>
    have hregistry : (n.updateFeed LimitFeed.close).registry =
        (m.updateFeed LimitFeed.close).registry := by
      simp only [updateFeed, h.registry]
    exact ⟨rfl, h.now, hregistry, h.customNames, h.kept⟩
  | clear => exact ⟨rfl, h.now, congrArg Registry.clear h.registry, h.customNames, h.kept⟩
  | reset =>
    -- nothing is kept any more, so nothing that is kept is wrong
    have hempty : n.pathNames.clear.Remembers (nameOfPath c.pattern) :=
      ExpiringCache.Remembers.clear n.pathNames
    exact ⟨rfl, h.now, congrArg Registry.reset h.registry, h.customNames, hempty⟩
  | advance ns =>
    have hnow : n.now + (ns : Int) = m.now + (ns : Int) := by rw [h.now]
    exact ⟨rfl, hnow, h.registry, h.customNames, h.kept⟩

end SameButPaths

/-! ## Runs -/

/-- A namer comes by the names of paths through its cache. If it starts without any name kept, it
gives the answers of one that makes the name of every path anew and is the same otherwise, and the
registries of the two are the same: the names let through, the limit, and whether it was
exceeded. -/
theorem run_eq_runBy_pathNameAnew (c : NamingConfig) (n : Namer) (events : List Event)
    (hnew : n.pathNames.entries = []) :
    run c n events = runBy (pathName c) c n events ∧
      (run c n events).2 = (runBy (pathNameAnew c) c n events).2 ∧
      (run c n events).1.registry = (runBy (pathNameAnew c) c n events).1.registry := by
  have hstart : SameButPaths c n n :=
    ⟨rfl, rfl, rfl, ExpiringCache.Remembers.of_entries_eq_nil hnew⟩
  obtain ⟨hanswers, hend⟩ := run_simulates (step c) (fun _ _ e h => h.step e) hstart events
  exact ⟨(runBy_pathName c n events).symm, hanswers, hend.registry⟩

/-- A request that is named by its path. -/
def pathNamed (path : String) : NameRequest :=
  { traceId := 1, span := "GET", attributes := .ofList [("url.path", .text path)] }

/-- One path is named anew, found in the cache, found expired, and named anew after a reset; in
between a limit of one name turns another path away. -/
theorem run_eq_runBy_pathNameAnew_expired :
    let c : NamingConfig := { pattern := some ["p2", "p9"] }
    let n := following (some 1)
    let events := [Event.name (pathNamed "/Shop/Cart/7"), .name (pathNamed "/Shop/Cart/7"),
      .name (pathNamed "/login"), .advance 1200000000001, .name (pathNamed "/Shop/Cart/7"), .reset,
      .name (pathNamed "/Shop/Cart/7")]
    (run c n (events.take 3)).1.pathNames.size = 2 ∧
      (run c n events).2 = [.name "cart", .name "cart", .name "other", .nothing, .name "cart",
        .nothing, .name "cart"] ∧
      run c n events = runBy (pathName c) c n events ∧
      (run c n events).2 = (runBy (pathNameAnew c) c n events).2 ∧
      (run c n events).1.registry = (runBy (pathNameAnew c) c n events).1.registry :=
  ⟨by decide +kernel, by decide +kernel, run_eq_runBy_pathNameAnew _ _ _ rfl⟩

end TraceSampler.Transaction.Namer
