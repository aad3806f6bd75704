import TraceSampler.Proofs.Quota.Enabled
import TraceSampler.Proofs.Quota.Continued
import TraceSampler.Proofs.Sampling.ClientOptions

/-!
# The flag of a remote parent

A sampler hands the parent of a request to its ledger as the text of a trace parent, and the ledger
reads the flag back from that text. The two sides are written apart, and where they disagreed the
request would get no verdict and its trace would be lost without a word. They agree on every span.
So a ledger never leaves a sampler without a verdict, whatever has happened to both, and a request
that goes on with a trace is sampled by the flag of its parent, as far as tracing is enabled for it
and tokens last.

* `sampled_decide_iff`: what it takes to be sampled.
* `maker_run`: the ledger of a sampler goes through a run of its own.
* `exists_verdict_ask`: every question that a sampler asks of a ledger gets a verdict.
* `decision_sample_iff_of_goesOnWith`: which requests that go on with a trace are sampled.
* `sample_run_flag`: the same after any run.
-/

namespace TraceSampler

open Quota Quota.Ledger

/-! ## What it takes to be sampled -/

namespace Quota.Ledger

variable {α : Type}

/-- The flag of its parent picks a request, and nothing else does. -/
theorem picked_iff_of_traceParent {p : Policy} {st : Settings α} {a : Ask} {parent : SpanContext}
    (ha : a.parent = some parent.traceParent) : Picked p st a ↔ parent.isSampled = true := by
  rw [picked_iff_of_parent ha, parentSampled_traceParent, Except.ok.injEq]

variable [Amount α] [OfScientific α] [LE α]

/-- A bucket yields a token: by the settings in force, there is one at hand. -/
def YieldsToken (l : Ledger α) (k : BucketKind) : Prop :=
  ∃ st, l.InForce st ∧ 1.0 ≤ l.atHand st.config k

variable [Sub α] [Amount.Counts α]

/-- A verdict says that a request is sampled where settings are in force, tracing is on for it, it
is picked and its bucket has a token at hand. -/
theorem sampled_decide_iff {p : Policy} {l : Ledger α} {a : Ask} {v : Verdict α}
    (hv : (l.decide p a).2 = .ok v) :
    v.sampled = true ↔ ∃ st, l.InForce st ∧ ¬ p.TracingOff st a.signals ∧ Picked p st a ∧
      1.0 ≤ l.atHand st.config (kindOf a).bucket := by
  constructor
  · intro hsampled
    cases hselection : l.selection? p a with
    | none => simp [(verdict_of_selection?_eq_none hselection hv).1] at hsampled
    | some c =>
      obtain ⟨st, hforce, htracing, hpicked, rfl⟩ := selection?_eq_some_iff_picked.1 hselection
      by_cases hone : 1.0 ≤ l.atHand st.config (kindOf a).bucket
      · exact ⟨st, hforce, htracing, hpicked, hone⟩
      · -- a request that finds its bucket exhausted is not sampled
        have hanswer := (decide_of_not_one_le hselection hone).1
        obtain rfl := Except.ok.inj (hanswer.symm.trans hv)
        simp at hsampled
  · rintro ⟨st, hforce, htracing, hpicked, hone⟩
    have hselection : l.selection? p a = some (narrowed p st a.signals) :=
      selection?_eq_some_iff_picked.2 ⟨st, hforce, htracing, hpicked, rfl⟩
    have hanswer := (decide_of_one_le hselection hone).1
    obtain rfl := Except.ok.inj (hanswer.symm.trans hv)
    rfl

end Quota.Ledger

namespace Sampler

/-! ## The ledger of a sampler -/

/-- What the ledger of a sampler learns of an event. -/
def Event.ledgerEvents : Event → List (Ledger.Event Float)
  | .sample r dice => (asked? r dice).toList.map .ask
  | .publish settings => [.publish settings]
  | .naming _ => []
  | .advance ns => [.advance ns]

/-- The ledger goes through what it learns of an event, and nothing else happens to it. -/
theorem maker_step (config : Transaction.NamingConfig) (p : Policy) (s : Sampler (Ledger Float))
    (e : Event) : (step config p s e).1.maker = (Ledger.run p s.maker e.ledgerEvents).1 := by
  cases e with
  | sample r dice =>
    rcases sample_cases config (Ledger.decide p) s r dice with
      ⟨sampled, -, hasked, hsample⟩ | ⟨-, hasked, hsample⟩
    · simp only [step, Event.ledgerEvents, hasked, hsample]
      rfl
    · simp only [step, Event.ledgerEvents, hasked, hsample]
      rfl
  | publish settings => rfl
  | naming e => rfl
  | advance ns => rfl

/-- The ledger of a sampler goes through a run of its own. -/
theorem maker_run (config : Transaction.NamingConfig) (p : Policy) (s : Sampler (Ledger Float))
    (events : List Event) : (run config p s events).1.maker =
      (Ledger.run p s.maker (events.flatMap Event.ledgerEvents)).1 := by
  induction events generalizing s with
  | nil => rfl
  | cons e r ih =>
    have hrest := ih (step config p s e).1
    rw [maker_step] at hrest
    rw [run, run_cons, List.flatMap_cons, Ledger.run, run_append]
    exact hrest

/-! ## Verdicts for a sampler -/

/-- Every question that a sampler asks of a ledger gets a verdict, for a parent that it names
reads. -/
theorem exists_verdict_ask (p : Policy) (l : Ledger Float) (r : SpanRequest)
    (o : SpanRequest.Origin) (dice : Nat) : ∃ v, (l.decide p (r.ask o dice)).2 = .ok v := by
  cases o with
  | inProcess sampled => exact exists_verdict_of_new rfl
  | newTrace => exact exists_verdict_of_new rfl
  | continued parent parentId => exact exists_verdict_of_traceParent (s := parent) rfl

/-- No span is left without a verdict. -/
theorem answer?_ne_error (p : Policy) (s : Sampler (Ledger Float)) (r : SpanRequest) (dice : Nat)
    (e : VerdictError) : answer? (Ledger.decide p) s r dice ≠ some (.error e) := by
  rcases sample_cases {} (Ledger.decide p) s r dice with ⟨sampled, -, hasked, -⟩ | ⟨-, hasked, -⟩
  · simp [answer?, hasked]
  · obtain ⟨v, hv⟩ := exists_verdict_ask p s.maker r (SpanRequest.Origin.of r.context) dice
    simp [answer?_of_asked hasked, hv]

/-- A request that goes on with a trace is sampled where tracing is enabled for it, its parent was
sampled and the regular bucket yields a token. -/
theorem decision_sample_iff_of_goesOnWith {config : Transaction.NamingConfig} {p : Policy}
    {s : Sampler (Ledger Float)} {r : SpanRequest} {dice : Nat} {parent : SpanContext}
    {parentId : String} (h : r.context.GoesOnWith parent parentId) :
    (s.sample config (Ledger.decide p) r dice).2.decision = .recordAndSample ↔
      p.Enables s.maker.settings s.maker.now (SpanRequest.signals r.name r.kind r.attributes) ∧
        parent.isSampled = true ∧ s.maker.YieldsToken .regular := by
  have horigin : SpanRequest.Origin.of r.context = .continued parent parentId :=
    SpanRequest.Origin.of_eq_continued_iff.2 h
  have hroot : ∀ sampled, SpanRequest.Origin.of r.context ≠ .inProcess sampled :=
    fun sampled => by simp [horigin]
  -- a request with a parent is regular, and the flag of its parent alone picks it
  let a := r.ask (.continued parent parentId) dice
  have hasked : asked? r dice = some a := by simp only [asked?, horigin, a]
  have hpicked : ∀ st : Settings Float, Picked p st a ↔ parent.isSampled = true :=
    fun st => picked_iff_of_traceParent rfl
  have hbucket : (kindOf a).bucket = .regular := rfl
  obtain ⟨v, hv⟩ := exists_verdict_ask p s.maker r (.continued parent parentId) dice
  have hverdict : (∃ v, answer? (Ledger.decide p) s r dice = some (.ok v) ∧ v.sampled = true) ↔
      v.sampled = true := by
    rw [answer?_of_asked hasked, hv]
    simp
  rw [decision_sample_eq_iff_of_root hroot, hverdict, sampled_decide_iff hv, enables_iff, hbucket]
  constructor
  · rintro ⟨st, hforce, htracing, hupstream, hone⟩
    exact ⟨⟨st, hforce, htracing⟩, (hpicked st).1 hupstream, st, hforce, hone⟩
  · rintro ⟨⟨st, hforce, htracing⟩, hsampled, st', hforce', hone⟩
    obtain rfl := hforce.iff_eq.1 hforce'
    exact ⟨st', hforce, htracing, (hpicked st').2 hsampled, hone⟩

/-- The text of a parent carries its flag. Every span's trace parent reads, and gives back the flag
of the span. So whatever a sampler and its ledger have gone through, no span is refused a verdict,
and one that goes on with a trace is sampled just where tracing is enabled for it by what was
published last, its parent was sampled and the regular bucket yields a token. -/
theorem sample_run_flag (config : Transaction.NamingConfig) (p : Policy)
    (s : Sampler (Ledger Float)) (events : List Event) (r : SpanRequest) (dice : Nat) :
    let before := (run config p s events).1
    let learned := events.flatMap Event.ledgerEvents
    let published := lastPublished s.maker.settings learned
    let now := timeAfter s.maker.now learned
    (∀ span : SpanContext, parentSampled span.traceParent = .ok span.isSampled) ∧
    (∀ e, answer? (Ledger.decide p) before r dice ≠ some (.error e)) ∧
    (∀ parent parentId, r.context.GoesOnWith parent parentId →
      ((before.sample config (Ledger.decide p) r dice).2.decision = .recordAndSample ↔
        p.Enables published now (SpanRequest.signals r.name r.kind r.attributes) ∧
          parent.isSampled = true ∧ before.maker.YieldsToken .regular)) := by
  intro before learned published now
  have hmaker : before.maker = (Ledger.run p s.maker learned).1 := maker_run config p s events
  have hpublished : before.maker.settings = published := by
    rw [hmaker]
    exact settings_run p s.maker learned
  have hnow : before.maker.now = now := by
    rw [hmaker]
    exact now_run p s.maker learned
  refine ⟨parentSampled_traceParent, answer?_ne_error p before r dice, ?_⟩
  intro parent parentId hgoes
  rw [← hpublished, ← hnow]
  exact decision_sample_iff_of_goesOnWith hgoes

/-- The flags of two parents have other bits set, too, and their identifiers start with zeros. The
one that was not sampled leaves the only token to the other. -/
theorem sample_run_flag_lastToken :
    let quiet : SpanContext :=
      { traceId := 1, spanId := 2, flags := 0xfe, isRemote := true
        state := .ofHeader "sw=00000000000000ab-00" }
    let parent : SpanContext := { quiet with flags := 0x83 }
    let before : SpanRequest :=
      { context := { span := some quiet }
        traceId := 1, name := "checkout", kind := .server, attributes := {} }
    let r : SpanRequest := { before with context := { span := some parent } }
    let st : Settings Float :=
      { sampleRate := 0, lifetime := 10, buckets := .all (some { capacity := 1, rate := 0 }) }
    let s : Sampler (Ledger Float) := { maker := {} }
    let events : List Event := [.publish (some st), .sample before 7, .advance 10]
    let later := events ++ [.sample r 7]
    let found := (run {} {} s events).1
    let left := (run {} {} s later).1
    let learned := events.flatMap Event.ledgerEvents
    r.context.GoesOnWith parent "00000000000000ab" ∧
      (found.sample {} (Ledger.decide {}) r 7).2.decision = .recordAndSample ∧
      Policy.Enables {} (lastPublished s.maker.settings learned) (timeAfter s.maker.now learned)
        (SpanRequest.signals r.name r.kind r.attributes) ∧
      parent.isSampled = true ∧ found.maker.YieldsToken .regular ∧
      ¬ (left.sample {} (Ledger.decide {}) r 7).2.decision = .recordAndSample ∧
      ∀ e, answer? (Ledger.decide {}) left r 7 ≠ some (.error e) := by
  intro quiet parent before r st s events later
  have hgoes : r.context.GoesOnWith parent "00000000000000ab" :=
    SpanRequest.Origin.of_eq_continued_iff.1 (by decide +kernel)
  have hsampled : ((run {} {} s events).1.sample {} (Ledger.decide {}) r 7).2.decision =
      .recordAndSample := by
    decide +kernel
  obtain ⟨-, -, hfound⟩ := sample_run_flag {} {} s events r 7
  obtain ⟨-, hverdict, -⟩ := sample_run_flag {} {} s later r 7
  obtain ⟨henables, hflag, htoken⟩ := (hfound parent "00000000000000ab" hgoes).1 hsampled
  exact ⟨hgoes, hsampled, henables, hflag, htoken, by decide +kernel, hverdict⟩

end Sampler

end TraceSampler
