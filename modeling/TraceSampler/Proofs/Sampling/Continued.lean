import TraceSampler.Proofs.Quota.Continued
import TraceSampler.Proofs.Sampling.Attributes
import TraceSampler.Proofs.Sampling.Origin

/-!
# Options on a trace that goes on

Where a request goes on with a trace, its client can ask for nothing. Two runs that differ in the
trace options alone are compared: with a ledger as the decision maker they come to the same result
and leave the same sampler behind. Only the answer differs, and it tells nothing of the verdict.

* `decide_ask_withOptions`: what the options make of the verdict.
* `sample_withOptions_of_goesOnWith`: what they make of the result, and what the client is told.
-/

namespace TraceSampler

namespace OptionsAnswer

/-- The answer to options that came on a trace that goes on. -/
def onContinued (o : TraceOptions) : OptionsAnswer :=
  { auth := authText? o.auth
    trigger := if o.triggerTrace then .ignored else .notRequested
    ignored := o.ignored }

theorem of_continued {α : Type} (o : TraceOptions) (v : Quota.Verdict α) :
    of o v false = onContinued o := rfl

end OptionsAnswer

namespace Sampler

open SamplingResult Quota

/-- The options of a request that goes on with a trace make no difference to the ledger, nor to
what the verdict comes to. -/
theorem decide_ask_withOptions (p : Policy) (l : Ledger Float) (r : SpanRequest)
    (parent : SpanContext) (parentId : String) (options options' : Option TraceOptions)
    (dice dice' : Nat) :
    let origin := SpanRequest.Origin.continued parent parentId
    let first := l.decide p ((r.withOptions options).ask origin dice)
    let second := l.decide p ((r.withOptions options').ask origin dice')
    first.1 = second.1 ∧
      verdictResult options false first.2 = verdictResult options' false second.2 := by
  intro origin first second
  cases hcurrent : l.current? with
  | none =>
    -- the verdicts name the kinds that were asked for, but nothing is traced for either
    have hfirst : first = (l, .ok (.withoutSettings _)) :=
      Ledger.decide_of_current?_eq_none hcurrent
    have hsecond : second = (l, .ok (.withoutSettings _)) :=
      Ledger.decide_of_current?_eq_none hcurrent
    rw [hfirst, hsecond]
    exact ⟨rfl, rfl⟩
  | some settings =>
    have hsame : first = second := Ledger.decide_congr_of_parent rfl rfl rfl hcurrent
    rw [hsame]
    refine ⟨rfl, ?_⟩
    cases second.2 with
    | error e => rfl
    | ok v => exact (ofVerdict_of_continued v options).trans (ofVerdict_of_continued v options').symm

/-- The trace options of a request that goes on with a trace change nothing but the answer. The
decision, the attributes, the token buckets and the names of transactions come out the same, and
the client is told of its options alone; a trace that it asked for was ignored. -/
theorem sample_withOptions_of_goesOnWith (config : Transaction.NamingConfig) (p : Policy)
    (s : Sampler (Ledger Float)) (r : SpanRequest) {parent : SpanContext} {parentId : String}
    (h : r.context.GoesOnWith parent parentId) (options options' : Option TraceOptions)
    (dice dice' : Nat) :
    let first := s.sample config (Ledger.decide p) (r.withOptions options) dice
    let second := s.sample config (Ledger.decide p) (r.withOptions options') dice'
    first.1 = second.1 ∧
      first.2.decision = second.2.decision ∧
      first.2.attributes = second.2.attributes ∧
      first.2.answer = options.map fun o =>
        OptionsAnswer.sanitize (OptionsAnswer.onContinued o).text := by
  intro first second
  have horigin : SpanRequest.Origin.of r.context = .continued parent parentId :=
    SpanRequest.Origin.of_eq_continued_iff.2 h
  have hfirst : first = s.sampleRoot config (Ledger.decide p) (r.withOptions options)
      (.continued parent parentId) dice :=
    sample_of_continued ((r.origin_withOptions options).trans horigin)
  have hsecond : second = s.sampleRoot config (Ledger.decide p) (r.withOptions options')
      (.continued parent parentId) dice' :=
    sample_of_continued ((r.origin_withOptions options').trans horigin)
  obtain ⟨hledger, hverdict⟩ :=
    decide_ask_withOptions p s.maker r parent parentId options options' dice dice'
  rw [hfirst, hsecond]
  refine ⟨?_, ?_, ?_, ?_⟩
  · simp only [sampleRoot, hledger]
    rfl
  · simp only [sampleRoot, decision_conclude]
    exact congrArg SamplingResult.decision hverdict
  · simp only [sampleRoot, attributes_conclude, SpanRequest.additional_withOptions]
    exact congrArg (SamplingResult.attributes · |>.merge _) hverdict
  · -- the parent reads, so that there is a verdict
    obtain ⟨v, hv⟩ := Ledger.exists_verdict_of_traceParent (p := p) (l := s.maker)
      (a := (r.withOptions options).ask (.continued parent parentId) dice) (s := parent) rfl
    have hcontinued : (SpanRequest.Origin.continued parent parentId).isNewTrace = false := rfl
    simp only [sampleRoot, hv, answer_conclude, hcontinued, OptionsAnswer.of_continued]
    rfl

/-- A client that proves who it is asks for a trace and for attributes on a trace that goes on
unsampled, which gains it nothing. -/
theorem sample_withOptions_of_goesOnWith_signed :
    let parent : SpanContext :=
      { traceId := 1, spanId := 2, isRemote := true
        state := .ofHeader "congo=t61,sw=2222222222222222-00" }
    let r : SpanRequest :=
      { context := { span := some parent }
        traceId := 1, name := "checkout", kind := .server, attributes := {} }
    let asked := TraceOptions.read? .presence (some "trigger-trace;custom-tier=gold") (some "proof")
    let told := asked.map fun o => OptionsAnswer.sanitize (OptionsAnswer.onContinued o).text
    let settings : Settings Float :=
      { sampleRate := 1000000, buckets := .all (some { capacity := 8, rate := 1 }) }
    let s : Sampler (Ledger Float) := { maker := { settings := some settings } }
    let first := s.sample {} (Ledger.decide {}) (r.withOptions asked) 7
    let second := s.sample {} (Ledger.decide {}) (r.withOptions none) 8
    r.context.GoesOnWith parent "2222222222222222" ∧
      told = some "auth####ok;trigger-trace####ignored" ∧
      first.1 = second.1 ∧
      first.2.decision = second.2.decision ∧
      first.2.attributes = second.2.attributes ∧
      first.2.answer = told := by
  intro parent r asked told settings s
  have hgoes : r.context.GoesOnWith parent "2222222222222222" :=
    SpanRequest.Origin.of_eq_continued_iff.1 (by decide +kernel)
  have htold : told = some "auth####ok;trigger-trace####ignored" := by decide +kernel
  exact ⟨hgoes, htold, sample_withOptions_of_goesOnWith {} {} s r hgoes asked none 7 8⟩

end Sampler

end TraceSampler
