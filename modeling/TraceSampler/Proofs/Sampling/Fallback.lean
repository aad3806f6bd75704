import TraceSampler.Proofs.Sampling.Attributes
import TraceSampler.Proofs.Sampling.Origin

/-!
# Falling back on local policy

Whoever sends a request can put anything into its trace parent and its trace state. What does not
identify a remote span that this library last saw has no influence: the request is sampled as if no
span had come in with it. Only the attribute that passes the foreign trace state on still shows it.

* `get?_additional_withoutSpan`: what of the span shows in the attributes.
* `sample_of_startsTrace`: the request is sampled as if it came without a span.
-/

namespace TraceSampler

namespace SpanRequest

/-- The request without the span that came in with it. -/
def withoutSpan (r : SpanRequest) : SpanRequest :=
  { r with context := { r.context with span := none } }

theorem startsTrace_withoutSpan (r : SpanRequest) : r.withoutSpan.context.StartsTrace :=
  .absent rfl

/-- Of the span that came in, only the foreign trace state shows in the attributes. -/
theorem get?_additional_withoutSpan (r : SpanRequest) (transaction : String) {key : String}
    (hkey : key ≠ "sw.w3c.tracestate") :
    (r.additional .newTrace transaction).get? key =
      (r.withoutSpan.additional .newTrace transaction).get? key := by
  simp only [get?_additional, if_neg hkey]

end SpanRequest

namespace Sampler

variable {σ : Type}

/-- A request whose upstream state is missing or corrupt is sampled as if no span had come in with
it: the decision maker is asked the same question, which names no parent, the sampler is left in the
same state, and the result is the same but for the attribute with the foreign trace state. -/
theorem sample_of_startsTrace (config : Transaction.NamingConfig) (decide : DecisionMaker σ)
    (s : Sampler σ) (r : SpanRequest) (dice : Nat) (h : r.context.StartsTrace) :
    let result := s.sample config decide r dice
    let alone := s.sample config decide r.withoutSpan dice
    (∃ ask : Quota.Ask, ask.parent = none ∧ questions config decide s r dice = [ask] ∧
        questions config decide s r.withoutSpan dice = [ask]) ∧
      result.1 = alone.1 ∧
      result.2.answer = alone.2.answer ∧
      result.2.SameOutside (· = "sw.w3c.tracestate") alone.2 := by
  intro result alone
  have horigin : SpanRequest.Origin.of r.context = .newTrace :=
    SpanRequest.Origin.of_eq_newTrace_iff.2 h
  have horigin' : SpanRequest.Origin.of r.withoutSpan.context = .newTrace :=
    SpanRequest.Origin.of_eq_newTrace_iff.2 r.startsTrace_withoutSpan
  -- the question is put together from what the two requests share
  have hask : r.withoutSpan.ask .newTrace dice = r.ask .newTrace dice := rfl
  have hresult : result = s.sampleRoot config decide r .newTrace dice := sample_of_newTrace horigin
  have halone : alone = s.sampleRoot config decide r.withoutSpan .newTrace dice :=
    sample_of_newTrace horigin'
  refine ⟨⟨r.ask .newTrace dice, rfl, ?_, ?_⟩, ?_, ?_, ?_⟩
  · rw [questions_eq, asked?_of_newTrace horigin]
    rfl
  · rw [questions_eq, asked?_of_newTrace horigin', hask]
    rfl
  · rw [hresult, halone]
    rfl
  · rw [hresult, halone]
    simp only [sampleRoot, hask]
    -- what the client is told comes from its options and the verdict alone
    cases (decide s.maker (r.ask .newTrace dice)).2 with
    | error e => rfl
    | ok v => rfl
  · rw [hresult, halone]
    apply sameOutside_conclude
    · intro key hkey
      exact r.get?_additional_withoutSpan _ hkey
    · exact SamplingResult.SameOutside.refl _ _

/-- The vendor member of the parent has flags that there are not. Of the parent only the state of
another vendor shows. -/
theorem sample_of_startsTrace_badFlags :
    let parent : SpanContext :=
      { traceId := 1, spanId := 2, flags := 1, isRemote := true
        state := .ofHeader "sw=2222222222222222-02,congo=t61" }
    let r : SpanRequest :=
      { context := { span := some parent, inboundState := some "congo=t61" }
        traceId := 1, name := "checkout", kind := .server, attributes := {} }
    let decide : DecisionMaker Nat := fun asked a =>
      (asked + 1, .ok
        { sampled := a.parent.isNone, measured := true, kind := .regular, config := none,
          exhausted := false })
    let s : Sampler Nat := { maker := 0 }
    let result := s.sample {} decide r 7
    let alone := s.sample {} decide r.withoutSpan 7
    r.context.StartsTrace ∧
      result.2.attributes.text? "sw.w3c.tracestate" = some "congo=t61" ∧
      alone.2.attributes.text? "sw.w3c.tracestate" = none ∧
      (∃ ask : Quota.Ask, ask.parent = none ∧ questions {} decide s r 7 = [ask] ∧
        questions {} decide s r.withoutSpan 7 = [ask]) ∧
      result.1 = alone.1 ∧
      result.2.answer = alone.2.answer ∧
      result.2.SameOutside (· = "sw.w3c.tracestate") alone.2 := by
  intro parent r decide s result alone
  have hvendor : parent.state.vendorParent? = none := by decide +kernel
  have hstarts : r.context.StartsTrace :=
    .unnamed rfl rfl (TraceState.vendorParent?_eq_none_iff.1 hvendor)
  refine ⟨hstarts, ?_, ?_, sample_of_startsTrace {} decide s r 7 hstarts⟩
  · decide +kernel
  · decide +kernel

end Sampler

end TraceSampler
