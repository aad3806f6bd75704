import TraceSampler.Proofs.Header.Reply
import TraceSampler.Proofs.Sampling.ClientOptions

/-!
# Who is answered

A result carries an answer where the request came with options and there is a verdict on it. The
response to the client is written from the trace state of the new span, and that is built on the
trace state that came in. So a response says what the result answers, and where the result answers
nothing it repeats what the trace state that came in holds under the key of answers.

* `isSome_answer_sample_iff`: when a result carries an answer.
* `get?_respond_sample`: what the response to a sampled request says of options.
* `respond_sample_forged`: a response to a request that came without options.
-/

namespace TraceSampler

/-- The trace state that the span of a request is built on. -/
def RequestContext.parentState (c : RequestContext) : TraceState :=
  (c.span.map SpanContext.state).getD {}

namespace Sampler

variable {σ : Type} {config : Transaction.NamingConfig} {decide : DecisionMaker σ} {s : Sampler σ}
  {r : SpanRequest} {dice : Nat}

/-- A result carries an answer to the options of a request on which there is a verdict. Without
options, without a verdict or where nobody was asked for one, there is no answer. -/
theorem isSome_answer_sample_iff :
    (s.sample config decide r dice).2.answer.isSome = true ↔
      r.context.options.isSome = true ∧ ∃ v, answer? decide s r dice = some (.ok v) := by
  rcases sample_cases config decide s r dice with
    ⟨sampled, -, hasked, hsample⟩ | ⟨-, hasked, hsample⟩
  · have hanswer : (s.sample config decide r dice).2.answer = none := by
      rw [hsample]
      cases sampled with
      | false => rfl
      | true => rfl
    simp [hanswer, answer?, hasked]
  · rw [hsample, answer?_of_asked hasked]
    simp only [sampleRoot, Option.some.injEq]
    cases (decide s.maker (r.ask (SpanRequest.Origin.of r.context) dice)).2 with
    | error e => simp [conclude, SamplingResult.wrap]
    | ok v => simp [answer_conclude]

/-- What the response says of options: the answer of the result, or else what the trace state that
came in holds under the key of answers. -/
theorem get?_respond_sample (config : Transaction.NamingConfig) (decide : DecisionMaker σ)
    (s : Sampler σ) (r : SpanRequest) (dice : Nat) (span : SpanContext) (hspan : span.isValid)
    (c : Carrier) (hc : c.takesHeaders) (hfree : c.get? optionsReplyHeader = none) :
    let result := (s.sample config decide r dice).2
    let older := r.context.parentState.get? TraceState.responseKey
    let reply :=
      ({ span with state := result.traceState r.context.parentState }.respond c).get?
        optionsReplyHeader
    reply = (result.answer.or older).map OptionsAnswer.desanitize ∧
      (reply.isSome = true ↔
        (r.context.options.isSome = true ∧ ∃ v, answer? decide s r dice = some (.ok v)) ∨
          older.isSome = true) := by
  intro result older reply
  have hvalid : { span with state := result.traceState r.context.parentState }.isValid := hspan
  have hreply : reply = (result.answer.or older).map OptionsAnswer.desanitize := by
    calc reply
      _ = { span with state := result.traceState r.context.parentState }.optionsReply?.or
            (c.get? optionsReplyHeader) := SpanContext.get?_respond hvalid hc
      _ = { span with state := result.traceState r.context.parentState }.optionsReply? := by
          rw [hfree, Option.or_none]
      _ = (result.answer.or older).map OptionsAnswer.desanitize :=
          span.optionsReply?_traceState result r.context.parentState
  refine ⟨hreply, ?_⟩
  rw [hreply, Option.isSome_map, Option.isSome_or, Bool.or_eq_true, isSome_answer_sample_iff]

/-- A request for a trace is answered over an older answer that came in with it. -/
theorem get?_respond_sample_older :
    let inbound := Carrier.map
      [("traceparent", "00-80f198ee56343ba864fe8b2a57d3eff7-00f067aa0ba902b7-01"),
        ("tracestate", "congo=t61,xtrace_options_response=trigger-trace####ok"),
        ("x-trace-options", "trigger-trace")]
    let r : SpanRequest :=
      { context := .extract .presence inbound, traceId := 1, name := "checkout", kind := .server
        attributes := {} }
    let s : Sampler (Quota.Ledger Float) := { maker := {} }
    let result := (s.sample {} (Quota.Ledger.decide {}) r 7).2
    let older := r.context.parentState.get? TraceState.responseKey
    let span : SpanContext := { traceId := 1, spanId := 2 }
    let c := Carrier.map []
    let reply :=
      ({ span with state := result.traceState r.context.parentState }.respond c).get?
        optionsReplyHeader
    span.isValid ∧ c.takesHeaders ∧ c.get? optionsReplyHeader = none ∧
      older = some "trigger-trace####ok" ∧
      reply = some "trigger-trace=settings-not-available" ∧
      reply = (result.answer.or older).map OptionsAnswer.desanitize ∧
      (reply.isSome = true ↔
        (r.context.options.isSome = true ∧
            ∃ v, answer? (Quota.Ledger.decide {}) s r 7 = some (.ok v)) ∨
          older.isSome = true) := by
  intro inbound r s result older span c reply
  exact ⟨rfl, rfl, rfl, by decide +kernel, by decide +kernel,
    get?_respond_sample {} (Quota.Ledger.decide {}) s r 7 span rfl c rfl rfl⟩

/-- Whoever sends a request can have it answered as if it had asked for a trace and got one: it came
without options and its result carries no answer, but the response repeats the member that it
brought along. -/
theorem respond_sample_forged :
    let inbound := Carrier.map
      [("traceparent", "00-80f198ee56343ba864fe8b2a57d3eff7-00f067aa0ba902b7-01"),
        ("tracestate", "xtrace_options_response=trigger-trace####ok")]
    let r : SpanRequest :=
      { context := .extract .presence inbound, traceId := 0x80f198ee56343ba864fe8b2a57d3eff7
        name := "GET /orders", kind := .server, attributes := {} }
    let s : Sampler (Quota.Ledger Float) := { maker := {} }
    let result := (s.sample {} (Quota.Ledger.decide {}) r 0).2
    let span : SpanContext := { traceId := 0x80f198ee56343ba864fe8b2a57d3eff7, spanId := 0xab }
    let reply :=
      ({ span with state := result.traceState r.context.parentState }.respond (.map [])).get?
        optionsReplyHeader
    r.context.options = none ∧ result.answer = none ∧ reply = some "trigger-trace=ok" ∧
      ¬ (reply.isSome = true ↔ result.answer.isSome = true) := by
  decide +kernel

end Sampler

end TraceSampler
