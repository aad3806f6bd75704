import TraceSampler.Header.Reply
import TraceSampler.Proofs.Header.Carrier
import TraceSampler.Proofs.Request.Spelling

/-!
# Reading the answer to trace options

What a client reads in the header `X-Trace-Options-Response` was written into the trace state of
the span that served it, and read from there again.

* `get?_respond`: what the response to a request says of its options.
* `optionsReply?_traceState`: the trace state of a span answers by its result before all else.
* `get?_respond_eq_answer_iff`: when the client reads what was answered.
-/

namespace TraceSampler

/-- The trace state of a span holds the answer of its result, or else what its parent held. -/
theorem SamplingResult.get?_traceState (r : SamplingResult) (parent : TraceState) :
    (r.traceState parent).get? TraceState.responseKey =
      r.answer.or (parent.get? TraceState.responseKey) := by
  unfold traceState
  split
  · next answer hanswer => rw [TraceState.get?_insert_self, hanswer, Option.some_or]
  · next hanswer => rw [hanswer, Option.none_or]

namespace SpanContext

theorem optionsReply?_traceState (s : SpanContext) (r : SamplingResult) (parent : TraceState) :
    { s with state := r.traceState parent }.optionsReply? =
      (r.answer.or (parent.get? TraceState.responseKey)).map OptionsAnswer.desanitize := by
  rw [optionsReply?, r.get?_traceState parent]

/-- The response says of the options what the trace state of the span answers, and where it answers
nothing the header stays as it is. -/
theorem get?_respond {s : SpanContext} (hs : s.isValid) {c : Carrier} (hc : c.takesHeaders) :
    (s.respond c).get? optionsReplyHeader =
      s.optionsReply?.or (c.get? optionsReplyHeader) := by
  have hapart : Carrier.Apart traceReplyHeader optionsReplyHeader := by decide
  cases hreply : s.optionsReply? with
  | none => simp [respond, hs, hreply, Carrier.get?_set_of_apart hapart]
  | some answer => simp [respond, hs, hreply, Carrier.get?_set_self, hc]

/-- The client reads what was answered to its options, whatever its parent's trace state holds,
unless the keys that meant nothing hold four marks in a row or a point before a comma. -/
theorem get?_respond_eq_answer_iff {α : Type} {verify : Verifier}
    {header signature : Option String} {o : TraceOptions}
    (hread : TraceOptions.read? verify header signature = some o) (v : Quota.Verdict α)
    (isNewTrace : Bool) (r : SamplingResult) (additional : Attributes) (parent : TraceState)
    (s : SpanContext) (hs : s.isValid) (c : Carrier) (hc : c.takesHeaders) :
    let answer := (OptionsAnswer.of o v isNewTrace).text
    let state := (r.wrap additional (some answer)).traceState parent
    ({ s with state }.respond c).get? optionsReplyHeader = some answer ↔
      ∀ marks ∈ ["####", "....", ".,"],
        ¬ marks.toList <:+: (Text.joinWith "," o.ignored).toList := by
  intro answer state
  have hvalid : { s with state }.isValid := hs
  have hreply : { s with state }.optionsReply? =
      some (OptionsAnswer.desanitize (OptionsAnswer.sanitize answer)) :=
    s.optionsReply?_traceState (r.wrap additional (some answer)) parent
  rw [get?_respond hvalid hc, hreply, Option.some_or, Option.some.injEq]
  exact OptionsAnswer.desanitize_sanitize_text_eq_iff hread v isNewTrace

/-- Keys whose marks stop short of reading as something else, answered over an older answer. -/
theorem get?_respond_eq_answer_iff_shortOfMarks :
    let header := some "trigger-trace;###a;b,...c;ts=soon"
    let o : TraceOptions := { triggerTrace := true, ignored := ["###a", "b,...c", "ts"] }
    let verdict : Quota.Verdict Float := .withoutSettings .unauthenticatedTrigger
    let parent := TraceState.ofHeader "xtrace_options_response=old,congo=t61"
    let s : SpanContext := { traceId := 1, spanId := 2 }
    let c := Carrier.map []
    let answer := (OptionsAnswer.of o verdict true).text
    let state := (SamplingResult.notTraced.wrap {} (some answer)).traceState parent
    TraceOptions.read? .presence header none = some o ∧ s.isValid ∧ c.takesHeaders ∧
      answer = "trigger-trace=settings-not-available;ignored=###a,b,...c,ts" ∧
      (∀ marks ∈ ["####", "....", ".,"],
        ¬ marks.toList <:+: (Text.joinWith "," o.ignored).toList) ∧
      (({ s with state }.respond c).get? optionsReplyHeader = some answer ↔
        ∀ marks ∈ ["####", "....", ".,"],
          ¬ marks.toList <:+: (Text.joinWith "," o.ignored).toList) := by
  intro header o verdict parent s c answer state
  have hread : TraceOptions.read? .presence header none = some o := by decide +kernel
  exact ⟨hread, rfl, rfl, by decide +kernel, by decide +kernel,
    get?_respond_eq_answer_iff hread verdict true .notTraced {} parent s rfl c rfl⟩

end SpanContext

end TraceSampler
