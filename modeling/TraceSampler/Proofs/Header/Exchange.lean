import TraceSampler.Header.Exchange
import TraceSampler.Proofs.Header.Carrier
import TraceSampler.Proofs.Header.Inbound
import TraceSampler.Proofs.Header.Limits
import TraceSampler.Proofs.Header.TraceParent
import TraceSampler.Sampling.Result

/-!
# One hop between two services

A service takes the context of a request, starts a span and passes both on; the next service takes
its context from what was passed on. Each of the four headers is written and read by a codec of its
own, so the hop is put together from what each header reads back as.

* `get?_sent_*`: the headers of a request that is passed on.
* `inboundState?_isSome_iff`: when the next service sees other vendors.
* `extract_sent`: what the next service finds.
-/

namespace TraceSampler.RequestContext

/-! ## The headers that are sent -/

/-- The headers of a request that is passed on with a span, the trace parent among them. -/
def sent (r : RequestContext) (s : SpanContext) (c : Carrier) : Carrier :=
  (inject r s c).set traceParentHeader s.traceParent

theorem takesHeaders_setOptional (c : Carrier) (name : String) (value : Option String) :
    (setOptional c name value).takesHeaders = c.takesHeaders := by
  cases value with
  | none => rfl
  | some v => exact Carrier.takesHeaders_set c name v

theorem get?_setOptional_of_apart {name other : String} (h : Carrier.Apart name other)
    (c : Carrier) (value : Option String) :
    (setOptional c name value).get? other = c.get? other := by
  cases value with
  | none => rfl
  | some v => exact Carrier.get?_set_of_apart h c v

/-- Where the header was free, it reads back as what was put, or as nothing. -/
theorem get?_setOptional_self {c : Carrier} {name : String} (h : c.takesHeaders)
    (hfree : c.get? name = none) (value : Option String) :
    (setOptional c name value).get? name = value := by
  cases value with
  | none => exact hfree
  | some v => exact Carrier.get?_set_self h name v

theorem sent_of_isValid {s : SpanContext} (h : s.isValid) (r : RequestContext) (c : Carrier) :
    sent r s c = (setOptional (setOptional (c.set traceStateHeader
      (s.state.outbound (TraceState.vendorValue s.spanId s.isSampled)).text)
      optionsHeader r.optionsText) signatureHeader r.signature).set traceParentHeader
        s.traceParent := by
  simp [sent, inject, h]

section Sent

variable {s : SpanContext} {c : Carrier} (r : RequestContext) (hs : s.isValid)
  (hc : c.takesHeaders)

include hs hc

theorem get?_sent_traceParent : (sent r s c).get? traceParentHeader = some s.traceParent := by
  rw [sent_of_isValid hs]
  apply Carrier.get?_set_self
  simp [takesHeaders_setOptional, hc]

theorem get?_sent_traceState : (sent r s c).get? traceStateHeader =
    some (s.state.outbound (TraceState.vendorValue s.spanId s.isSampled)).text := by
  have hparent : Carrier.Apart traceParentHeader traceStateHeader := by decide
  have hsignature : Carrier.Apart signatureHeader traceStateHeader := by decide
  have hoptions : Carrier.Apart optionsHeader traceStateHeader := by decide
  rw [sent_of_isValid hs, Carrier.get?_set_of_apart hparent, get?_setOptional_of_apart hsignature,
    get?_setOptional_of_apart hoptions, Carrier.get?_set_self hc]

theorem get?_sent_options (hfree : c.get? optionsHeader = none) :
    (sent r s c).get? optionsHeader = r.optionsText := by
  have hparent : Carrier.Apart traceParentHeader optionsHeader := by decide
  have hsignature : Carrier.Apart signatureHeader optionsHeader := by decide
  have hstate : Carrier.Apart traceStateHeader optionsHeader := by decide
  rw [sent_of_isValid hs, Carrier.get?_set_of_apart hparent, get?_setOptional_of_apart hsignature]
  apply get?_setOptional_self
  · simp [hc]
  · rw [Carrier.get?_set_of_apart hstate, hfree]

theorem get?_sent_signature (hfree : c.get? signatureHeader = none) :
    (sent r s c).get? signatureHeader = r.signature := by
  have hparent : Carrier.Apart traceParentHeader signatureHeader := by decide
  have hoptions : Carrier.Apart optionsHeader signatureHeader := by decide
  have hstate : Carrier.Apart traceStateHeader signatureHeader := by decide
  rw [sent_of_isValid hs, Carrier.get?_set_of_apart hparent]
  apply get?_setOptional_self
  · simp [takesHeaders_setOptional, hc]
  · rw [get?_setOptional_of_apart hoptions, Carrier.get?_set_of_apart hstate, hfree]

end Sent

/-! ## The trace state that is sent -/

/-- The answer to trace options is under a reserved key, so no foreign member changes with it. -/
theorem foreign_traceState (r : SamplingResult) (parent : TraceState) :
    (r.traceState parent).foreign = parent.foreign := by
  have hresponse : TraceState.isReserved TraceState.responseKey = true := by decide
  rw [SamplingResult.traceState]
  split
  · exact TraceState.foreign_insert hresponse parent _
  · rfl

/-- An entry with a safe member in it is foreign unless the member has the vendor key. -/
theorem isForeignEntry_memberText {m : String × String} (h : TraceState.WireMember m) :
    isForeignEntry (TraceState.memberText m) = true ↔ m.1 ≠ TraceState.vendorKey := by
  have hkey : TraceState.vendorKey.toList = ['s', 'w'] := by decide
  have htext : Text.trim (TraceState.memberText m) = m.1.toList ++ '=' :: m.2.toList :=
    Text.trim_eq_self h.trimmed_text
  rw [isForeignEntry_cut_iff htext h.equals_key, ← hkey, Ne, String.toList_inj]

/-- The next service sees other vendors exactly if a member of theirs was sent. -/
theorem any_isForeignEntry_outbound {s : TraceState} {v : String}
    (h : TraceState.WireSafe (s.outbound v)) :
    (Text.split ',' (s.outbound v).text.toList).any isForeignEntry = true ↔ s.packed v ≠ [] := by
  have hcommas : ∀ m ∈ (s.outbound v).entries, ',' ∉ TraceState.memberText m :=
    fun m hm => (h.members m hm).comma_text
  rw [TraceState.split_text (by simp [TraceState.outbound]) hcommas, List.any_map, List.any_eq_true]
  constructor
  · -- with nothing packed, the vendor member is the only one
    rintro ⟨m, hm, hforeign⟩ hnone
    have hne := (isForeignEntry_memberText (h.members m hm)).1 hforeign
    simp only [TraceState.outbound, hnone, List.mem_singleton] at hm
    exact hne (congrArg Prod.fst hm)
  · intro hsome
    obtain ⟨m, r, hr⟩ := List.exists_cons_of_ne_nil hsome
    have hpacked : m ∈ s.packed v := by simp [hr]
    have hm : m ∈ (s.outbound v).entries := List.mem_cons_of_mem _ hpacked
    have hreserved := TraceState.isReserved_of_mem_foreign
      ((TraceState.packed_sublist s v).subset hpacked)
    exact ⟨m, hm, (isForeignEntry_memberText (h.members m hm)).2
      (TraceState.ne_of_not_isReserved hreserved).1⟩

/-! ## What is extracted -/

/-- The span of a valid trace parent and a wire-safe trace state. -/
theorem span?_of_headers {c : Carrier} {s : SpanContext} {state : TraceState} (hs : s.isValid)
    (hparent : c.get? traceParentHeader = some s.traceParent)
    (hstate : c.get? traceStateHeader = some state.text) (hwire : TraceState.WireSafe state) :
    span? c = some
      { traceId := s.traceId
        spanId := s.spanId
        flags := s.flags
        isRemote := true
        state } := by
  have hread : (traceParent? c).map TraceParent.read =
      some (.ok { traceId := s.traceId, spanId := s.spanId, flags := s.flags }) := by
    rw [traceParent?, hparent, Option.map_some, Option.map_some, SpanContext.read_traceParent hs]
  rw [span?, hread, hstate, Option.map_some, TraceState.ofHeader_text hwire, Option.getD_some]

/-- The texts that a request keeps of its options read as those options, and there are none where
it has no options. -/
structure KeepsOptions (verify : Verifier) (r : RequestContext) : Prop where
  read : TraceOptions.read? verify r.optionsText r.signature = r.options
  texts : r.options = none → r.optionsText = none ∧ r.signature = none

theorem keepsOptions_extract (verify : Verifier) (c : Carrier) :
    KeepsOptions verify (extract verify c) := by
  constructor
  · simp only [extract]
    cases h : TraceOptions.read? verify (c.get? optionsHeader) (c.get? signatureHeader) with
    | none => rfl
    | some o => simpa using h
  · intro h
    have hread : TraceOptions.read? verify (c.get? optionsHeader) (c.get? signatureHeader) = none :=
      h
    simp [extract, hread]

/-- A carrier with the texts of a request has its options. -/
theorem options_of_headers {verify : Verifier} {r : RequestContext} {c : Carrier}
    (hr : KeepsOptions verify r) (hoptions : c.get? optionsHeader = r.optionsText)
    (hsignature : c.get? signatureHeader = r.signature) :
    (extract verify c).options = r.options ∧ (extract verify c).optionsText = r.optionsText ∧
      (extract verify c).signature = r.signature := by
  simp only [extract, hoptions, hsignature, hr.read]
  cases h : r.options with
  | none =>
    obtain ⟨htext, hsig⟩ := hr.texts h
    simp [htext, hsig]
  | some o => simp

/-! ## The next service -/

/-- What the next service finds when a request was passed on with a span: the same identity, the
vendor member of the span before forwarded members of others, and the same options. -/
structure Continues (request : RequestContext) (s : SpanContext)
    (forwarded : List (String × String)) (next : RequestContext) : Prop where
  /-- In their order, members of the span's state other than the vendor member and the answer to
  trace options. -/
  members : forwarded.Sublist s.state.foreign
  span : next.span = some
    { traceId := s.traceId
      spanId := s.spanId
      flags := s.flags
      isRemote := true
      state := ⟨("sw", TraceState.vendorValue s.spanId s.isSampled) :: forwarded⟩ }
  parent : (next.span.bind fun remote => remote.state.vendorParent?) =
    some (String.ofList s.spanHex)
  options : next.options = request.options
  optionsText : next.optionsText = request.optionsText
  signature : next.signature = request.signature
  inboundState : next.inboundState.isSome ↔ forwarded ≠ []

/-- A request that is passed on with a valid span is continued by the next service: the identity of
the span, its place in the trace state and the options of the client arrive as they were. -/
theorem extract_sent (verify : Verifier) (inbound carrier : Carrier) (header : String)
    (result : SamplingResult) (s : SpanContext) (hs : s.isValid)
    (hstate : s.state = result.traceState (TraceState.ofHeader header))
    (hcarrier : carrier.takesHeaders) (hfree : ∀ name ∈ traceHeaders, carrier.get? name = none) :
    ∃ forwarded, Continues (extract verify inbound) s forwarded
      (extract verify (sent (extract verify inbound) s carrier)) := by
  -- all that matters of the request is that its texts read as its options
  have hr := keepsOptions_extract verify inbound
  generalize extract verify inbound = r at hr ⊢
  have hwire : TraceState.WireSafe
      (s.state.outbound (TraceState.vendorValue s.spanId s.isSampled)) := by
    have hforeign : s.state.foreign = (TraceState.ofHeader header).foreign := by
      rw [hstate, foreign_traceState]
    rw [TraceState.outbound_congr hforeign]
    exact (TraceState.wireSafe_ofHeader header).outbound (TraceState.wireMember_vendorValue _ _)
  have hstateText := get?_sent_traceState r hs hcarrier
  have hspan : (extract verify (sent r s carrier)).span = some
      { traceId := s.traceId
        spanId := s.spanId
        flags := s.flags
        isRemote := true
        state := s.state.outbound (TraceState.vendorValue s.spanId s.isSampled) } :=
    span?_of_headers hs (get?_sent_traceParent r hs hcarrier) hstateText hwire
  obtain ⟨hoptions, hoptionsText, hsignature⟩ := options_of_headers hr
    (get?_sent_options r hs hcarrier (hfree optionsHeader (by simp [traceHeaders])))
    (get?_sent_signature r hs hcarrier (hfree signatureHeader (by simp [traceHeaders])))
  refine ⟨s.state.packed (TraceState.vendorValue s.spanId s.isSampled), ?_⟩
  constructor
  · exact TraceState.packed_sublist _ _
  · exact hspan
  · rw [hspan, Option.bind_some]
    exact TraceState.vendorParent?_outbound _ _ _
  · exact hoptions
  · exact hoptionsText
  · exact hsignature
  · rw [extract, inboundState?, hstateText, Option.isSome_filter, Option.any_some]
    exact any_isForeignEntry_outbound hwire

/-- A signed request with vendor state of others, passed on in a document with an answer to trace
options in the state of its span. -/
theorem extract_sent_signed :
    let inbound := Carrier.map
      [("traceparent", "00-80f198ee56343ba864fe8b2a57d3eff7-00f067aa0ba902b7-01"),
        ("tracestate", "sw=a2d8376f3cab2837-01,congo=t61rcWkgMzE"),
        ("X-Trace-Options", "trigger-trace;ts=1564597681"), ("X-Trace-Options-Signature", "2c1c")]
    let carrier := Carrier.document (.object [("host", .text "example")])
    let result : SamplingResult := ⟨.recordAndSample, {}, some "trigger-trace####ok"⟩
    let s : SpanContext :=
      { traceId := 0x80f198ee56343ba864fe8b2a57d3eff7
        spanId := 0x00000000000000ab
        flags := 0xff
        state :=
          result.traceState (TraceState.ofHeader "sw=a2d8376f3cab2837-01,congo=t61rcWkgMzE") }
    ∃ forwarded, Continues (extract .presence inbound) s forwarded
      (extract .presence (sent (extract .presence inbound) s carrier)) := by
  intro inbound carrier result s
  have hfree : ∀ name ∈ traceHeaders, carrier.get? name = none := by decide
  exact extract_sent .presence inbound carrier "sw=a2d8376f3cab2837-01,congo=t61rcWkgMzE" result s
    rfl rfl rfl hfree

end TraceSampler.RequestContext
