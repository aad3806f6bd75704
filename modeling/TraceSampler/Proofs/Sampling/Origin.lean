import TraceSampler.Proofs.Text
import TraceSampler.Sampling.Engine

/-!
# How a span begins

A request starts a trace unless what came in with it can be gone on with: a remote span that is
identified, with a vendor member in its trace state that names a span. Both are said here by what
came in alone, and shown to be what a sampler goes by.

* `vendorSpan?_eq_some_iff`: the vendor values that name a span.
* `Origin.of_eq_newTrace_iff`, `Origin.of_eq_continued_iff`, `Origin.of_eq_inProcess_iff`: which
  requests start a trace, which go on with one, and which follow a parent in the process.
* `sample_cases`: a span with a parent in the process follows it; all others are named and decided
  on.
* `questions_eq`: what the decision maker is asked meanwhile.
-/

namespace TraceSampler

/-! ## Vendor values -/

namespace TraceState

/-- A vendor value names a span by sixteen hexadecimal digits, with `-00` or `-01` behind them. -/
structure NamesSpan (value span : String) : Prop where
  length : span.toList.length = 16
  digits : ∀ c ∈ span.toList, c ∈ Text.Hex.digits
  flags : value = span ++ "-00" ∨ value = span ++ "-01"

theorem NamesSpan.split {value span : String} (h : NamesSpan value span) :
    ∃ flags, (flags = ['0', '0'] ∨ flags = ['0', '1']) ∧
      Text.split '-' value.toList = [span.toList, flags] := by
  have hspan : '-' ∉ span.toList := fun hmem => absurd (h.digits _ hmem) (by decide)
  have hcut : ∀ flags : List Char, '-' ∉ flags →
      Text.split '-' (span.toList ++ '-' :: flags) = [span.toList, flags] := by
    intro flags hflags
    rw [Text.split_append hspan, Text.split_eq_singleton hflags]
  rcases h.flags with rfl | rfl
  · refine ⟨['0', '0'], Or.inl rfl, ?_⟩
    rw [String.toList_append]
    exact hcut ['0', '0'] (by decide)
  · refine ⟨['0', '1'], Or.inr rfl, ?_⟩
    rw [String.toList_append]
    exact hcut ['0', '1'] (by decide)

/-- The vendor values that name a span are those that are read. -/
theorem vendorSpan?_eq_some_iff {value span : String} :
    vendorSpan? value = some span ↔ NamesSpan value span := by
  constructor
  · intro h
    unfold vendorSpan? at h
    split at h
    · next digits flags hsplit =>
      split at h
      · next hfields =>
        obtain rfl := Option.some.inj h
        simp only [Bool.and_eq_true, Bool.or_eq_true, beq_iff_eq, List.all_eq_true] at hfields
        obtain ⟨⟨hlength, hdigits⟩, hflags⟩ := hfields
        -- the two pieces are all of the value
        have hjoin : value.toList = digits ++ '-' :: flags := by
          rw [← Text.join_split '-' value.toList, hsplit]
          simp [Text.join]
        refine ⟨by simpa using hlength, ?_, ?_⟩
        · intro c hc
          rw [String.toList_ofList] at hc
          exact Text.Hex.isDigit_iff_mem_digits.1 (hdigits c hc)
        · rcases hflags with rfl | rfl
          · left
            rw [← String.toList_inj, hjoin]
            simp
          · right
            rw [← String.toList_inj, hjoin]
            simp
      · simp at h
    · simp at h
  · intro h
    obtain ⟨flags, hflags, hsplit⟩ := h.split
    have hdigits : span.toList.all Text.Hex.isDigit = true :=
      List.all_eq_true.2 fun c hc => Text.Hex.isDigit_iff_mem_digits.2 (h.digits c hc)
    unfold vendorSpan?
    rw [hsplit]
    rcases hflags with rfl | rfl
    · simp [h.length, hdigits]
    · simp [h.length, hdigits]

/-- The span that a trace state names, by the value of its vendor member. -/
theorem vendorParent?_eq_some_iff {s : TraceState} {span : String} :
    s.vendorParent? = some span ↔ ∃ value, s.get? "sw" = some value ∧ NamesSpan value span := by
  unfold vendorParent?
  rw [Option.bind_eq_some_iff]
  constructor
  · rintro ⟨value, hvalue, hspan⟩
    exact ⟨value, hvalue, vendorSpan?_eq_some_iff.1 hspan⟩
  · rintro ⟨value, hvalue, hspan⟩
    exact ⟨value, hvalue, vendorSpan?_eq_some_iff.2 hspan⟩

theorem vendorParent?_eq_none_iff {s : TraceState} :
    s.vendorParent? = none ↔
      ∀ value, s.get? "sw" = some value → ∀ span, ¬ NamesSpan value span := by
  rw [Option.eq_none_iff_forall_ne_some]
  constructor
  · intro h value hvalue span hspan
    exact h span (vendorParent?_eq_some_iff.2 ⟨value, hvalue, hspan⟩)
  · intro h span hsome
    obtain ⟨value, hvalue, hspan⟩ := vendorParent?_eq_some_iff.1 hsome
    exact h value hvalue span hspan

end TraceState

/-! ## What a request goes on with -/

namespace RequestContext

/-- The request starts a trace, for what came in with it leads nowhere. -/
inductive StartsTrace (c : RequestContext) : Prop
  /-- No span came in. -/
  | absent (h : c.span = none)
  /-- The span that came in identifies nothing. -/
  | unidentified {parent : SpanContext} (h : c.span = some parent)
      (hzero : parent.traceId = 0 ∨ parent.spanId = 0)
  /-- The span is remote, and its trace state has no vendor member that names a span. -/
  | unnamed {parent : SpanContext} (h : c.span = some parent) (hremote : parent.isRemote = true)
      (hvendor : ∀ value, parent.state.get? "sw" = some value →
        ∀ span, ¬ TraceState.NamesSpan value span)

/-- The request goes on with the trace of a remote parent, whose trace state names a span. -/
structure GoesOnWith (c : RequestContext) (parent : SpanContext) (parentId : String) : Prop where
  span : c.span = some parent
  traceId : parent.traceId ≠ 0
  spanId : parent.spanId ≠ 0
  isRemote : parent.isRemote = true
  named : ∃ value, parent.state.get? "sw" = some value ∧ TraceState.NamesSpan value parentId

/-- The request follows a parent in this process. -/
structure Follows (c : RequestContext) (parent : SpanContext) : Prop where
  span : c.span = some parent
  traceId : parent.traceId ≠ 0
  spanId : parent.spanId ≠ 0
  isLocal : parent.isRemote = false

/-- The request starts the work of this process: there is no parent here that it follows. -/
def StartsWork (c : RequestContext) : Prop := ∀ parent, ¬ c.Follows parent

end RequestContext

namespace SpanContext

theorem isValid_iff {s : SpanContext} : s.isValid = true ↔ s.traceId ≠ 0 ∧ s.spanId ≠ 0 := by
  simp only [isValid, Bool.and_eq_true, bne_iff_ne, ne_eq]

theorem isValid_eq_false_iff {s : SpanContext} :
    s.isValid = false ↔ s.traceId = 0 ∨ s.spanId = 0 := by
  simp only [isValid, Bool.and_eq_false_iff, bne_eq_false_iff_eq]

end SpanContext

namespace SpanRequest

/-- The requests that start a trace. -/
theorem Origin.of_eq_newTrace_iff {c : RequestContext} :
    Origin.of c = .newTrace ↔ c.StartsTrace := by
  constructor
  · intro h
    unfold Origin.of at h
    split at h
    · next hfilter =>
      -- either nothing came in, or it was filtered out for its identifiers
      cases hspan : c.span with
      | none => exact .absent hspan
      | some parent =>
        have hinvalid : parent.isValid = false := by simpa [hspan, Option.filter] using hfilter
        exact .unidentified hspan (SpanContext.isValid_eq_false_iff.1 hinvalid)
    · next parent hfilter =>
      obtain ⟨hspan, -⟩ := Option.filter_eq_some_iff.1 hfilter
      split at h
      · next hremote =>
        split at h
        · simp at h
        · next hvendor =>
          exact .unnamed hspan hremote (TraceState.vendorParent?_eq_none_iff.1 hvendor)
      · simp at h
  · rintro (hnone | ⟨hspan, hzero⟩ | @⟨parent, hspan, hremote, hvendor⟩)
    · simp [Origin.of, hnone]
    · have hinvalid := SpanContext.isValid_eq_false_iff.2 hzero
      simp [Origin.of, hspan, Option.filter, hinvalid]
    · have hnone := TraceState.vendorParent?_eq_none_iff.2 hvendor
      cases hvalid : parent.isValid with
      | false => simp [Origin.of, hspan, Option.filter, hvalid]
      | true => simp [Origin.of, hspan, Option.filter, hvalid, hremote, hnone]

theorem Origin.isNewTrace_of_iff {c : RequestContext}
    (hroot : ∀ sampled, Origin.of c ≠ .inProcess sampled) :
    (Origin.of c).isNewTrace = true ↔ c.StartsTrace := by
  rw [← Origin.of_eq_newTrace_iff]
  cases horigin : Origin.of c with
  | inProcess sampled => exact absurd horigin (hroot sampled)
  | newTrace => simp [Origin.isNewTrace]
  | continued parent parentId => simp [Origin.isNewTrace]

/-- The requests that go on with a trace, and the parent that each of them has. -/
theorem Origin.of_eq_continued_iff {c : RequestContext} {parent : SpanContext} {parentId : String} :
    Origin.of c = .continued parent parentId ↔ c.GoesOnWith parent parentId := by
  constructor
  · intro h
    unfold Origin.of at h
    split at h
    · simp at h
    · next s hfilter =>
      obtain ⟨hspan, hvalid⟩ := Option.filter_eq_some_iff.1 hfilter
      obtain ⟨htrace, hid⟩ := SpanContext.isValid_iff.1 hvalid
      split at h
      · next hremote =>
        split at h
        · next id hvendor =>
          obtain ⟨rfl, rfl⟩ := Origin.continued.inj h
          exact ⟨hspan, htrace, hid, hremote, TraceState.vendorParent?_eq_some_iff.1 hvendor⟩
        · simp at h
      · simp at h
  · intro h
    have hvalid : parent.isValid = true := SpanContext.isValid_iff.2 ⟨h.traceId, h.spanId⟩
    have hvendor : parent.state.vendorParent? = some parentId :=
      TraceState.vendorParent?_eq_some_iff.2 h.named
    simp [Origin.of, h.span, Option.filter, hvalid, h.isRemote, hvendor]

/-- The requests that follow a parent in the process. -/
theorem Origin.of_eq_inProcess_iff {c : RequestContext} {sampled : Bool} :
    Origin.of c = .inProcess sampled ↔ ∃ parent, c.Follows parent ∧ parent.isSampled = sampled := by
  constructor
  · intro h
    unfold Origin.of at h
    split at h
    · simp at h
    · next parent hfilter =>
      obtain ⟨hspan, hvalid⟩ := Option.filter_eq_some_iff.1 hfilter
      obtain ⟨htrace, hid⟩ := SpanContext.isValid_iff.1 hvalid
      split at h
      · split at h
        · simp at h
        · simp at h
      · next hlocal =>
        exact ⟨parent, ⟨hspan, htrace, hid, Bool.eq_false_iff.2 hlocal⟩, Origin.inProcess.inj h⟩
  · rintro ⟨parent, h, rfl⟩
    have hvalid : parent.isValid = true := SpanContext.isValid_iff.2 ⟨h.traceId, h.spanId⟩
    simp [Origin.of, h.span, Option.filter, hvalid, h.isLocal]

theorem Origin.of_ne_inProcess_iff {c : RequestContext} :
    (∀ sampled, Origin.of c ≠ .inProcess sampled) ↔ c.StartsWork := by
  constructor
  · intro h parent hfollows
    exact h parent.isSampled (of_eq_inProcess_iff.2 ⟨parent, hfollows, rfl⟩)
  · intro h sampled horigin
    obtain ⟨parent, hfollows, -⟩ := of_eq_inProcess_iff.1 horigin
    exact h parent hfollows

/-! ## Other options -/

/-- The request with other trace options. -/
def withOptions (r : SpanRequest) (options : Option TraceOptions) : SpanRequest :=
  { r with context := { r.context with options } }

/-- How a span begins is no matter of its options. -/
theorem origin_withOptions (r : SpanRequest) (options : Option TraceOptions) :
    Origin.of (r.withOptions options).context = Origin.of r.context := rfl

theorem startsTrace_withOptions {r : SpanRequest} {options : Option TraceOptions} :
    (r.withOptions options).context.StartsTrace ↔ r.context.StartsTrace := by
  rw [← Origin.of_eq_newTrace_iff, ← Origin.of_eq_newTrace_iff, origin_withOptions]

/-- The options are not among the attributes that are set whatever is decided. -/
theorem additional_withOptions (r : SpanRequest) (options : Option TraceOptions) (o : Origin)
    (transaction : String) :
    (r.withOptions options).additional o transaction = r.additional o transaction := rfl

end SpanRequest

/-! ## Sampling by origin -/

namespace Sampler

variable {σ : Type} {config : Transaction.NamingConfig} {decide : DecisionMaker σ} {s : Sampler σ}
  {r : SpanRequest} {dice : Nat}

/-- A span with a parent in the process follows it and nobody is asked. Every other span is named
and decided on. -/
theorem sample_cases (config : Transaction.NamingConfig) (decide : DecisionMaker σ) (s : Sampler σ)
    (r : SpanRequest) (dice : Nat) :
    (∃ sampled, SpanRequest.Origin.of r.context = .inProcess sampled ∧ asked? r dice = none ∧
      s.sample config decide r dice = (s, if sampled then .parentSampled else .parentNotSampled)) ∨
    ((∀ sampled, SpanRequest.Origin.of r.context ≠ .inProcess sampled) ∧
      asked? r dice = some (r.ask (SpanRequest.Origin.of r.context) dice) ∧
      s.sample config decide r dice =
        s.sampleRoot config decide r (SpanRequest.Origin.of r.context) dice) := by
  unfold sample asked?
  cases SpanRequest.Origin.of r.context with
  | inProcess sampled => exact Or.inl ⟨sampled, rfl, rfl, rfl⟩
  | newTrace => exact Or.inr ⟨by simp, rfl, rfl⟩
  | continued parent parentId => exact Or.inr ⟨by simp, rfl, rfl⟩

theorem sample_of_newTrace (h : SpanRequest.Origin.of r.context = .newTrace) :
    s.sample config decide r dice = s.sampleRoot config decide r .newTrace dice := by
  unfold sample
  rw [h]

theorem asked?_of_newTrace (h : SpanRequest.Origin.of r.context = .newTrace) :
    asked? r dice = some (r.ask .newTrace dice) := by
  unfold asked?
  rw [h]

theorem sample_of_continued {parent : SpanContext} {parentId : String}
    (h : SpanRequest.Origin.of r.context = .continued parent parentId) :
    s.sample config decide r dice =
      s.sampleRoot config decide r (.continued parent parentId) dice := by
  unfold sample
  rw [h]

/-! ## What the decision maker is asked -/

/-- A decision maker that notes down what it is asked. -/
def noting (decide : DecisionMaker σ) : DecisionMaker (σ × List Quota.Ask) :=
  fun (maker, notes) ask =>
    let (maker, answer) := decide maker ask
    ((maker, notes ++ [ask]), answer)

/-- The questions that are put to the decision maker while a span is sampled, in their order. -/
def questions (config : Transaction.NamingConfig) (decide : DecisionMaker σ) (s : Sampler σ)
    (r : SpanRequest) (dice : Nat) : List Quota.Ask :=
  let noted : Sampler (σ × List Quota.Ask) := { maker := (s.maker, []), namer := s.namer }
  (noted.sample config (noting decide) r dice).1.maker.2

/-- A decision maker is asked once at most. -/
theorem questions_eq (config : Transaction.NamingConfig) (decide : DecisionMaker σ) (s : Sampler σ)
    (r : SpanRequest) (dice : Nat) : questions config decide s r dice = (asked? r dice).toList := by
  rcases sample_cases config (noting decide) { maker := (s.maker, []), namer := s.namer } r dice with
    ⟨sampled, -, hasked, hsample⟩ | ⟨-, hasked, hsample⟩
  · simp only [questions, hsample, hasked, Option.toList_none]
  · simp only [questions, hsample, hasked, Option.toList_some]
    rfl

end Sampler

end TraceSampler
