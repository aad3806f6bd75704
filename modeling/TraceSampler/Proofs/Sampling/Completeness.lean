import TraceSampler.Proofs.Sampling.ClientOptions

/-!
# Complete attributes

What the exporter is told of a span is put together in several places, where later values take the
place of earlier ones: the markers, what tells how the span was sampled, what its client asked for,
and what tells where it comes from. Whoever decides and whatever the client wrote, nothing is
missing in the end, and what is there fits the decision and what led to it.

* `get?_markers`, `get?_ofVerdict_none`: the attributes of a verdict.
* `get?_verdictResult_of_marker`, `isSome_get?_verdictResult_iff`: the same for any answer of a
  decision maker.
* `complete_conclude`, `complete_ofParent`: the attributes of a span that starts the work of the
  process, and of one that follows a parent in it.
* `sample_withOptions_complete`: both, for every span that is sampled.
-/

namespace TraceSampler

open Quota (Verdict VerdictError)

/-- An attribute is there and tells whether something holds. -/
def Attributes.Tells (a : Attributes) (key : String) (P : Prop) : Prop :=
  ∃ b, a.get? key = some (.bool b) ∧ (b = true ↔ P)

namespace SamplingResult

/-- The names of the markers. -/
def markerKeys : List String :=
  ["sw.internal.detailedTracing", "sw.internal.metrics", "sw.internal.sampler"]

/-- The names of the attributes that tell at which rate and from which bucket a span was sampled. -/
def configKeys : List String :=
  ["sw.SampleRate", "sw.SampleSource", "sw.BucketRate", "sw.BucketCapacity"]

/-- The names under which a verdict is written. -/
def verdictKeys : List String := "sw.RequestType" :: (markerKeys ++ configKeys)

/-- The attributes of a result are complete, and fit its decision and what led to it: what came in
with the request, how its transaction is called, and what the decision maker answered if it was
asked. -/
structure Complete (c : RequestContext) (transaction : String)
    (answer : Option (Except VerdictError (Verdict Float))) (result : SamplingResult) : Prop where
  sampler : result.attributes.get? "sw.internal.sampler" = some (.bool true)
  detailed : result.attributes.Tells "sw.internal.detailedTracing"
    (result.decision = .recordAndSample)
  metrics : result.attributes.Tells "sw.internal.metrics"
    ((∃ parent, c.Follows parent ∧ parent.isSampled = true) ∨
      ∃ v, answer = some (.ok v) ∧ v.measured = true)
  transaction : c.StartsWork → result.attributes.get? "sw.transaction" = some (.text transaction)
  parentId : ∀ value, result.attributes.get? "sw.tracestate_parent_id" = some value ↔
    ∃ parent parentId, c.GoesOnWith parent parentId ∧ value = .text parentId
  requestType : (result.attributes.get? "sw.RequestType").isSome = true ↔
    c.StartsWork ∧ result.decision = .recordAndSample
  config : ∀ key ∈ configKeys, ((result.attributes.get? key).isSome = true ↔
    (c.StartsWork ∧ result.decision = .recordAndSample) ∧
      ∃ v, answer = some (.ok v) ∧ v.config.isSome = true)

/-! ## The attributes of a verdict -/

theorem get?_markers (detailed metrics : Bool) (key : String) :
    (markers detailed metrics).get? key =
      if key = "sw.internal.sampler" then some (.bool true)
      else if key = "sw.internal.metrics" then some (.bool metrics)
      else if key = "sw.internal.detailedTracing" then some (.bool detailed)
      else none := by
  rw [markers, Attributes.get?_ofList]
  simp only [List.reverse_cons, List.reverse_nil, List.nil_append, List.cons_append,
    Attributes.lookup_cons_eq_ite, List.lookup_nil]

/-- Only markers stand under their names. -/
theorem isSome_get?_markers_iff {detailed metrics : Bool} {key : String} :
    ((markers detailed metrics).get? key).isSome = true ↔ key ∈ markerKeys := by
  rw [markers, Attributes.get?_ofList, Attributes.isSome_lookup_reverse_iff]
  rfl

/-- What tells how a request was sampled. -/
def samplingEntries (v : Verdict Float) : List (String × AttributeValue) :=
  if v.sampled then configAttributes v ++ [("sw.RequestType", .text v.kind.name)] else []

theorem mem_map_configAttributes_iff {v : Verdict Float} {key : String} :
    key ∈ (configAttributes v).map (·.1) ↔ key ∈ configKeys ∧ v.config.isSome = true := by
  unfold configAttributes
  cases v.config with
  | none => simp
  | some config => simp [configKeys]

theorem mem_map_samplingEntries_iff {v : Verdict Float} {key : String} :
    key ∈ (samplingEntries v).map (·.1) ↔
      v.sampled = true ∧
        (key = "sw.RequestType" ∨ (key ∈ configKeys ∧ v.config.isSome = true)) := by
  unfold samplingEntries
  cases v.sampled with
  | false => simp
  | true =>
    rw [if_pos rfl, List.map_append, List.mem_append, mem_map_configAttributes_iff]
    simp [or_comm]

/-- Without a client, what a verdict calls for is what tells how the request was sampled, and the
markers. -/
theorem get?_ofVerdict_none (v : Verdict Float) (isNewTrace : Bool) (key : String) :
    (ofVerdict v none isNewTrace).attributes.get? key =
      ((samplingEntries v).reverse.lookup key).or ((markers v.sampled v.measured).get? key) := by
  unfold ofVerdict samplingEntries
  cases v.sampled with
  | false =>
    cases v.measured with
    | false => rfl
    | true => rfl
  | true =>
    simp only [Option.toList_none, ite_self, List.flatMap_nil, List.append_nil, Bool.not_true,
      Bool.false_eq_true, if_false, if_true, Attributes.get?_foldl_insert]

end SamplingResult

namespace Sampler

open SamplingResult

/-! ## The attributes of an answer -/

/-- A flag of the verdict that an answer brings. Without a verdict it is off. -/
def verdictFlag (flag : Verdict Float → Bool) : Except VerdictError (Verdict Float) → Bool
  | .ok v => flag v
  | .error _ => false

theorem verdictFlag_eq_true_iff {flag : Verdict Float → Bool}
    {answer : Except VerdictError (Verdict Float)} :
    verdictFlag flag answer = true ↔ ∃ v, answer = .ok v ∧ flag v = true := by
  cases answer with
  | error e => simp [verdictFlag]
  | ok v => simp [verdictFlag]

variable (isNewTrace : Bool) (answer : Except VerdictError (Verdict Float))

theorem decision_verdictResult_eq_iff {options : Option TraceOptions} :
    (verdictResult options isNewTrace answer).decision = .recordAndSample ↔
      verdictFlag Verdict.sampled answer = true := by
  cases answer with
  | error e => simp [verdictResult, notTraced, verdictFlag]
  | ok v => exact decision_ofVerdict_eq_iff

/-- The markers stand whatever else there is. -/
theorem get?_verdictResult_of_marker {key : String} (hkey : key ∈ markerKeys) :
    (verdictResult none isNewTrace answer).attributes.get? key =
      (markers (verdictFlag Verdict.sampled answer)
        (verdictFlag Verdict.measured answer)).get? key := by
  cases answer with
  | error e => rfl
  | ok v =>
    have hother : key ∉ (samplingEntries v).map (·.1) := by
      rw [mem_map_samplingEntries_iff]
      intro h
      rcases h with ⟨-, rfl | ⟨hconfig, -⟩⟩
      · exact absurd hkey (by decide)
      · have hdisjoint : ∀ name ∈ configKeys, name ∉ markerKeys := by decide
        exact hdisjoint key hconfig hkey
    have hnone : (samplingEntries v).reverse.lookup key = none := by
      rw [← Option.not_isSome_iff_eq_none, Attributes.isSome_lookup_reverse_iff]
      exact hother
    rw [verdictResult, get?_ofVerdict_none, hnone, Option.none_or]
    rfl

/-- What is there under another name tells how the request was sampled. -/
theorem isSome_get?_verdictResult_iff {key : String} (hkey : key ∉ markerKeys) :
    ((verdictResult none isNewTrace answer).attributes.get? key).isSome = true ↔
      ∃ v, answer = .ok v ∧ v.sampled = true ∧
        (key = "sw.RequestType" ∨ (key ∈ configKeys ∧ v.config.isSome = true)) := by
  have hnone : ∀ detailed metrics, (markers detailed metrics).get? key = none := by
    intro detailed metrics
    rw [← Option.not_isSome_iff_eq_none, isSome_get?_markers_iff]
    exact hkey
  cases answer with
  | error e =>
    have hmarkers : (verdictResult none isNewTrace (.error e)).attributes = markers false false :=
      rfl
    simp [hmarkers, hnone]
  | ok v =>
    rw [verdictResult, get?_ofVerdict_none, hnone, Option.or_none,
      Attributes.isSome_lookup_reverse_iff, mem_map_samplingEntries_iff]
    simp

/-! ## The attributes of a span -/

variable {r : SpanRequest} {transaction : String} (o : SpanRequest.Origin)

/-- The client has no part in what stands under the keys of the library. -/
theorem get?_conclude_of_isVendorKey (hkeyed : ∀ o ∈ r.context.options, o.WellKeyed)
    {key : String} (hkey : IsVendorKey key) :
    (conclude r o transaction answer).attributes.get? key =
      ((r.additional o transaction).get? key).or
        ((verdictResult none o.isNewTrace answer).attributes.get? key) := by
  rw [get?_conclude,
    (sameOutside_verdictResult hkeyed _ answer).attributes key hkey.not_isClientKey]

/-- What a verdict writes stays. -/
theorem get?_conclude_of_verdictKey (hkeyed : ∀ o ∈ r.context.options, o.WellKeyed)
    {key : String} (hkey : key ∈ verdictKeys) :
    (conclude r o transaction answer).attributes.get? key =
      (verdictResult none o.isNewTrace answer).attributes.get? key := by
  -- the three keys that are written later are others
  have hlater : ∀ name ∈ verdictKeys, IsVendorKey name ∧ name ≠ "sw.transaction" ∧
      name ≠ "sw.w3c.tracestate" ∧ name ≠ "sw.tracestate_parent_id" := by decide
  rcases hlater key hkey with ⟨hvendor, hname, hstate, hparent⟩
  rw [get?_conclude_of_isVendorKey answer o hkeyed hvendor, SpanRequest.get?_additional,
    if_neg hname, if_neg hstate, if_neg hparent, Option.none_or]

theorem get?_conclude_of_marker (hkeyed : ∀ o ∈ r.context.options, o.WellKeyed)
    {key : String} (hkey : key ∈ markerKeys) :
    (conclude r o transaction answer).attributes.get? key =
      (markers (verdictFlag Verdict.sampled answer)
        (verdictFlag Verdict.measured answer)).get? key := by
  have hwritten : key ∈ verdictKeys := List.mem_cons_of_mem _ (List.mem_append_left _ hkey)
  rw [get?_conclude_of_verdictKey answer o hkeyed hwritten, get?_verdictResult_of_marker _ _ hkey]

/-- What tells how a span was sampled is there where it was sampled; the rate and the bucket are
where the verdict knows of them. -/
theorem isSome_get?_conclude_iff (hkeyed : ∀ o ∈ r.context.options, o.WellKeyed) {key : String}
    (hkey : key ∈ "sw.RequestType" :: configKeys) :
    ((conclude r o transaction answer).attributes.get? key).isSome = true ↔
      ∃ v, answer = .ok v ∧ v.sampled = true ∧
        (key = "sw.RequestType" ∨ (key ∈ configKeys ∧ v.config.isSome = true)) := by
  have hother : ∀ name ∈ "sw.RequestType" :: configKeys,
      name ∈ verdictKeys ∧ name ∉ markerKeys := by decide
  rcases hother key hkey with ⟨hwritten, hmarker⟩
  rw [get?_conclude_of_verdictKey answer o hkeyed hwritten,
    isSome_get?_verdictResult_iff _ answer hmarker]

/-- The span that a trace goes on from is told of where there is one, and no verdict tells of
another. -/
theorem get?_conclude_parentId (hkeyed : ∀ o ∈ r.context.options, o.WellKeyed) :
    (conclude r o transaction answer).attributes.get? "sw.tracestate_parent_id" =
      o.parentId?.map .text := by
  have hverdict : (verdictResult none o.isNewTrace answer).attributes.get?
      "sw.tracestate_parent_id" = none := by
    rw [← Option.not_isSome_iff_eq_none, isSome_get?_verdictResult_iff _ answer (by decide)]
    rintro ⟨v, -, -, hkey | ⟨hkey, -⟩⟩
    · exact absurd hkey (by decide)
    · exact absurd hkey (by decide)
  rw [get?_conclude_of_isVendorKey answer o hkeyed (by decide), hverdict, Option.or_none,
    SpanRequest.get?_additional, if_neg (by decide), if_neg (by decide), if_pos rfl]

theorem get?_conclude_transaction :
    (conclude r o transaction answer).attributes.get? "sw.transaction" =
      some (.text transaction) := by
  rw [get?_conclude, SpanRequest.get?_additional, if_pos rfl, Option.some_or]

/-- The span that a request goes on from, if it goes on with a trace. -/
theorem parentId?_of_eq_some_iff {c : RequestContext} {parentId : String} :
    (SpanRequest.Origin.of c).parentId? = some parentId ↔
      ∃ parent, c.GoesOnWith parent parentId := by
  simp only [← SpanRequest.Origin.of_eq_continued_iff]
  cases SpanRequest.Origin.of c with
  | inProcess sampled => simp [SpanRequest.Origin.parentId?]
  | newTrace => simp [SpanRequest.Origin.parentId?]
  | continued parent parentId' => simp [SpanRequest.Origin.parentId?]

/-- A span that starts the work of the process has complete attributes, whatever is decided. -/
theorem complete_conclude (hkeyed : ∀ o ∈ r.context.options, o.WellKeyed)
    (hstarts : r.context.StartsWork) :
    Complete r.context transaction (some answer)
      (conclude r (SpanRequest.Origin.of r.context) transaction answer) := by
  let o := SpanRequest.Origin.of r.context
  have hdecision : (conclude r o transaction answer).decision = .recordAndSample ↔
      verdictFlag Verdict.sampled answer = true := by
    rw [decision_conclude, decision_verdictResult_eq_iff]
  constructor
  case sampler =>
    rw [get?_conclude_of_marker answer o hkeyed (by decide), get?_markers]
    rfl
  case detailed =>
    refine ⟨verdictFlag Verdict.sampled answer, ?_, hdecision.symm⟩
    rw [get?_conclude_of_marker answer o hkeyed (by decide), get?_markers]
    rfl
  case metrics =>
    refine ⟨verdictFlag Verdict.measured answer, ?_, ?_⟩
    · rw [get?_conclude_of_marker answer o hkeyed (by decide), get?_markers]
      rfl
    · have hnobody : ¬ ∃ parent, r.context.Follows parent ∧ parent.isSampled = true :=
        fun ⟨parent, hfollows, _⟩ => hstarts parent hfollows
      simp only [verdictFlag_eq_true_iff, hnobody, false_or, Option.some.injEq]
  case transaction =>
    intro _
    exact get?_conclude_transaction answer o
  case parentId =>
    intro value
    rw [get?_conclude_parentId answer o hkeyed, Option.map_eq_some_iff]
    constructor
    · rintro ⟨parentId, hparentId, rfl⟩
      rcases parentId?_of_eq_some_iff.1 hparentId with ⟨parent, hgoes⟩
      exact ⟨parent, parentId, hgoes, rfl⟩
    · rintro ⟨parent, parentId, hgoes, rfl⟩
      exact ⟨parentId, parentId?_of_eq_some_iff.2 ⟨parent, hgoes⟩, rfl⟩
  case requestType =>
    rw [isSome_get?_conclude_iff answer o hkeyed (by decide), hdecision, verdictFlag_eq_true_iff]
    constructor
    · rintro ⟨v, hv, hsampled, -⟩
      exact ⟨hstarts, v, hv, hsampled⟩
    · rintro ⟨-, v, hv, hsampled⟩
      exact ⟨v, hv, hsampled, .inl rfl⟩
  case config =>
    intro key hkey
    rw [isSome_get?_conclude_iff answer o hkeyed (List.mem_cons_of_mem _ hkey), hdecision,
      verdictFlag_eq_true_iff]
    constructor
    · rintro ⟨v, hv, hsampled, rfl | ⟨-, hconfig⟩⟩
      · exact absurd hkey (by decide)
      · exact ⟨⟨hstarts, v, hv, hsampled⟩, v, congrArg some hv, hconfig⟩
    · rintro ⟨⟨-, v, hv, hsampled⟩, v', hv', hconfig⟩
      obtain rfl := Except.ok.inj (hv.symm.trans (Option.some.inj hv'))
      exact ⟨v, hv, hsampled, .inr ⟨hkey, hconfig⟩⟩

/-- A span that follows a parent in the process has complete attributes: its markers, which tell
whether the parent was sampled. -/
theorem complete_ofParent {c : RequestContext} {parent : SpanContext} (h : c.Follows parent) :
    Complete c transaction none
      (if parent.isSampled then parentSampled else parentNotSampled) := by
  have hdecision : (if parent.isSampled then parentSampled else parentNotSampled).decision =
      .recordAndSample ↔ parent.isSampled = true := by
    cases parent.isSampled with
    | false => simp [parentNotSampled]
    | true => simp [parentSampled]
  have hfollows : (∃ parent, c.Follows parent ∧ parent.isSampled = true) ↔
      parent.isSampled = true := by
    constructor
    · rintro ⟨other, hother, hsampled⟩
      obtain rfl := Option.some.inj (h.span.symm.trans hother.span)
      exact hsampled
    · exact fun hsampled => ⟨parent, h, hsampled⟩
  have hnostart : ¬ c.StartsWork := fun hstarts => hstarts parent h
  -- under other names than those of the markers there is nothing
  have hnone : ∀ key, key ∉ markerKeys →
      (if parent.isSampled then parentSampled else parentNotSampled).attributes.get? key =
        none := by
    intro key hkey
    rw [attributes_ofParent, ← Option.not_isSome_iff_eq_none, isSome_get?_markers_iff]
    exact hkey
  constructor
  case sampler =>
    rw [attributes_ofParent, get?_markers]
    rfl
  case detailed =>
    refine ⟨parent.isSampled, ?_, hdecision.symm⟩
    rw [attributes_ofParent, get?_markers]
    rfl
  case metrics =>
    refine ⟨parent.isSampled, ?_, by simp [hfollows]⟩
    rw [attributes_ofParent, get?_markers]
    rfl
  case transaction =>
    intro hstarts
    exact absurd hstarts hnostart
  case parentId =>
    intro value
    rw [hnone _ (by decide)]
    constructor
    · intro hvalue
      simp at hvalue
    · rintro ⟨other, parentId, hgoes, -⟩
      -- the parent is either local or remote
      obtain rfl := Option.some.inj (h.span.symm.trans hgoes.span)
      simpa [h.isLocal] using hgoes.isRemote
  case requestType =>
    rw [hnone _ (by decide)]
    simp [hnostart]
  case config =>
    intro key hkey
    have hdisjoint : ∀ name ∈ configKeys, name ∉ markerKeys := by decide
    rw [hnone key (hdisjoint key hkey)]
    simp [hnostart]

variable {σ : Type}

/-- The attributes of a result are complete and consistent. Whatever state the sampler is in,
whoever decides and whatever trace options came with the request, the attributes tell of the
decision and of what led to it, and none of them is missing. A span with a parent in the process is
neither named nor asked about, and has the markers only; without a verdict a span is dropped, and
the client gets no answer. -/
theorem sample_withOptions_complete (config : Transaction.NamingConfig) (decide : DecisionMaker σ)
    (s : Sampler σ) (r : SpanRequest) (verify : Verifier) (header signature : Option String)
    (dice : Nat) :
    let asked := r.withOptions (TraceOptions.read? verify header signature)
    let after := s.sample config decide asked dice
    let transaction := (s.namer.name config ⟨r.traceId, r.name, r.attributes⟩).2
    Complete asked.context transaction (answer? decide s asked dice) after.2 ∧
    (∀ parent, asked.context.Follows parent →
      questions config decide s asked dice = [] ∧ after.1 = s ∧
        ∀ key, (after.2.attributes.get? key).isSome = true ↔ key ∈ markerKeys) ∧
    (∀ e, answer? decide s asked dice = some (.error e) →
      after.2.decision = .drop ∧ after.2.answer = none) := by
  intro asked after transaction
  have hkeyed : ∀ o ∈ asked.context.options, o.WellKeyed :=
    fun o ho => TraceOptions.wellKeyed_of_read? ho
  rcases sample_cases config decide s asked dice with
    ⟨sampled, horigin, hasked, hsample⟩ | ⟨hroot, hasked, hsample⟩
  · rcases SpanRequest.Origin.of_eq_inProcess_iff.1 horigin with ⟨parent, hfollows, rfl⟩
    have hanswer : answer? decide s asked dice = none := by simp [answer?, hasked]
    have hafter : after = (s, if parent.isSampled then parentSampled else parentNotSampled) :=
      hsample
    rw [hafter, hanswer]
    refine ⟨complete_ofParent hfollows, ?_, ?_⟩
    · intro _ _
      refine ⟨?_, rfl, ?_⟩
      · rw [questions_eq, hasked]
        rfl
      · intro key
        rw [attributes_ofParent, isSome_get?_markers_iff]
    · intro e he
      simp at he
  · have hstarts : asked.context.StartsWork := SpanRequest.Origin.of_ne_inProcess_iff.1 hroot
    have hafter : after.2 = conclude asked (SpanRequest.Origin.of asked.context) transaction
        (decide s.maker (asked.ask (SpanRequest.Origin.of asked.context) dice)).2 :=
      congrArg Prod.snd hsample
    rw [hafter, answer?_of_asked hasked]
    refine ⟨complete_conclude _ hkeyed hstarts, ?_, ?_⟩
    · intro parent hfollows
      exact absurd hfollows (hstarts parent)
    · intro e he
      rw [Option.some.inj he]
      exact ⟨rfl, rfl⟩

/-- A decision maker refuses a verdict when the dice show seven, and else knows of no settings when
it grants one. The client would like to write the markers itself. -/
theorem sample_withOptions_complete_refused :
    let parent : SpanContext := { traceId := 1, spanId := 2, flags := 1 }
    let root : SpanRequest :=
      { context := {}, traceId := 1, name := "checkout", kind := .server, attributes := {} }
    let child : SpanRequest := { root with context := { span := some parent } }
    let decide : DecisionMaker Nat := fun asked a =>
      (asked + 1,
        if a.dice = 7 then .error (.invalidParent a.name)
        else .ok { sampled := true, measured := false, kind := .regular, config := none,
                   exhausted := false })
    let s : Sampler Nat := { maker := 0 }
    let header := some "trigger-trace;sw.internal.sampler=no;custom-tier=gold"
    let options := TraceOptions.read? .presence header none
    let followed := s.sample {} decide (child.withOptions options) 7
    let refused := (s.sample {} decide (root.withOptions options) 7).2
    let granted := (s.sample {} decide (root.withOptions options) 8).2
    (child.withOptions options).context.Follows parent ∧ followed.1 = s ∧
      followed.2.attributes.get? "sw.transaction" = none ∧
      answer? decide s (root.withOptions options) 7 = some (.error (.invalidParent "checkout")) ∧
      refused.decision = .drop ∧ refused.answer = none ∧
      refused.attributes.get? "sw.internal.sampler" = some (.bool true) ∧
      granted.attributes.text? "custom-tier" = some "gold" ∧
      granted.attributes.get? "sw.internal.sampler" = some (.bool true) ∧
      (granted.attributes.get? "sw.RequestType").isSome = true ∧
      ¬ (granted.attributes.get? "sw.SampleRate").isSome = true := by
  intro parent root child decide s header options
  have hfollows : (child.withOptions options).context.Follows parent :=
    ⟨rfl, by decide, by decide, rfl⟩
  have hstarts : (root.withOptions options).context.StartsWork := by
    rintro other ⟨hspan, -, -, -⟩
    exact Option.some_ne_none other hspan.symm
  have hanswer : answer? decide s (root.withOptions options) 7 =
      some (.error (.invalidParent "checkout")) := rfl
  rcases sample_withOptions_complete {} decide s child .presence header none 7 with
    ⟨-, hlocal, -⟩
  rcases sample_withOptions_complete {} decide s root .presence header none 7 with
    ⟨hrefused, -, hwithout⟩
  rcases sample_withOptions_complete {} decide s root .presence header none 8 with
    ⟨hgranted, -, -⟩
  rcases hlocal parent hfollows with ⟨-, hsame, honly⟩
  rcases hwithout _ hanswer with ⟨hdrop, hsilent⟩
  have hunnamed : (s.sample {} decide (child.withOptions options) 7).2.attributes.get?
      "sw.transaction" = none := by
    rw [← Option.not_isSome_iff_eq_none, honly]
    decide
  have hrate : ¬ ((s.sample {} decide (root.withOptions options) 8).2.attributes.get?
      "sw.SampleRate").isSome = true := by
    rw [hgranted.config "sw.SampleRate" (by decide)]
    rintro ⟨-, v, hv, hconfig⟩
    obtain rfl := Except.ok.inj (Option.some.inj hv)
    simp at hconfig
  exact ⟨hfollows, hsame, hunnamed, hanswer, hdrop, hsilent, hrefused.sampler, by decide +kernel,
    hgranted.sampler, hgranted.requestType.2 ⟨hstarts, by decide +kernel⟩, hrate⟩

end Sampler

end TraceSampler
