import TraceSampler.Proofs.Request.Options
import TraceSampler.Proofs.Sampling.Attributes
import TraceSampler.Proofs.Sampling.Origin

/-!
# What clients can write

The trace options of a client end up in the attributes of a span, next to those that tell how the
span was sampled. The client chooses keys and values, but not freely: its keys are kept apart from
all others, so that it can neither hide nor forge what the library says of the span.

* `IsVendorKey.not_isClientKey`: the keys of the library are none of the client's.
* `vendorOnly_additional`, `vendorOnly_ofVerdict`: the library writes under its own keys only.
* `isClientKey_of_mem_optionAttributes`, `nodup_optionAttributes`: the client writes under its own
  keys only, and once under each of them.
* `get?_sample_eq_some_iff`: what stands under a key of the client.
* `sameOutside_sample`: what stands under all others.
* `sample_withOptions_confined`: the options of a client change no other attributes, and its own
  are those that it asked for.
-/

namespace TraceSampler

/-! ## Whose key it is -/

namespace SamplingResult

/-- The keys under which the options of a client are written. -/
def IsClientKey (key : String) : Prop :=
  TraceOptions.customStart <+: key.toList ∨ key = "TriggeredTrace" ∨ key = "SWKeys"

instance : DecidablePred IsClientKey := fun _ => inferInstanceAs (Decidable (_ ∨ _))

/-- The keys under which the library writes how a span was sampled. -/
def IsVendorKey (key : String) : Prop := ['s', 'w', '.'] <+: key.toList

instance : DecidablePred IsVendorKey := fun _ => inferInstanceAs (Decidable (_ <+: _))

theorem IsVendorKey.not_isClientKey {key : String} (h : IsVendorKey key) : ¬ IsClientKey key := by
  rintro (hcustom | rfl | rfl)
  · -- the first characters differ already
    obtain ⟨rest, hrest⟩ := h
    obtain ⟨rest', hrest'⟩ := hcustom
    rw [← hrest] at hrest'
    simp [TraceOptions.customStart] at hrest'
  · exact absurd h (by decide)
  · exact absurd h (by decide)

/-! ## What the library writes -/

/-- Nothing stands under other keys than those of the library. -/
def VendorOnly (a : Attributes) : Prop := ∀ key value, a.get? key = some value → IsVendorKey key

theorem VendorOnly.get?_eq_none {a : Attributes} (h : VendorOnly a) {key : String}
    (hkey : IsClientKey key) : a.get? key = none := by
  rw [Option.eq_none_iff_forall_ne_some]
  intro value hvalue
  exact (h key value hvalue).not_isClientKey hkey

theorem vendorOnly_additional (r : SpanRequest) (o : SpanRequest.Origin) (transaction : String) :
    VendorOnly (r.additional o transaction) := by
  intro key value h
  rw [SpanRequest.get?_additional] at h
  split at h
  · next hkey => exact hkey ▸ by decide
  · split at h
    · next hkey => exact hkey ▸ by decide
    · split at h
      · next hkey => exact hkey ▸ by decide
      · simp at h

theorem vendorOnly_markers (detailed metrics : Bool) : VendorOnly (markers detailed metrics) := by
  intro key value h
  rw [markers, Attributes.get?_ofList] at h
  have hmem := Attributes.mem_of_lookup_reverse h
  simp only [List.mem_cons, Prod.mk.injEq, List.not_mem_nil, or_false] at hmem
  rcases hmem with ⟨rfl, -⟩ | ⟨rfl, -⟩ | ⟨rfl, -⟩
  · decide
  · decide
  · decide

theorem attributes_ofParent (sampled : Bool) :
    (if sampled then parentSampled else parentNotSampled).attributes = markers sampled sampled := by
  cases sampled with
  | false => rfl
  | true => rfl

theorem isVendorKey_of_mem_configAttributes {v : Quota.Verdict Float} {key : String}
    {value : AttributeValue} (h : (key, value) ∈ configAttributes v) : IsVendorKey key := by
  unfold configAttributes at h
  split at h
  · simp at h
  · simp only [List.mem_cons, Prod.mk.injEq, List.not_mem_nil, or_false] at h
    rcases h with ⟨rfl, -⟩ | ⟨rfl, -⟩ | ⟨rfl, -⟩ | ⟨rfl, -⟩
    · decide
    · decide
    · decide
    · decide

/-- What a verdict calls for by itself stands under keys of the library. -/
theorem vendorOnly_ofVerdict (v : Quota.Verdict Float) (isNewTrace : Bool) :
    VendorOnly (ofVerdict v none isNewTrace).attributes := by
  intro key value h
  unfold ofVerdict at h
  split at h
  · split at h
    · exact vendorOnly_markers _ _ key value h
    · exact vendorOnly_markers _ _ key value h
  · simp only [Option.toList_none, ite_self, List.flatMap_nil, List.append_nil,
      Attributes.get?_foldl_insert, Option.or_eq_some_iff] at h
    rcases h with hadded | ⟨-, hmarker⟩
    · rcases List.mem_append.1 (Attributes.mem_of_lookup_reverse hadded) with hconfig | hkind
      · exact isVendorKey_of_mem_configAttributes hconfig
      · obtain ⟨rfl, -⟩ := Prod.mk.inj (List.mem_singleton.1 hkind)
        decide
    · exact vendorOnly_markers _ _ key value hmarker

/-! ## What the client writes -/

theorem mem_optionAttributes_iff {o : TraceOptions} {kind : RequestKind} {key : String}
    {value : AttributeValue} : (key, value) ∈ optionAttributes o kind ↔
      (∃ text, (key, text) ∈ o.custom ∧ value = .text text) ∨
      (kind.isTrigger = true ∧ key = "TriggeredTrace" ∧ value = .bool true) ∨
      (∃ text, o.swKeys = some text ∧ key = "SWKeys" ∧ value = .text text) := by
  unfold optionAttributes
  rw [List.mem_append, List.mem_append, or_assoc]
  refine or_congr ?_ (or_congr ?_ ?_)
  · constructor
    · intro h
      obtain ⟨⟨k, text⟩, hmem, heq⟩ := List.mem_map.1 h
      obtain ⟨rfl, rfl⟩ := Prod.mk.inj heq
      exact ⟨text, hmem, rfl⟩
    · rintro ⟨text, hmem, rfl⟩
      exact List.mem_map.2 ⟨(key, text), hmem, rfl⟩
  · cases kind.isTrigger with
    | false => simp
    | true => simp
  · cases o.swKeys with
    | none => simp
    | some s => simp

theorem isClientKey_of_mem_optionAttributes {o : TraceOptions} (ho : o.WellKeyed)
    {kind : RequestKind} {key : String} {value : AttributeValue}
    (h : (key, value) ∈ optionAttributes o kind) : IsClientKey key := by
  rcases mem_optionAttributes_iff.1 h with ⟨text, hmem, -⟩ | ⟨-, hkey, -⟩ | ⟨text, -, hkey, -⟩
  · exact Or.inl (ho.start (key, text) hmem)
  · exact Or.inr (Or.inl hkey)
  · exact Or.inr (Or.inr hkey)

theorem mem_optionAttributes_custom_iff {o : TraceOptions} (ho : o.WellKeyed) (kind : RequestKind)
    {key : String} {value : AttributeValue} :
    TraceOptions.customStart <+: key.toList ∧ (key, value) ∈ optionAttributes o kind ↔
      ∃ text, (key, text) ∈ o.custom ∧ value = .text text := by
  constructor
  · rintro ⟨hstart, hmem⟩
    rcases mem_optionAttributes_iff.1 hmem with hcustom | ⟨-, rfl, -⟩ | ⟨text, -, rfl, -⟩
    · exact hcustom
    · exact absurd hstart (by decide)
    · exact absurd hstart (by decide)
  · rintro ⟨text, hmem, rfl⟩
    exact ⟨ho.start (key, text) hmem, mem_optionAttributes_iff.2 (Or.inl ⟨text, hmem, rfl⟩)⟩

theorem mem_optionAttributes_swKeys_iff {o : TraceOptions} (ho : o.WellKeyed) (kind : RequestKind)
    {value : AttributeValue} :
    ("SWKeys", value) ∈ optionAttributes o kind ↔ o.swKeys.map .text = some value := by
  rw [mem_optionAttributes_iff, Option.map_eq_some_iff]
  constructor
  · rintro (⟨text, hmem, -⟩ | ⟨-, hkey, -⟩ | ⟨text, hkeys, -, rfl⟩)
    · have hstart : TraceOptions.customStart <+: "SWKeys".toList := ho.start ("SWKeys", text) hmem
      exact absurd hstart (by decide)
    · exact absurd hkey (by decide)
    · exact ⟨text, hkeys, rfl⟩
  · rintro ⟨text, hkeys, rfl⟩
    exact Or.inr (Or.inr ⟨text, hkeys, rfl, rfl⟩)

/-- No key of a client is written twice. -/
theorem nodup_optionAttributes {o : TraceOptions} (ho : o.WellKeyed) (kind : RequestKind) :
    ((optionAttributes o kind).map (·.1)).Nodup := by
  have hkeys : (optionAttributes o kind).map (·.1) = o.custom.map (·.1) ++
      ((if kind.isTrigger then ["TriggeredTrace"] else []) ++
        o.swKeys.toList.map fun _ => "SWKeys") := by
    cases hkind : kind.isTrigger with
    | false => simp [optionAttributes, hkind, Function.comp_def]
    | true => simp [optionAttributes, hkind, Function.comp_def]
  rw [hkeys, List.nodup_append]
  refine ⟨ho.nodup, ?_, ?_⟩
  · cases kind.isTrigger with
    | false => cases o.swKeys <;> simp
    | true => cases o.swKeys <;> simp
  · -- a key that the client chose starts otherwise than the fixed ones
    rintro key hcustom _ hfixed rfl
    obtain ⟨pair, hpair, rfl⟩ := List.mem_map.1 hcustom
    have hname : pair.1 = "TriggeredTrace" ∨ pair.1 = "SWKeys" := by
      rcases List.mem_append.1 hfixed with hmark | hkeys
      · split at hmark
        · exact Or.inl (List.mem_singleton.1 hmark)
        · simp at hmark
      · obtain ⟨_, -, hname⟩ := List.mem_map.1 hkeys
        exact Or.inr hname.symm
    have hstart := ho.start pair hpair
    rcases hname with hname | hname
    · exact absurd (hname ▸ hstart) (by decide)
    · exact absurd (hname ▸ hstart) (by decide)

/-! ## What a verdict and the client come to -/

/-- The client's attributes of a verdict stand under its own keys. -/
theorem isClientKey_of_mem_clientAttributes {v : Quota.Verdict Float}
    {options : Option TraceOptions} {isNewTrace : Bool} (hkeyed : ∀ o ∈ options, o.WellKeyed)
    {key : String} {value : AttributeValue}
    (h : (key, value) ∈ clientAttributes v options isNewTrace) : IsClientKey key := by
  unfold clientAttributes at h
  split at h
  · obtain ⟨o, ho, hmem⟩ := List.mem_flatMap.1 h
    exact isClientKey_of_mem_optionAttributes (hkeyed o (Option.mem_toList.1 ho)) hmem
  · simp at h

/-- Under a key of the client stands what the client asked for, and only where a new trace is
sampled. -/
theorem get?_ofVerdict_eq_some_iff {v : Quota.Verdict Float} {options : Option TraceOptions}
    {isNewTrace : Bool} (hkeyed : ∀ o ∈ options, o.WellKeyed) {key : String}
    (hkey : IsClientKey key) {value : AttributeValue} :
    (ofVerdict v options isNewTrace).attributes.get? key = some value ↔
      v.sampled = true ∧ isNewTrace = true ∧
        ∃ o, options = some o ∧ (key, value) ∈ optionAttributes o v.kind := by
  have hvendor : (ofVerdict v none isNewTrace).attributes.get? key = none :=
    (vendorOnly_ofVerdict v isNewTrace).get?_eq_none hkey
  rw [get?_ofVerdict, hvendor, Option.or_none]
  cases hsampled : v.sampled with
  | false => simp [clientAttributes, hsampled]
  | true =>
    cases isNewTrace with
    | false => simp [clientAttributes, hsampled]
    | true =>
      cases options with
      | none => simp [clientAttributes, hsampled]
      | some o =>
        have hall : clientAttributes v (some o) true = optionAttributes o v.kind := by
          simp [clientAttributes, hsampled]
        rw [hall, Attributes.lookup_reverse_eq_some_iff (nodup_optionAttributes (hkeyed o rfl) _)]
        simp

end SamplingResult

namespace Sampler

open SamplingResult

/-- Without its own attributes, the client has no part in what a verdict comes to. -/
theorem sameOutside_verdictResult {options : Option TraceOptions}
    (hkeyed : ∀ o ∈ options, o.WellKeyed) (isNewTrace : Bool)
    (answer : Except Quota.VerdictError (Quota.Verdict Float)) :
    SameOutside IsClientKey (verdictResult options isNewTrace answer)
      (verdictResult none isNewTrace answer) := by
  cases answer with
  | error e => exact SameOutside.refl _ _
  | ok v =>
    constructor
    · exact decision_ofVerdict v options isNewTrace
    · intro key hkey
      have hnone : (clientAttributes v options isNewTrace).reverse.lookup key = none := by
        rw [Option.eq_none_iff_forall_ne_some]
        intro x hx
        exact hkey (isClientKey_of_mem_clientAttributes hkeyed (Attributes.mem_of_lookup_reverse hx))
      simp only [verdictResult, get?_ofVerdict v options, hnone, Option.none_or]

variable {σ : Type} {config : Transaction.NamingConfig} {decide : DecisionMaker σ} {s : Sampler σ}
  {r : SpanRequest} {dice : Nat}

/-- What the decision maker answers while a span is sampled, if it is asked. -/
def answer? (decide : DecisionMaker σ) (s : Sampler σ) (r : SpanRequest) (dice : Nat) :
    Option (Except Quota.VerdictError (Quota.Verdict Float)) :=
  (asked? r dice).map fun ask => (decide s.maker ask).2

theorem answer?_of_asked {ask : Quota.Ask} (h : asked? r dice = some ask) :
    answer? decide s r dice = some (decide s.maker ask).2 := by
  rw [answer?, h]
  rfl

/-- What a span has under a key of the client: an attribute that the client asked for, on a new
trace that is sampled. -/
theorem get?_sample_eq_some_iff (hkeyed : ∀ o ∈ r.context.options, o.WellKeyed) {key : String}
    (hkey : IsClientKey key) {value : AttributeValue} :
    (s.sample config decide r dice).2.attributes.get? key = some value ↔
      ∃ v o, answer? decide s r dice = some (.ok v) ∧ v.sampled = true ∧ r.context.StartsTrace ∧
        r.context.options = some o ∧ (key, value) ∈ optionAttributes o v.kind := by
  rcases sample_cases config decide s r dice with
    ⟨sampled, -, hasked, hsample⟩ | ⟨hroot, hasked, hsample⟩
  · -- in the process only the library writes, and nobody is asked
    constructor
    · intro h
      rw [hsample] at h
      simp only [attributes_ofParent] at h
      exact absurd hkey (vendorOnly_markers _ _ key value h).not_isClientKey
    · rintro ⟨v, o, hanswer, -⟩
      simp [answer?, hasked] at hanswer
  · have hadditional : ∀ transaction,
        (r.additional (SpanRequest.Origin.of r.context) transaction).get? key = none :=
      fun transaction => (vendorOnly_additional r _ transaction).get?_eq_none hkey
    rw [hsample, answer?_of_asked hasked]
    simp only [sampleRoot, get?_conclude, hadditional, Option.none_or, Option.some.injEq]
    cases (decide s.maker (r.ask (SpanRequest.Origin.of r.context) dice)).2 with
    | error e =>
      constructor
      · intro h
        exact absurd hkey (vendorOnly_markers _ _ key value h).not_isClientKey
      · rintro ⟨v, o, hanswer, -⟩
        simp at hanswer
    | ok v =>
      rw [verdictResult, get?_ofVerdict_eq_some_iff hkeyed hkey,
        SpanRequest.Origin.isNewTrace_of_iff hroot]
      constructor
      · rintro ⟨hsampled, hstarts, o, ho, hmem⟩
        exact ⟨v, o, rfl, hsampled, hstarts, ho, hmem⟩
      · rintro ⟨v', o, hv, hsampled, hstarts, ho, hmem⟩
        obtain rfl := Except.ok.inj hv
        exact ⟨hsampled, hstarts, o, ho, hmem⟩

/-- A span that starts the work of the process is sampled where the verdict says so. -/
theorem decision_sample_eq_iff_of_root
    (hroot : ∀ sampled, SpanRequest.Origin.of r.context ≠ .inProcess sampled) :
    (s.sample config decide r dice).2.decision = .recordAndSample ↔
      ∃ v, answer? decide s r dice = some (.ok v) ∧ v.sampled = true := by
  rcases sample_cases config decide s r dice with ⟨sampled, horigin, -, -⟩ | ⟨-, hasked, hsample⟩
  · exact absurd horigin (hroot sampled)
  · rw [hsample, answer?_of_asked hasked]
    simp only [sampleRoot, decision_conclude, Option.some.injEq]
    cases (decide s.maker (r.ask (SpanRequest.Origin.of r.context) dice)).2 with
    | error e => simp [verdictResult, notTraced]
    | ok v => simp [verdictResult, decision_ofVerdict_eq_iff]

/-- A new trace is sampled where the verdict says so. -/
theorem decision_sample_eq_iff (h : r.context.StartsTrace) :
    (s.sample config decide r dice).2.decision = .recordAndSample ↔
      ∃ v, answer? decide s r dice = some (.ok v) ∧ v.sampled = true := by
  have horigin : SpanRequest.Origin.of r.context = .newTrace :=
    SpanRequest.Origin.of_eq_newTrace_iff.2 h
  exact decision_sample_eq_iff_of_root fun sampled => by simp [horigin]

/-- Where the decision maker answers the same, the options of the client change nothing but its own
attributes. -/
theorem sameOutside_sample {options options' : Option TraceOptions}
    (hkeyed : ∀ o ∈ options, o.WellKeyed) (hkeyed' : ∀ o ∈ options', o.WellKeyed) {dice' : Nat}
    (hanswer : answer? decide s (r.withOptions options) dice =
      answer? decide s (r.withOptions options') dice') :
    SameOutside IsClientKey (s.sample config decide (r.withOptions options) dice).2
      (s.sample config decide (r.withOptions options') dice').2 := by
  rcases sample_cases config decide s (r.withOptions options) dice with
    ⟨sampled, horigin, -, hfirst⟩ | ⟨hroot, hasked, hfirst⟩
  · rcases sample_cases config decide s (r.withOptions options') dice' with
      ⟨sampled', horigin', -, hsecond⟩ | ⟨hroot', -, -⟩
    · obtain rfl := SpanRequest.Origin.inProcess.inj (horigin.symm.trans horigin')
      rw [hfirst, hsecond]
      exact SameOutside.refl _ _
    · exact absurd horigin (hroot' sampled)
  · rcases sample_cases config decide s (r.withOptions options') dice' with
      ⟨sampled', horigin', -, -⟩ | ⟨-, hasked', hsecond⟩
    · exact absurd horigin' (hroot sampled')
    · rw [answer?_of_asked hasked, answer?_of_asked hasked', Option.some.injEq] at hanswer
      rw [hfirst, hsecond]
      simp only [sampleRoot, ← hanswer]
      apply sameOutside_conclude
      · intro key _
        rfl
      · exact (sameOutside_verdictResult hkeyed _ _).trans
          (sameOutside_verdictResult hkeyed' _ _).symm

/-- The options that clients send are confined to their own attributes. Where the decision maker
answers the same, they change no others. They show on new traces that are sampled only, and there
they are what the client asked for. -/
theorem sample_withOptions_confined (config : Transaction.NamingConfig) (decide : DecisionMaker σ)
    (s : Sampler σ) (r : SpanRequest) (verify verify' : Verifier)
    (header header' signature signature' : Option String) (dice dice' : Nat) :
    let options := TraceOptions.read? verify header signature
    let options' := TraceOptions.read? verify' header' signature'
    let result := (s.sample config decide (r.withOptions options) dice).2
    let result' := (s.sample config decide (r.withOptions options') dice').2
    (answer? decide s (r.withOptions options) dice =
        answer? decide s (r.withOptions options') dice' →
      SameOutside IsClientKey result result') ∧
    (∀ key value, IsClientKey key → result.attributes.get? key = some value →
      result.decision = .recordAndSample ∧ r.context.StartsTrace ∧ options.isSome = true) ∧
    (∀ o, options = some o → r.context.StartsTrace → result.decision = .recordAndSample →
      (∀ key value,
        TraceOptions.customStart <+: key.toList ∧ result.attributes.get? key = some value ↔
          ∃ text, (key, text) ∈ o.custom ∧ value = .text text) ∧
      result.attributes.get? "SWKeys" = o.swKeys.map .text) := by
  intro options options' result result'
  have hkeyed : ∀ o ∈ options, o.WellKeyed := fun o ho => TraceOptions.wellKeyed_of_read? ho
  have hkeyed' : ∀ o ∈ options', o.WellKeyed := fun o ho => TraceOptions.wellKeyed_of_read? ho
  refine ⟨sameOutside_sample hkeyed hkeyed', ?_, ?_⟩
  · intro key value hkey hvalue
    obtain ⟨v, o, hanswer, hsampled, hstarts, ho, -⟩ :=
      (get?_sample_eq_some_iff (r := r.withOptions options) hkeyed hkey).1 hvalue
    exact ⟨(decision_sample_eq_iff hstarts).2 ⟨v, hanswer, hsampled⟩,
      SpanRequest.startsTrace_withOptions.1 hstarts, Option.isSome_iff_exists.2 ⟨o, ho⟩⟩
  · intro o ho hstarts hdecision
    have hnew : (r.withOptions options).context.StartsTrace :=
      SpanRequest.startsTrace_withOptions.2 hstarts
    obtain ⟨v, hanswer, hsampled⟩ := (decision_sample_eq_iff hnew).1 hdecision
    -- what the client asked for is what there is under its keys
    have hall : ∀ key value, IsClientKey key →
        (result.attributes.get? key = some value ↔ (key, value) ∈ optionAttributes o v.kind) := by
      intro key value hkey
      rw [get?_sample_eq_some_iff hkeyed hkey]
      constructor
      · rintro ⟨v', o', hanswer', -, -, ho', hmem⟩
        obtain rfl := Except.ok.inj (Option.some.inj (hanswer.symm.trans hanswer'))
        obtain rfl := Option.some.inj (ho.symm.trans ho')
        exact hmem
      · intro hmem
        exact ⟨v, o, hanswer, hsampled, hnew, ho, hmem⟩
    constructor
    · intro key value
      rw [← mem_optionAttributes_custom_iff (hkeyed o ho) v.kind]
      exact and_congr_right fun hstart => hall key value (Or.inl hstart)
    · apply Option.ext
      intro value
      rw [hall "SWKeys" value (Or.inr (Or.inr rfl)),
        mem_optionAttributes_swKeys_iff (hkeyed o ho) v.kind]

/-- A client passes on one attribute and its keys, and tries to forge the sample rate. -/
theorem sample_withOptions_confined_forged :
    let r : SpanRequest :=
      { context := {}, traceId := 1, name := "checkout", kind := .server, attributes := {} }
    let header := some "trigger-trace;custom-tier=gold;sw-keys=lo:se;sw.SampleRate=1"
    let options := TraceOptions.read? .presence header none
    let o : TraceOptions :=
      { triggerTrace := true, swKeys := some "lo:se", custom := [("custom-tier", "gold")]
        ignored := ["sw.SampleRate"] }
    let decide : DecisionMaker Unit := fun maker _ =>
      (maker, .ok
        { sampled := true, measured := true, kind := .unauthenticatedTrigger, config := none,
          exhausted := false })
    let s : Sampler Unit := { maker := () }
    let result := (s.sample {} decide (r.withOptions options) 7).2
    let result' := (s.sample {} decide (r.withOptions none) 8).2
    (answer? decide s (r.withOptions options) 7 = answer? decide s (r.withOptions none) 8 ∧
      SameOutside IsClientKey result result') ∧
    (options = some o ∧ r.context.StartsTrace ∧ result.decision = .recordAndSample ∧
      result.attributes.get? "custom-tier" = some (.text "gold") ∧
      result.attributes.get? "SWKeys" = some (.text "lo:se")) := by
  intro r header options o decide s
  have hoptions : options = some o := by decide +kernel
  have hstarts : r.context.StartsTrace := .absent rfl
  have hdecision : (s.sample {} decide (r.withOptions options) 7).2.decision = .recordAndSample :=
    (decision_sample_eq_iff (SpanRequest.startsTrace_withOptions.2 hstarts)).2 ⟨_, rfl, rfl⟩
  obtain ⟨hconfined, -, hthere⟩ :=
    sample_withOptions_confined {} decide s r .presence .presence header none none none 7 8
  obtain ⟨hcustom, hkeys⟩ := hthere o hoptions hstarts hdecision
  have htier := ((hcustom "custom-tier" (.text "gold")).2 ⟨"gold", by simp [o], rfl⟩).2
  exact ⟨⟨rfl, hconfined rfl⟩, hoptions, hstarts, hdecision, htier, hkeys⟩

end Sampler

end TraceSampler
