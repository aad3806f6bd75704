import TraceSampler.Sampling.Engine

/-!
# Where the attributes of a result come from

A span that starts the work of the process gets the attributes that its verdict alone calls for,
those that its client asked for, and over both of them those that tell where it comes from and how
its transaction is called.

* `get?_ofList`, `get?_foldl_insert`: of attributes that are set one after the other, the last one
  of a name counts.
* `get?_additional`: what is set whatever is decided.
* `get?_ofVerdict`: what the client adds to a verdict.
* `decision_conclude`, `get?_conclude`: the decision and the attributes of a result.
* `sameOutside_conclude`: when two results differ in hidden attributes only.
-/

namespace TraceSampler

/-! ## Attributes set in a row -/

namespace Attributes

/-- The last value that is set for a name counts. -/
theorem get?_foldl_insert (entries : List (String × AttributeValue)) (a : Attributes)
    (key : String) :
    (entries.foldl (fun a (k, v) => a.insert k v) a).get? key =
      (entries.reverse.lookup key).or (a.get? key) := by
  induction entries generalizing a with
  | nil => rfl
  | cons e r ih =>
    obtain ⟨k, v⟩ := e
    rw [List.foldl_cons, ih, List.reverse_cons, List.lookup_append, Option.or_assoc]
    congr 1
    by_cases hkey : key = k
    · subst hkey
      simp
    · have hother : (key == k) = false := by simp [hkey]
      simp [get?_insert_of_ne a hkey, List.lookup_cons, hother]

theorem get?_ofList (entries : List (String × AttributeValue)) (key : String) :
    (ofList entries).get? key = entries.reverse.lookup key := by
  have hnone : ({} : Attributes).get? key = none := rfl
  rw [ofList, get?_foldl_insert, hnone, Option.or_none]

theorem lookup_cons_eq_ite (name key : String) (v : AttributeValue)
    (r : List (String × AttributeValue)) :
    ((name, v) :: r).lookup key = if key = name then some v else r.lookup key := by
  by_cases h : key = name
  · subst h
    simp
  · have hother : (key == name) = false := by simp [h]
    simp [List.lookup_cons, hother, h]

theorem lookup_singleton (name key : String) (v : AttributeValue) :
    [(name, v)].lookup key = if key = name then some v else none :=
  lookup_cons_eq_ite name key v []

theorem isSome_lookup_reverse_iff {entries : List (String × AttributeValue)} {key : String} :
    (entries.reverse.lookup key).isSome = true ↔ key ∈ entries.map (·.1) := by
  rw [List.lookup_isSome_iff, List.mem_map]
  constructor
  · rintro ⟨pair, hmem, hkey⟩
    exact ⟨pair, List.mem_reverse.1 hmem, (eq_of_beq hkey).symm⟩
  · rintro ⟨pair, hmem, rfl⟩
    exact ⟨pair, List.mem_reverse.2 hmem, beq_self_eq_true _⟩

theorem mem_of_lookup_reverse {entries : List (String × AttributeValue)} {key : String}
    {v : AttributeValue} (h : entries.reverse.lookup key = some v) : (key, v) ∈ entries := by
  obtain ⟨before, behind, hentries, -⟩ := List.lookup_eq_some_iff.1 h
  rw [← List.mem_reverse, hentries]
  exact List.mem_append_right _ List.mem_cons_self

/-- Where every name is set once, what is read of the attributes is what was set. -/
theorem lookup_reverse_eq_some_iff {entries : List (String × AttributeValue)}
    (h : (entries.map (·.1)).Nodup) {key : String} {v : AttributeValue} :
    entries.reverse.lookup key = some v ↔ (key, v) ∈ entries := by
  refine ⟨mem_of_lookup_reverse, ?_⟩
  intro hmem
  induction entries with
  | nil => simp at hmem
  | cons e r ih =>
    rw [List.map_cons, List.nodup_cons] at h
    rw [List.reverse_cons, List.lookup_append]
    rcases List.mem_cons.1 hmem with rfl | hrest
    · -- the name is not set again behind its first value
      have hnone : r.reverse.lookup key = none := by
        rw [Option.eq_none_iff_forall_ne_some]
        intro x hx
        exact h.1 (List.mem_map.2 ⟨(key, x), mem_of_lookup_reverse hx, rfl⟩)
      simp [hnone]
    · rw [ih h.2 hrest]
      rfl

end Attributes

/-! ## What is set whatever is decided -/

namespace SpanRequest

/-- The trace state that came in with a remote span, where other vendors had a part in it. -/
def remoteState? (r : SpanRequest) : Option String :=
  if (r.context.span.map SpanContext.isRemote).getD false then r.context.inboundState else none

/-- The span that a trace goes on from. -/
def Origin.parentId? : Origin → Option String
  | .continued _ parentId => some parentId
  | _ => none

theorem lookup_optional (name key : String) (value : Option String) :
    (value.toList.map fun s => (name, AttributeValue.text s)).reverse.lookup key =
      if key = name then value.map .text else none := by
  cases value with
  | none => simp
  | some s => exact Attributes.lookup_singleton name key (.text s)

theorem additional_eq (r : SpanRequest) (o : Origin) (transaction : String) :
    r.additional o transaction = .ofList
      (o.parentId?.toList.map (fun s => ("sw.tracestate_parent_id", .text s)) ++
        r.remoteState?.toList.map (fun s => ("sw.w3c.tracestate", .text s)) ++
        [("sw.transaction", .text transaction)]) := by
  have hinbound : (if (r.context.span.map SpanContext.isRemote).getD false
      then r.context.inboundState.toList else []) = r.remoteState?.toList := by
    unfold remoteState?
    split <;> rfl
  cases o with
  | inProcess sampled => simp only [additional, hinbound]; rfl
  | newTrace => simp only [additional, hinbound]; rfl
  | continued parent parentId => simp only [additional, hinbound]; rfl

/-- Every span that starts the work of the process gets these, and nothing else under other
names. -/
theorem get?_additional (r : SpanRequest) (o : Origin) (transaction key : String) :
    (r.additional o transaction).get? key =
      if key = "sw.transaction" then some (.text transaction)
      else if key = "sw.w3c.tracestate" then r.remoteState?.map .text
      else if key = "sw.tracestate_parent_id" then o.parentId?.map .text
      else none := by
  rw [additional_eq, Attributes.get?_ofList, List.reverse_append, List.reverse_append,
    List.reverse_singleton, List.lookup_append, List.lookup_append, lookup_optional,
    lookup_optional, Attributes.lookup_singleton]
  split
  · rfl
  · next hname =>
    split
    · next hstate =>
      subst hstate
      simp
    · rfl

end SpanRequest

/-! ## What a verdict and a client call for -/

namespace SamplingResult

/-- The attributes that the options of the client add to a verdict. -/
def clientAttributes (v : Quota.Verdict Float) (options : Option TraceOptions)
    (isNewTrace : Bool) : List (String × AttributeValue) :=
  if v.sampled && isNewTrace then options.toList.flatMap fun o => optionAttributes o v.kind else []

theorem decision_ofVerdict (v : Quota.Verdict Float) (options : Option TraceOptions)
    (isNewTrace : Bool) :
    (ofVerdict v options isNewTrace).decision = (ofVerdict v none isNewTrace).decision := by
  unfold ofVerdict
  split
  · rfl
  · rfl

theorem decision_ofVerdict_eq_iff {v : Quota.Verdict Float} {options : Option TraceOptions}
    {isNewTrace : Bool} :
    (ofVerdict v options isNewTrace).decision = .recordAndSample ↔ v.sampled = true := by
  unfold ofVerdict
  cases v.sampled with
  | false => cases v.measured <;> simp [metricsOnly, notTraced]
  | true => simp

/-- Where a trace goes on, the client has no say in the attributes. -/
theorem ofVerdict_of_continued (v : Quota.Verdict Float) (options : Option TraceOptions) :
    ofVerdict v options false = ofVerdict v none false := by
  unfold ofVerdict
  split
  · rfl
  · simp only [Bool.false_eq_true, ↓reduceIte]

/-- The client adds attributes to those that the verdict calls for by itself. -/
theorem get?_ofVerdict (v : Quota.Verdict Float) (options : Option TraceOptions)
    (isNewTrace : Bool) (key : String) :
    (ofVerdict v options isNewTrace).attributes.get? key =
      ((clientAttributes v options isNewTrace).reverse.lookup key).or
        ((ofVerdict v none isNewTrace).attributes.get? key) := by
  unfold ofVerdict clientAttributes
  cases hsampled : v.sampled with
  | false => simp
  | true =>
    cases isNewTrace with
    | false => simp
    | true => simp [Attributes.get?_foldl_insert]

/-- The results agree, except for attributes under hidden names. -/
structure SameOutside (hidden : String → Prop) (a b : SamplingResult) : Prop where
  decision : a.decision = b.decision
  attributes : ∀ key, ¬ hidden key → a.attributes.get? key = b.attributes.get? key

theorem SameOutside.refl (hidden : String → Prop) (a : SamplingResult) : SameOutside hidden a a :=
  ⟨rfl, fun _ _ => rfl⟩

theorem SameOutside.symm {hidden : String → Prop} {a b : SamplingResult}
    (h : SameOutside hidden a b) : SameOutside hidden b a :=
  ⟨h.decision.symm, fun key hkey => (h.attributes key hkey).symm⟩

theorem SameOutside.trans {hidden : String → Prop} {a b c : SamplingResult}
    (h : SameOutside hidden a b) (h' : SameOutside hidden b c) : SameOutside hidden a c :=
  ⟨h.decision.trans h'.decision,
    fun key hkey => (h.attributes key hkey).trans (h'.attributes key hkey)⟩

end SamplingResult

/-! ## The parts of a result -/

namespace Sampler

open SamplingResult

/-- What a verdict comes to before the span is looked at. Without a verdict nothing is traced. -/
def verdictResult (options : Option TraceOptions) (isNewTrace : Bool) :
    Except Quota.VerdictError (Quota.Verdict Float) → SamplingResult
  | .error _ => notTraced
  | .ok v => ofVerdict v options isNewTrace

variable (r : SpanRequest) (o : SpanRequest.Origin) (transaction : String)
  (answer : Except Quota.VerdictError (Quota.Verdict Float))

theorem decision_conclude : (conclude r o transaction answer).decision =
    (verdictResult r.context.options o.isNewTrace answer).decision := by
  cases answer with
  | error e => rfl
  | ok v => rfl

theorem attributes_conclude : (conclude r o transaction answer).attributes =
    (verdictResult r.context.options o.isNewTrace answer).attributes.merge
      (r.additional o transaction) := by
  cases answer with
  | error e => rfl
  | ok v => rfl

/-- What tells where a span comes from goes before all else. -/
theorem get?_conclude (key : String) : (conclude r o transaction answer).attributes.get? key =
    ((r.additional o transaction).get? key).or
      ((verdictResult r.context.options o.isNewTrace answer).attributes.get? key) := by
  rw [attributes_conclude, Attributes.get?_merge]

/-- The client is told of its options and the verdict. -/
theorem answer_conclude (v : Quota.Verdict Float) :
    (conclude r o transaction (.ok v)).answer = r.context.options.map fun options =>
      OptionsAnswer.sanitize (OptionsAnswer.of options v o.isNewTrace).text := by
  cases hoptions : r.context.options with
  | none => simp [conclude, wrap, hoptions]
  | some options => simp [conclude, wrap, hoptions]

/-- Two results agree where they are put together from parts that do. -/
theorem sameOutside_conclude {hidden : String → Prop} {r r' : SpanRequest}
    {o o' : SpanRequest.Origin} {transaction : String}
    {answer : Except Quota.VerdictError (Quota.Verdict Float)}
    (hadditional : ∀ key, ¬ hidden key →
      (r.additional o transaction).get? key = (r'.additional o' transaction).get? key)
    (hverdict : SameOutside hidden (verdictResult r.context.options o.isNewTrace answer)
      (verdictResult r'.context.options o'.isNewTrace answer)) :
    SameOutside hidden (conclude r o transaction answer) (conclude r' o' transaction answer) := by
  constructor
  · rw [decision_conclude, decision_conclude, hverdict.decision]
  · intro key hkey
    rw [get?_conclude, get?_conclude, hadditional key hkey, hverdict.attributes key hkey]

end Sampler

end TraceSampler
