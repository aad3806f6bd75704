import TraceSampler.Proofs.Records
import TraceSampler.Transaction.Namer

/-!
# The limit of transaction names

Between two moments at which all names are forgotten, the names that are reported are bounded by
the limit, and none of them changes its mind. The limit may move up and down meanwhile, and
registered names pass it by.

Every request that derives a name puts it before the registry. Such a `Judgement` knows the names
recorded before it and the limit in force, and leaves the names recorded after it; `Recorded` says
that a list of judgements hands the names on from each to the next.

* `lawful_judgement?`: how a name is judged.
* `registry_step`: what an event does to the registry.
* `recorded_judgements`: the judgements of a run hand the names on.
* `run_nameBound`: what holds between two moments at which all names are forgotten.
-/

namespace TraceSampler.Transaction

/-! ## The registry -/

namespace Registry

@[simp] theorem names_poll (r : Registry) : r.poll.names = r.names := by
  unfold poll
  split
  · rfl
  · rfl
  · rfl

/-- A new limit that waits is in force from then on. -/
theorem limit_poll (r : Registry) :
    r.poll.limit = match r.pending? with
      | none => r.limit
      | some value => value.getD standardLimit := by
  unfold poll
  split
  · next hpending => rw [hpending]
  · next hpending =>
    rw [hpending]
    rfl
  · next hpending =>
    rw [hpending]
    rfl

/-- A name is let through if it is known or there is room for it. -/
theorem accept_snd_iff (r : Registry) (name : String) :
    (r.accept name).2 = true ↔ name ∈ r.names ∨ r.names.length < r.limit := by
  by_cases hknown : name ∈ r.names
  · simp [accept, hknown]
  · by_cases hroom : r.names.length < r.limit
    · simp [accept, hknown, hroom]
    · simp [accept, hknown, hroom]

/-- Only a name that is new and let through is recorded. -/
theorem names_accept (r : Registry) (name : String) :
    (r.accept name).1.names =
      if (r.accept name).2 = true ∧ name ∉ r.names then name :: r.names else r.names := by
  by_cases hknown : name ∈ r.names
  · simp [accept, hknown]
  · by_cases hroom : r.names.length < r.limit
    · simp [accept, hknown, hroom]
    · simp [accept, hknown, hroom]

end Registry

namespace Namer

/-! ## Derived names -/

/-- The name that a request derives: none if a name is registered for its trace or it offers
nothing to name it by. -/
def derived? (c : NamingConfig) (n : Namer) (r : NameRequest) : Option String :=
  match (n.customNames.get r.traceId n.now).2 with
  | some _ => none
  | none =>
    (c.source? r).map fun source =>
      normalize (c.qualified (n.sourceName c source).2 r.attributes)

theorem registry_pathName (c : NamingConfig) (n : Namer) (path : String) :
    (n.pathName c path).1.registry = n.registry := by
  unfold pathName
  split
  · rfl
  · rfl

/-- A source is read without the registry. -/
theorem registry_sourceName (c : NamingConfig) (n : Namer) (source : NameSource) :
    (n.sourceName c source).1.registry = n.registry := by
  cases source with
  | path path => exact registry_pathName c n path
  | scheme name => rfl
  | handler name => rfl
  | route name => rfl
  | span name => rfl

/-- A source is read without the registered names. -/
theorem sourceName_customNames (c : NamingConfig) (n : Namer)
    (customNames : ExpiringCache TraceId String) (source : NameSource) :
    ({ n with customNames }.sourceName c source).2 = (n.sourceName c source).2 := by
  cases source with
  | path path =>
    simp only [sourceName, pathName]
    split
    · rfl
    · rfl
  | scheme name => rfl
  | handler name => rfl
  | route name => rfl
  | span name => rfl

/-- A derived name is put before the registry, whose answer is the name of the transaction. -/
theorem name_of_derived? {c : NamingConfig} {n : Namer} {r : NameRequest} {s : String}
    (h : n.derived? c r = some s) :
    (n.name c r).1.registry = (n.registry.report s).1 ∧
      (n.name c r).2 = (n.registry.report s).2 := by
  rw [derived?] at h
  split at h
  · simp at h
  · next hnone =>
    obtain ⟨source, hsource, rfl⟩ := Option.map_eq_some_iff.1 h
    obtain ⟨customNames, hget⟩ : ∃ customNames,
        n.customNames.get r.traceId n.now = (customNames, none) := ⟨_, Prod.ext rfl hnone⟩
    simp [name, hget, derive, hsource, sourceName_customNames, registry_sourceName]

/-- Where no name is derived, the registry is left alone. -/
theorem registry_name_of_derived?_eq_none {c : NamingConfig} {n : Namer} {r : NameRequest}
    (h : n.derived? c r = none) : (n.name c r).1.registry = n.registry := by
  obtain ⟨customNames, found, hget⟩ : ∃ customNames found,
      n.customNames.get r.traceId n.now = (customNames, found) := ⟨_, _, rfl⟩
  cases found with
  | some registered => simp [name, hget]
  | none =>
    have hsource : c.source? r = none := by simpa [derived?, hget] using h
    simp [name, hget, derive, hsource]

/-! ## Judgements -/

/-- A derived name before the registry. -/
structure Judgement where
  name : String
  /-- The limit in force. -/
  limit : Nat
  /-- The names recorded before. -/
  known : List String
  /-- The name is let through. -/
  passed : Bool
  answer : String
  /-- The names recorded after. -/
  recorded : List String

/-- How a name is judged, whatever the namer. -/
structure Judgement.Lawful (j : Judgement) : Prop where
  passed_iff : j.passed = true ↔ j.name ∈ j.known ∨ j.known.length < j.limit
  answer_eq : j.answer = if j.passed then j.name else overLimitName
  recorded_eq : j.recorded =
    if j.passed = true ∧ j.name ∉ j.known then j.name :: j.known else j.known

/-- The judgement that an event brings about, if a name is derived. -/
def judgement? (c : NamingConfig) (n : Namer) : Event → Option Judgement
  | .name r =>
    (n.derived? c r).map fun s =>
      { name := s, limit := n.registry.poll.limit, known := n.registry.names
        passed := (n.registry.poll.accept s).2, answer := (n.name c r).2
        recorded := (n.name c r).1.registry.names }
  | _ => none

/-- Only a request for a name brings about a judgement. -/
theorem exists_request_of_judgement? {c : NamingConfig} {n : Namer} {e : Event} {j : Judgement}
    (h : n.judgement? c e = some j) : ∃ r, e = .name r := by
  cases e with
  | name r => exact ⟨r, rfl⟩
  | custom traceId name => simp [judgement?] at h
  | publish limit => simp [judgement?] at h
  | dropFeed => simp [judgement?] at h
  | clear => simp [judgement?] at h
  | reset => simp [judgement?] at h
  | advance ns => simp [judgement?] at h

/-- The judgements of a run in their order. -/
def judgements (c : NamingConfig) (n : Namer) (events : List Event) : List Judgement :=
  records (step c) (judgement? c) n events

/-- A judgement is lawful and tells the names before it and after it. -/
theorem lawful_judgement? {c : NamingConfig} {n : Namer} {e : Event} {j : Judgement}
    (h : n.judgement? c e = some j) :
    j.known = n.registry.names ∧ j.Lawful ∧ j.recorded = (step c n e).1.registry.names := by
  obtain ⟨r, rfl⟩ := exists_request_of_judgement? h
  obtain ⟨s, hs, rfl⟩ := Option.map_eq_some_iff.1 h
  obtain ⟨hregistry, hanswer⟩ := name_of_derived? hs
  have hpassed := n.registry.poll.accept_snd_iff s
  have hnames := n.registry.poll.names_accept s
  rw [Registry.names_poll] at hpassed hnames
  refine ⟨rfl, ⟨hpassed, ?_, ?_⟩, rfl⟩
  · simp [hanswer, Registry.report]
  · simpa [hregistry, Registry.report] using hnames

/-- The event forgets all names. -/
def Event.forgets : Event → Bool
  | .clear | .reset => true
  | _ => false

theorem names_setCustom (n : Namer) (traceId : TraceId) (name : String) :
    (n.setCustom traceId name).1.registry = n.registry := by
  unfold setCustom
  split
  · rfl
  · rfl

/-- What an event does to the registry, unless it has a name judged. -/
def Event.effect : Event → Registry → Registry
  | .publish limit, r => { r with feed := r.feed.map fun f => f.send limit }
  | .dropFeed, r => { r with feed := r.feed.map LimitFeed.close }
  | .clear, r => r.clear
  | .reset, r => r.reset
  | .name _, r | .custom _ _, r | .advance _, r => r

/-- The registry is asked about the name that is judged, if there is one. -/
theorem registry_step (c : NamingConfig) (n : Namer) (e : Event) :
    (step c n e).1.registry =
      match n.judgement? c e with
      | some j => (n.registry.report j.name).1
      | none => e.effect n.registry := by
  cases hj : n.judgement? c e with
  | some j =>
    obtain ⟨r, rfl⟩ := exists_request_of_judgement? hj
    obtain ⟨s, hderived, rfl⟩ := Option.map_eq_some_iff.1 hj
    exact (name_of_derived? hderived).1
  | none =>
    cases e with
    | name r =>
      have hnone : n.derived? c r = none := by simpa [judgement?] using hj
      exact registry_name_of_derived?_eq_none hnone
    | custom traceId name => exact names_setCustom n traceId name
    | publish limit => rfl
    | dropFeed => rfl
    | clear => rfl
    | reset => rfl
    | advance ns => rfl

/-- Without a judgement the names stay as they are, unless all are forgotten. -/
theorem names_step_of_judgement?_eq_none {c : NamingConfig} {n : Namer} {e : Event}
    (h : n.judgement? c e = none) (he : e.forgets = false) :
    (step c n e).1.registry.names = n.registry.names := by
  rw [registry_step, h]
  cases e with
  | clear => simp [Event.forgets] at he
  | reset => simp [Event.forgets] at he
  | name r => rfl
  | custom traceId name => rfl
  | publish limit => rfl
  | dropFeed => rfl
  | advance ns => rfl

/-! ## Judgements in a row -/

/-- Every judgement is lawful and takes up the names as the one before it left them. -/
def Recorded : List String → List Judgement → List String → Prop :=
  Linked Judgement.Lawful Judgement.known Judgement.recorded

/-- While no name is forgotten, the judgements of a run hand the names on. -/
theorem recorded_judgements (c : NamingConfig) (n : Namer) {events : List Event}
    (h : ∀ e ∈ events, e.forgets = false) :
    Recorded n.registry.names (judgements c n events) (run c n events).1.registry.names := by
  refine linked_records (fun n : Namer => n.registry.names) (fun _ => True) ?_ ?_ ?_ trivial
  · exact fun _ _ _ htrue => htrue
  · intro n e _ _ j hj
    exact lawful_judgement? hj
  · intro n e he _ hj
    exact names_step_of_judgement?_eq_none hj (h e he)

namespace Judgement.Lawful

variable {j : Judgement}

theorem known_subset (h : j.Lawful) : j.known ⊆ j.recorded := by
  rw [h.recorded_eq]
  split
  · exact List.subset_cons_self _ _
  · exact List.Subset.refl _

theorem mem_recorded (h : j.Lawful) (hpassed : j.passed = true) : j.name ∈ j.recorded := by
  rw [h.recorded_eq]
  by_cases hknown : j.name ∈ j.known
  · simp [hknown]
  · simp [hpassed, hknown]

theorem nodup_recorded (h : j.Lawful) (hknown : j.known.Nodup) : j.recorded.Nodup := by
  rw [h.recorded_eq]
  split
  · next hnew => exact List.nodup_cons.2 ⟨hnew.2, hknown⟩
  · exact hknown

/-- A name is added only where there is room for it. -/
theorem length_recorded_le (h : j.Lawful) : j.recorded.length ≤ max j.known.length j.limit := by
  rw [h.recorded_eq]
  split
  · next hnew =>
    have hroom : j.known.length < j.limit := (h.passed_iff.1 hnew.1).resolve_left hnew.2
    rw [List.length_cons]
    omega
  · exact Nat.le_max_left _ _

/-- A name that is known is reported as it is. -/
theorem answer_of_mem (h : j.Lawful) (hknown : j.name ∈ j.known) : j.answer = j.name := by
  rw [h.answer_eq, if_pos (h.passed_iff.2 (Or.inl hknown))]

/-- Without room for it, a new name is reported as the one that all others share. -/
theorem refused (h : j.Lawful) (hnew : j.name ∉ j.known) (hfull : j.limit ≤ j.known.length) :
    j.answer = overLimitName ∧ j.recorded = j.known := by
  have hnot : ¬ j.passed = true := by
    rw [h.passed_iff]
    exact not_or.2 ⟨hnew, Nat.not_lt.2 hfull⟩
  exact ⟨by rw [h.answer_eq, if_neg hnot], by rw [h.recorded_eq, if_neg fun hp => hnot hp.1]⟩

end Judgement.Lawful

/-- The largest limit that was in force at some judgement. -/
def largestLimit (js : List Judgement) : Nat := (js.map Judgement.limit).foldr max 0

namespace Recorded

variable {names final : List String} {js : List Judgement}

theorem subset (h : Recorded names js final) : names ⊆ final := by
  induction js generalizing names with
  | nil => exact h ▸ List.Subset.refl _
  | cons j js ih =>
    obtain ⟨rfl, hlawful, hrest⟩ := h
    exact List.Subset.trans hlawful.known_subset (ih hrest)

theorem nodup (h : Recorded names js final) (hnames : names.Nodup) : final.Nodup := by
  induction js generalizing names with
  | nil => exact h ▸ hnames
  | cons j js ih =>
    obtain ⟨rfl, hlawful, hrest⟩ := h
    exact ih hrest (hlawful.nodup_recorded hnames)

/-- The names are never more than they were, or than the largest limit. -/
theorem length_le (h : Recorded names js final) :
    final.length ≤ max names.length (largestLimit js) := by
  induction js generalizing names with
  | nil => exact h ▸ Nat.le_max_left _ _
  | cons j js ih =>
    obtain ⟨rfl, hlawful, hrest⟩ := h
    have hstep := hlawful.length_recorded_le
    have hlast := ih hrest
    have hlargest : largestLimit (j :: js) = max j.limit (largestLimit js) := rfl
    omega

/-- A name that was let through is recorded in the end. -/
theorem mem_final (h : Recorded names js final) {j : Judgement} (hj : j ∈ js)
    (hpassed : j.passed = true) : j.name ∈ final := by
  induction js generalizing names with
  | nil => simp at hj
  | cons x js ih =>
    have hrest : Recorded x.recorded js final := h.2.2
    rcases List.mem_cons.1 hj with rfl | hj
    · have hlawful : j.Lawful := h.lawful (by simp)
      exact hrest.subset (hlawful.mem_recorded hpassed)
    · exact ih hrest hj

/-- Later judgements on a name that is recorded let it stay as it is. -/
theorem answer_of_mem (h : Recorded names js final) {s : String} (hs : s ∈ names) :
    ∀ j ∈ js, j.name = s → j.answer = s := by
  induction js generalizing names with
  | nil => simp
  | cons x js ih =>
    obtain ⟨rfl, hlawful, hrest⟩ := h
    intro j hj hname
    rcases List.mem_cons.1 hj with rfl | hj
    · exact hname ▸ hlawful.answer_of_mem (hname ▸ hs)
    · exact ih hrest (hlawful.known_subset hs) j hj hname

/-- A name once let through is the answer whenever it is derived again. -/
theorem stable (h : Recorded names js final) :
    js.Pairwise fun j later => j.passed = true → later.name = j.name → later.answer = j.name := by
  induction js generalizing names with
  | nil => exact List.Pairwise.nil
  | cons j js ih =>
    have hlawful : j.Lawful := h.lawful (by simp)
    have hrest : Recorded j.recorded js final := h.2.2
    refine List.Pairwise.cons ?_ (ih hrest)
    intro later hlater hpassed hname
    exact hrest.answer_of_mem (hlawful.mem_recorded hpassed) later hlater hname

end Recorded

/-! ## Between two moments of forgetting -/

/-- What holds of the names in a run in which none is forgotten. -/
structure NameBound (c : NamingConfig) (n : Namer) (events : List Event) : Prop where
  /-- Every name is recorded once, so that the list is as long as the set is large. -/
  nodup : ∀ first, first <+: events → (run c n first).1.registry.names.Nodup
  grows : ∀ first second, first ++ second <+: events →
    (run c n first).1.registry.names ⊆ (run c n (first ++ second)).1.registry.names
  bounded : ∀ first, first <+: events →
    (run c n first).1.registry.names.length ≤ largestLimit (judgements c n first)
  /-- What is let through is answered as itself, and recorded. -/
  recorded : ∀ j ∈ judgements c n events, j.passed = true →
    j.answer = j.name ∧ j.name ∈ (run c n events).1.registry.names
  stable : (judgements c n events).Pairwise fun j later =>
    j.passed = true → later.name = j.name → later.answer = j.name
  /-- A new name for which there is no room goes by the common one, and is not recorded. -/
  refused : ∀ j ∈ judgements c n events, j.name ∉ j.known → j.limit ≤ j.known.length →
    j.answer = overLimitName ∧ j.recorded = j.known

theorem run_append_fst (c : NamingConfig) (n : Namer) (first second : List Event) :
    (run c n (first ++ second)).1 = (run c (run c n first).1 second).1 := by
  rw [run, run_append]
  rfl

/-- A namer that just forgot all names knows none. -/
theorem names_run_of_forgets (c : NamingConfig) (n : Namer) {before : List Event} {e : Event}
    (he : e.forgets = true) (hlast : e ∈ before.getLast?) :
    (run c n before).1.registry.names = [] := by
  obtain ⟨init, rfl⟩ := List.getLast?_eq_some_iff.1 hlast
  rw [run_append_fst]
  cases e with
  | clear => rfl
  | reset => rfl
  | name r => simp [Event.forgets] at he
  | custom traceId name => simp [Event.forgets] at he
  | publish limit => simp [Event.forgets] at he
  | dropFeed => simp [Event.forgets] at he
  | advance ns => simp [Event.forgets] at he

/-- While no name is forgotten, a namer that knew none keeps to the limit. -/
theorem nameBound_of_names_eq_nil (c : NamingConfig) {n : Namer} {events : List Event}
    (hnames : n.registry.names = []) (h : ∀ e ∈ events, e.forgets = false) :
    NameBound c n events := by
  have hfirst : ∀ first, first <+: events →
      Recorded [] (judgements c n first) (run c n first).1.registry.names := by
    intro first hpart
    rw [← hnames]
    exact recorded_judgements c n fun e he => h e (hpart.subset he)
  have hall := hfirst events (List.prefix_refl events)
  refine
    { nodup := fun first hpart => (hfirst first hpart).nodup List.nodup_nil
      grows := ?_
      bounded := ?_
      recorded := fun j hj hpassed => ⟨?_, hall.mem_final hj hpassed⟩
      stable := hall.stable
      refused := fun j hj => (hall.lawful hj).refused }
  · intro first second hpart
    have hsecond : ∀ e ∈ second, e.forgets = false := fun e he =>
      h e (hpart.subset (List.mem_append_right first he))
    rw [run_append_fst]
    exact (recorded_judgements c _ hsecond).subset
  · intro first hpart
    simpa using (hfirst first hpart).length_le
  · rw [(hall.lawful hj).answer_eq, if_pos hpassed]

/-- From the start, or from a moment at which all names were forgotten, up to the next such moment:
the names only grow in number, up to the largest limit in force when one was judged; what was let
through is recorded, and stays the answer even if the limit is lowered; and a new name for which
there is no room goes by the one that all such names share. -/
theorem run_nameBound (c : NamingConfig) (n : Namer) (before stretch : List Event)
    (hnew : n.registry.names = [])
    (hbefore : before = [] ∨ ∃ e ∈ before.getLast?, e.forgets = true)
    (hstretch : ∀ e ∈ stretch, e.forgets = false) :
    NameBound c (run c n before).1 stretch := by
  have hnames : (run c n before).1.registry.names = [] := by
    rcases hbefore with rfl | ⟨e, hlast, he⟩
    · exact hnew
    · exact names_run_of_forgets c n he hlast
  exact nameBound_of_names_eq_nil c hnames hstretch

/-- A request with nothing but the name of its span. -/
def spanNamed (span : String) : NameRequest := { traceId := 1, span, attributes := {} }

/-- The limit is lowered from two to one while two names are known: both stay, and a third one is
refused. A registered name passes by the limit. -/
theorem run_nameBound_lowered :
    let before := [Event.name (spanNamed "early"), .clear]
    let stretch := [Event.name (spanNamed "One"), .name (spanNamed "two"), .publish (some 1),
      .name (spanNamed "one"), .name (spanNamed "three"), .custom 1 "Mine",
      .name (spanNamed "three")]
    let cleared := (run {} (following (some 2)) before).1
    (run {} cleared stretch).2 =
        [.name "one", .name "two", .nothing, .name "one", .name "other", .registered true,
          .name "mine"] ∧
      (judgements {} cleared stretch).map (fun j => (j.limit, j.passed)) =
        [(2, true), (2, true), (1, true), (1, false)] ∧
      NameBound {} cleared stretch :=
  ⟨by decide +kernel, by decide +kernel,
    run_nameBound {} (following (some 2)) [.name (spanNamed "early"), .clear] _ rfl
      (Or.inr ⟨.clear, by simp, rfl⟩) (by simp [Event.forgets])⟩

end Namer

end TraceSampler.Transaction
