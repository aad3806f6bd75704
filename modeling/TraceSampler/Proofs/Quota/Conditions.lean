import TraceSampler.Proofs.Quota.Decide

/-!
# What a verdict goes by

A verdict goes by the settings that are in force, by what the settings and the policy switch off,
by what picks the request, and by the tokens at hand in the bucket of its kind. Each of these is
said here by what was published, configured and asked, and shown to be what the ledger goes by.

* `current?_eq_some_iff`, `current?_eq_none_iff`: which settings are in force.
* `allowsTracing_eq_false_iff`, `tracing_narrowed_iff`, `trigger_narrowed_iff`: what is switched
  off.
* `selected_eq_ok_true_iff`, `selection?_eq_some_iff_picked`: which requests are picked.
* `decide_of_one_le`, `decide_of_not_one_le`: what the tokens at hand make of a selected request.
-/

namespace TraceSampler.Quota

/-! ## Switches -/

/-- The policy turns tracing off for a request: by the first rule that applies to one of its
signals, or for all requests where no rule applies. -/
inductive Policy.TurnsOff (p : Policy) (signals : List String) : Prop
  | byRule {before behind : List ResourceRule} {rule : ResourceRule}
      (hsplit : p.resources = before ++ rule :: behind)
      (hbefore : ∀ earlier ∈ before, earlier.applies signals = false)
      (happlies : rule.applies signals = true) (hoff : rule.tracing = false)
  | byMode (hnone : ∀ rule ∈ p.resources, rule.applies signals = false)
      (hoff : p.tracing = some false)

/-- The first rule that applies has the say. -/
theorem Policy.allowsTracing_of_first {p : Policy} {signals : List String}
    {before behind : List ResourceRule} {rule : ResourceRule}
    (hsplit : p.resources = before ++ rule :: behind)
    (hbefore : ∀ earlier ∈ before, earlier.applies signals = false)
    (happlies : rule.applies signals = true) : p.allowsTracing signals = rule.tracing := by
  have hearlier : ∀ earlier ∈ before, (!earlier.applies signals) = true :=
    fun earlier hmem => by simpa using hbefore earlier hmem
  have hfind : p.resources.find? (·.applies signals) = some rule :=
    List.find?_eq_some_iff_append.2 ⟨happlies, before, behind, hsplit, hearlier⟩
  simp only [allowsTracing, hfind]

/-- Where no rule applies, the mode for all requests has the say. -/
theorem Policy.allowsTracing_of_none {p : Policy} {signals : List String}
    (hnone : ∀ rule ∈ p.resources, rule.applies signals = false) :
    p.allowsTracing signals = p.tracing.getD true := by
  have hfind : p.resources.find? (·.applies signals) = none :=
    List.find?_eq_none.2 fun rule hmem => by simpa using hnone rule hmem
  simp only [allowsTracing, hfind]

/-- Either there is a first rule that applies, or none does. -/
theorem Policy.firstRule_cases (p : Policy) (signals : List String) :
    (∃ before rule behind, p.resources = before ++ rule :: behind ∧
      (∀ earlier ∈ before, earlier.applies signals = false) ∧ rule.applies signals = true) ∨
    ∀ rule ∈ p.resources, rule.applies signals = false := by
  cases hfind : p.resources.find? (·.applies signals) with
  | none =>
    right
    intro rule hmem
    simpa using List.find?_eq_none.1 hfind rule hmem
  | some rule =>
    obtain ⟨happlies, before, behind, hsplit, hbefore⟩ := List.find?_eq_some_iff_append.1 hfind
    left
    exact ⟨before, rule, behind, hsplit,
      fun earlier hmem => by simpa using hbefore earlier hmem, happlies⟩

theorem Policy.allowsTracing_eq_false_iff {p : Policy} {signals : List String} :
    p.allowsTracing signals = false ↔ p.TurnsOff signals := by
  constructor
  · intro h
    rcases p.firstRule_cases signals with ⟨_, _, _, hsplit, hbefore, happlies⟩ | hnone
    · rw [allowsTracing_of_first hsplit hbefore happlies] at h
      exact .byRule hsplit hbefore happlies h
    · rw [allowsTracing_of_none hnone] at h
      refine .byMode hnone ?_
      cases htracing : p.tracing with
      | none => simp [htracing] at h
      | some on => simpa [htracing] using h
  · rintro (⟨hsplit, hbefore, happlies, hoff⟩ | ⟨hnone, hoff⟩)
    · rw [allowsTracing_of_first hsplit hbefore happlies, hoff]
    · rw [allowsTracing_of_none hnone, hoff, Option.getD_some]

variable {α : Type}

/-- Tracing is off for a request, by the settings or by the policy. -/
def Policy.TracingOff (p : Policy) (st : Settings α) (signals : List String) : Prop :=
  st.tracing = false ∨ p.TurnsOff signals

/-- Asking for a trace is of no use, by the settings or by the policy. -/
def Policy.TriggerOff (p : Policy) (st : Settings α) : Prop :=
  st.trigger = false ∨ p.trigger = some false

/-- A request for a trace: one with no parent, whose options ask for a trace. -/
structure Ask.IsTrigger (a : Ask) : Prop where
  parent : a.parent = none
  asked : ∃ o, a.options = some o ∧ o.triggerTrace = true

namespace Ledger

theorem tracing_narrowed_iff {p : Policy} {st : Settings α} {signals : List String} :
    (narrowed p st signals).tracing = true ↔ ¬ p.TracingOff st signals := by
  have hallows : p.allowsTracing signals = true ↔ ¬ p.TurnsOff signals := by
    rw [← Policy.allowsTracing_eq_false_iff, Bool.not_eq_false]
  simp [narrowed, Policy.TracingOff, hallows]

theorem trigger_narrowed_iff {p : Policy} {st : Settings α} {signals : List String} :
    (narrowed p st signals).trigger = true ↔ ¬ p.TriggerOff st := by
  have hallows : p.allowsTrigger = true ↔ ¬ p.trigger = some false := by
    cases htrigger : p.trigger with
    | none => simp [Policy.allowsTrigger, htrigger]
    | some on => simp [Policy.allowsTrigger, htrigger]
  simp [narrowed, Policy.TriggerOff, hallows]

/-! ## Settings in force -/

/-- The settings are in force: they are those published last, and no older than they may be. -/
structure InForce (l : Ledger α) (st : Settings α) : Prop where
  published : l.settings = some st
  fresh : elapsed st.fetchedAt l.now ≤ st.lifetime

theorem current?_eq_some_iff {l : Ledger α} {st : Settings α} :
    l.current? = some st ↔ l.InForce st := by
  rw [current?, Option.filter_eq_some_iff]
  simp only [Settings.isExpired, gt_iff_lt, Bool.not_eq_true', decide_eq_false_iff_not, Nat.not_lt]
  constructor
  · rintro ⟨hpublished, hfresh⟩
    exact ⟨hpublished, hfresh⟩
  · intro h
    exact ⟨h.published, h.fresh⟩

/-- No two settings are in force at once. -/
theorem InForce.iff_eq {l : Ledger α} {st st' : Settings α} (h : l.InForce st) :
    l.InForce st' ↔ st' = st :=
  ⟨fun h' => Option.some.inj (h'.published.symm.trans h.published), fun heq => heq ▸ h⟩

/-- What picks a request while tracing is on for it: its parent was sampled, it asks for a trace
while that is of use, or the dice pick it. -/
inductive Picked (p : Policy) (st : Settings α) (a : Ask) : Prop
  | upstream {parent : String} (hparent : a.parent = some parent)
      (hsampled : parentSampled parent = .ok true)
  | trigger (htrigger : a.IsTrigger) (hon : ¬ p.TriggerOff st)
  | dice (hparent : a.parent = none) (hregular : ¬ a.IsTrigger)
      (hroll : roll st.sampleRate a.dice = true)

theorem isTrigger_requestKind (o : TraceOptions) : o.requestKind.isTrigger = o.triggerTrace := by
  unfold TraceOptions.requestKind
  cases o.triggerTrace with
  | false => rfl
  | true =>
    -- how the signature came out makes another kind, but still one that asks for a trace
    by_cases hauth : o.auth = .ok
    · simp [hauth, RequestKind.isTrigger]
    · simp [hauth, RequestKind.isTrigger]

theorem isTrigger_requestedKind_iff {a : Ask} :
    (requestedKind a).isTrigger = true ↔ ∃ o, a.options = some o ∧ o.triggerTrace = true := by
  cases hoptions : a.options with
  | none => simp [requestedKind, hoptions, RequestKind.isTrigger]
  | some o => simp [requestedKind, hoptions, isTrigger_requestKind]

theorem isTrigger_kindOf_iff {a : Ask} : (kindOf a).isTrigger = true ↔ a.IsTrigger := by
  cases hparent : a.parent with
  | some parent =>
    have hnot : ¬ a.IsTrigger := fun h => Option.some_ne_none parent (hparent ▸ h.parent)
    simp [kindOf, hparent, hnot, RequestKind.isTrigger]
  | none =>
    have hkind : kindOf a = requestedKind a := by simp [kindOf, hparent]
    rw [hkind, isTrigger_requestedKind_iff]
    exact ⟨fun h => ⟨hparent, h⟩, fun h => h.asked⟩

/-- A request for a trace draws on a bucket by whether its options are authenticated. -/
theorem bucket_kindOf_of_isTrigger {a : Ask} (ha : a.IsTrigger) {o : TraceOptions}
    (ho : a.options = some o) :
    (kindOf a).bucket = if o.auth = .ok then .relaxed else .strict := by
  obtain ⟨hparent, o', ho', htrigger⟩ := ha
  obtain rfl : o' = o := Option.some.inj (ho'.symm.trans ho)
  have hkind : kindOf a = o'.requestKind := by simp [kindOf, requestedKind, hparent, ho]
  by_cases hauth : o'.auth = .ok
  · simp [hkind, TraceOptions.requestKind, htrigger, hauth, RequestKind.bucket]
  · simp [hkind, TraceOptions.requestKind, htrigger, hauth, RequestKind.bucket]

theorem selected_eq_ok_true_iff {p : Policy} {st : Settings α} {a : Ask} :
    selected (narrowed p st a.signals) a = .ok true ↔ Picked p st a := by
  constructor
  · intro h
    unfold selected at h
    -- a parent leaves no choice, and asking for a trace leaves none to the dice
    split at h
    · next parent hparent => exact .upstream hparent h
    · next hparent =>
      split at h
      · next hkind =>
        exact .trigger (isTrigger_kindOf_iff.1 hkind) (trigger_narrowed_iff.1 (Except.ok.inj h))
      · next hkind =>
        exact .dice hparent (fun htrigger => hkind (isTrigger_kindOf_iff.2 htrigger))
          (Except.ok.inj h)
  · rintro (⟨hparent, hsampled⟩ | ⟨htrigger, hon⟩ | ⟨hparent, hregular, hroll⟩)
    · simp only [selected, hparent, hsampled]
    · have hkind := isTrigger_kindOf_iff.2 htrigger
      simp only [selected, htrigger.parent, hkind, if_true]
      exact congrArg Except.ok (trigger_narrowed_iff.2 hon)
    · have hkind : ¬ (kindOf a).isTrigger = true := fun h => hregular (isTrigger_kindOf_iff.1 h)
      simp only [selected, hparent, if_neg hkind]
      exact congrArg Except.ok hroll

/-- A request is selected where settings are in force, tracing is on for it and it is picked. -/
theorem selection?_eq_some_iff_picked {p : Policy} {l : Ledger α} {a : Ask} {c : TraceConfig α} :
    l.selection? p a = some c ↔
      ∃ st, l.InForce st ∧ ¬ p.TracingOff st a.signals ∧ Picked p st a ∧
        c = narrowed p st a.signals := by
  rw [selection?_eq_some_iff, config?, Option.map_eq_some_iff]
  constructor
  · rintro ⟨⟨st, hcurrent, rfl⟩, htracing, hselected⟩
    exact ⟨st, current?_eq_some_iff.1 hcurrent, tracing_narrowed_iff.1 htracing,
      selected_eq_ok_true_iff.1 hselected, rfl⟩
  · rintro ⟨st, hforce, htracing, hpicked, rfl⟩
    exact ⟨⟨st, current?_eq_some_iff.2 hforce, rfl⟩, tracing_narrowed_iff.2 htracing,
      selected_eq_ok_true_iff.2 hpicked⟩

/-- A request with a parent is picked by that parent alone. -/
theorem picked_iff_of_parent {p : Policy} {st : Settings α} {a : Ask} {parent : String}
    (ha : a.parent = some parent) : Picked p st a ↔ parentSampled parent = .ok true := by
  constructor
  · rintro (⟨hparent, hsampled⟩ | ⟨htrigger, -⟩ | ⟨hparent, -, -⟩)
    · obtain rfl := Option.some.inj (ha.symm.trans hparent)
      exact hsampled
    · exact absurd (ha.symm.trans htrigger.parent) (by simp)
    · exact absurd (ha.symm.trans hparent) (by simp)
  · exact fun hsampled => .upstream ha hsampled

end Ledger

/-! ## Tokens at hand -/

/-- Numbers where a token is taken from one or more by subtracting one. -/
class Amount.Counts (α : Type) [Amount α] [OfScientific α] [LE α] [Sub α] : Prop where
  takeOne?_eq_some_iff (x y : α) : Amount.takeOne? x = some y ↔ 1.0 ≤ x ∧ y = x - 1.0

/-- The running sampler counts so. A double that is no number is no token. -/
instance : Amount.Counts Float where
  takeOne?_eq_some_iff x y := by
    have htake : Amount.takeOne? x = if 1.0 ≤ x then some (x - 1.0) else none := rfl
    rw [htake]
    by_cases h : 1.0 ≤ x
    · simp [h, eq_comm]
    · simp [h]

namespace Ledger

variable [Amount α]

/-- The tokens at hand in a bucket, after what flowed in: all that fit at its first use. -/
def atHand (l : Ledger α) (c : TraceConfig α) (k : BucketKind) : α :=
  (l.found c k).refilled (c.capacity k) (c.rate k) l.now

/-- The policy narrows the settings, but not their buckets. -/
theorem atHand_narrowed (l : Ledger α) (p : Policy) (st : Settings α) (signals : List String)
    (k : BucketKind) : l.atHand (narrowed p st signals) k = l.atHand st.config k := rfl

variable [OfScientific α] [LE α] [Sub α] [Amount.Counts α]

/-- With a token at hand, one is taken. -/
theorem drawn_of_one_le {l : Ledger α} {c : TraceConfig α} {k : BucketKind}
    (h : 1.0 ≤ l.atHand c k) : l.drawn c k = (⟨l.atHand c k - 1.0, l.now⟩, true) := by
  have htake : Amount.takeOne? (l.atHand c k) = some (l.atHand c k - 1.0) :=
    (Amount.Counts.takeOne?_eq_some_iff _ _).2 ⟨h, rfl⟩
  rw [atHand] at htake
  simp only [drawn, Bucket.draw, htake, atHand]

/-- With no token at hand, none is taken. -/
theorem drawn_of_not_one_le {l : Ledger α} {c : TraceConfig α} {k : BucketKind}
    (h : ¬ 1.0 ≤ l.atHand c k) : l.drawn c k = (⟨l.atHand c k, l.now⟩, false) := by
  have htake : Amount.takeOne? (l.atHand c k) = none := by
    rw [Option.eq_none_iff_forall_ne_some]
    intro rest hrest
    exact h ((Amount.Counts.takeOne?_eq_some_iff _ _).1 hrest).1
  rw [atHand] at htake
  simp only [drawn, Bucket.draw, htake, atHand]

/-- A selected request with a token at hand is sampled, and the token is taken. -/
theorem decide_of_one_le {p : Policy} {l : Ledger α} {a : Ask} {c : TraceConfig α}
    (hselection : l.selection? p a = some c) (hone : 1.0 ≤ l.atHand c (kindOf a).bucket) :
    (l.decide p a).2 =
        .ok
          { sampled := true, measured := true, kind := kindOf a, config := some c,
            exhausted := false } ∧
      (l.decide p a).1.buckets.get (kindOf a).bucket =
        some ⟨l.atHand c (kindOf a).bucket - 1.0, l.now⟩ := by
  rw [decide_of_selection?_eq_some hselection, get_takeToken_self, drawn_of_one_le hone]
  exact ⟨rfl, rfl⟩

/-- A selected request with no token at hand finds its bucket exhausted, and none is taken. -/
theorem decide_of_not_one_le {p : Policy} {l : Ledger α} {a : Ask} {c : TraceConfig α}
    (hselection : l.selection? p a = some c) (hone : ¬ 1.0 ≤ l.atHand c (kindOf a).bucket) :
    (l.decide p a).2 =
        .ok
          { sampled := false, measured := true, kind := kindOf a, config := some c,
            exhausted := true } ∧
      (l.decide p a).1.buckets.get (kindOf a).bucket =
        some ⟨l.atHand c (kindOf a).bucket, l.now⟩ := by
  rw [decide_of_selection?_eq_some hselection, get_takeToken_self, drawn_of_not_one_le hone]
  exact ⟨rfl, rfl⟩

end Ledger

end TraceSampler.Quota
