import TraceSampler.Quota.Ledger

/-!
# What a request does to the ledger

Either a request is selected, and then it draws on the bucket of its kind and nothing else changes,
or the ledger stays as it is.

* `selection?_eq_some_iff`, `unselected_cases`: when a request is selected.
* `decide_of_selection?_eq_some`, `decide_of_selection?_eq_none`: what becomes of the ledger.
* `now_decide`, `settings_decide`, `get_decide_of_ne`: what no request changes.
* `answer_congr`: where no token is needed, the answer depends on the settings alone.
-/

namespace TraceSampler.Quota.Ledger

variable {α : Type}

/-- The configuration that a request is decided on, while settings hold. -/
def config? (p : Policy) (l : Ledger α) (a : Ask) : Option (TraceConfig α) :=
  l.current?.map fun s => narrowed p s a.signals

/-- The configuration under which a request is selected, if it is selected. -/
def selection? (p : Policy) (l : Ledger α) (a : Ask) : Option (TraceConfig α) :=
  (l.config? p a).filter fun c => c.tracing && (selected c a).toOption == some true

/-! ## Selection -/

/-- A request is selected if settings hold, tracing is on for it and it is picked. -/
theorem selection?_eq_some_iff {p : Policy} {l : Ledger α} {a : Ask} {c : TraceConfig α} :
    l.selection? p a = some c ↔
      l.config? p a = some c ∧ c.tracing = true ∧ selected c a = .ok true := by
  have hpicked : (selected c a).toOption = some true ↔ selected c a = .ok true := by
    cases selected c a with
    | error e => simp [Except.toOption]
    | ok b => simp [Except.toOption]
  simp [selection?, Option.filter_eq_some_iff, hpicked]

/-- Why a request is not selected. -/
theorem unselected_cases {p : Policy} {l : Ledger α} {a : Ask} (h : l.selection? p a = none) :
    l.current? = none ∨
      ∃ s, l.current? = some s ∧
        ((narrowed p s a.signals).tracing = false ∨
          ((narrowed p s a.signals).tracing = true ∧
            (selected (narrowed p s a.signals) a = .ok false ∨
              ∃ e, selected (narrowed p s a.signals) a = .error e))) := by
  cases hcurrent : l.current? with
  | none => exact Or.inl rfl
  | some s =>
    refine Or.inr ⟨s, rfl, ?_⟩
    cases htracing : (narrowed p s a.signals).tracing with
    | false => exact Or.inl rfl
    | true =>
      refine Or.inr ⟨rfl, ?_⟩
      cases hselected : selected (narrowed p s a.signals) a with
      | error e => exact Or.inr ⟨e, rfl⟩
      | ok picked =>
        cases picked with
        | false => exact Or.inl rfl
        | true =>
          have hconfig : l.config? p a = some (narrowed p s a.signals) := by
            rw [config?, hcurrent, Option.map_some]
          rw [selection?_eq_some_iff.2 ⟨hconfig, htracing, hselected⟩] at h
          simp at h

variable [Amount α]

/-! ## Taking a token -/

/-- The bucket that a request finds, which is full at its first use. -/
def found (l : Ledger α) (c : TraceConfig α) (k : BucketKind) : Bucket α :=
  (l.buckets.get k).getD (.full (c.capacity k) l.now)

/-- What becomes of the bucket that a request finds, and whether it held a token. -/
def drawn (l : Ledger α) (c : TraceConfig α) (k : BucketKind) : Bucket α × Bool :=
  (l.found c k).draw (c.capacity k) (c.rate k) l.now

theorem takeToken_snd (l : Ledger α) (c : TraceConfig α) (k : BucketKind) :
    (l.takeToken c k).2 = (l.drawn c k).2 := rfl

@[simp] theorem now_takeToken (l : Ledger α) (c : TraceConfig α) (k : BucketKind) :
    (l.takeToken c k).1.now = l.now := rfl

@[simp] theorem settings_takeToken (l : Ledger α) (c : TraceConfig α) (k : BucketKind) :
    (l.takeToken c k).1.settings = l.settings := rfl

theorem get_takeToken_self (l : Ledger α) (c : TraceConfig α) (k : BucketKind) :
    (l.takeToken c k).1.buckets.get k = some (l.drawn c k).1 :=
  PerBucket.get_set_self _ _ _

theorem get_takeToken_of_ne (l : Ledger α) (c : TraceConfig α) {k other : BucketKind}
    (h : other ≠ k) : (l.takeToken c k).1.buckets.get other = l.buckets.get other :=
  PerBucket.get_set_of_ne _ h _

/-! ## Deciding -/

/-- A selected request takes a token, and its verdict tells whether there was one. -/
theorem decide_of_selection?_eq_some {p : Policy} {l : Ledger α} {a : Ask} {c : TraceConfig α}
    (h : l.selection? p a = some c) :
    l.decide p a =
      ((l.takeToken c (kindOf a).bucket).1,
        .ok
          { sampled := (l.drawn c (kindOf a).bucket).2, measured := true, kind := kindOf a,
            config := some c, exhausted := !(l.drawn c (kindOf a).bucket).2 }) := by
  obtain ⟨hconfig, htracing, hselected⟩ := selection?_eq_some_iff.1 h
  obtain ⟨settings, hcurrent, rfl⟩ := Option.map_eq_some_iff.1 hconfig
  simp [decide, hcurrent, htracing, hselected, takeToken_snd]

/-- A request that is not selected leaves the ledger as it is. -/
theorem decide_of_selection?_eq_none {p : Policy} {l : Ledger α} {a : Ask}
    (h : l.selection? p a = none) : (l.decide p a).1 = l := by
  rcases unselected_cases h with
    hcurrent | ⟨s, hcurrent, htracing | ⟨htracing, hselected | ⟨e, hselected⟩⟩⟩
  · simp [decide, hcurrent]
  · simp [decide, hcurrent, htracing]
  · simp [decide, hcurrent, htracing, hselected]
  · simp [decide, hcurrent, htracing, hselected]

@[simp] theorem now_decide (p : Policy) (l : Ledger α) (a : Ask) :
    (l.decide p a).1.now = l.now := by
  cases h : l.selection? p a with
  | none => rw [decide_of_selection?_eq_none h]
  | some c => rw [decide_of_selection?_eq_some h, now_takeToken]

@[simp] theorem settings_decide (p : Policy) (l : Ledger α) (a : Ask) :
    (l.decide p a).1.settings = l.settings := by
  cases h : l.selection? p a with
  | none => rw [decide_of_selection?_eq_none h]
  | some c => rw [decide_of_selection?_eq_some h, settings_takeToken]

/-- A request changes no bucket but the one of its kind. -/
theorem get_decide_of_ne (p : Policy) (l : Ledger α) {a : Ask} {k : BucketKind}
    (hk : k ≠ (kindOf a).bucket) : (l.decide p a).1.buckets.get k = l.buckets.get k := by
  cases h : l.selection? p a with
  | none => rw [decide_of_selection?_eq_none h]
  | some c => rw [decide_of_selection?_eq_some h, get_takeToken_of_ne l c hk]

/-- The verdict on a request that is not selected, if there is one, says neither that it is sampled
nor that its bucket was empty. -/
theorem verdict_of_selection?_eq_none {p : Policy} {l : Ledger α} {a : Ask} {v : Verdict α}
    (h : l.selection? p a = none) (hv : (l.decide p a).2 = .ok v) :
    v.sampled = false ∧ v.exhausted = false := by
  rcases unselected_cases h with
    hcurrent | ⟨s, hcurrent, htracing | ⟨htracing, hselected | ⟨e, hselected⟩⟩⟩
  · simp [decide, hcurrent] at hv
    simp [← hv, Verdict.withoutSettings]
  · simp [decide, hcurrent, htracing] at hv
    simp [← hv]
  · simp [decide, hcurrent, htracing, hselected] at hv
    simp [← hv]
  · simp [decide, hcurrent, htracing, hselected] at hv

/-- Without a token to take, an answer depends on the settings that hold and on nothing else. -/
theorem answer_congr {p : Policy} {l m : Ledger α} {a : Ask} (hsame : l.current? = m.current?)
    (h : l.selection? p a = none) : (l.decide p a).2 = (m.decide p a).2 := by
  rcases unselected_cases h with
    hcurrent | ⟨s, hcurrent, htracing | ⟨htracing, hselected | ⟨e, hselected⟩⟩⟩
  · simp [decide, ← hsame, hcurrent]
  · simp [decide, ← hsame, hcurrent, htracing]
  · simp [decide, ← hsame, hcurrent, htracing, hselected]
  · simp [decide, ← hsame, hcurrent, htracing, hselected]

end TraceSampler.Quota.Ledger
