import TraceSampler.Proofs.Quota.Decide

/-!
# Quota isolation

Regular traffic, authenticated trigger requests and unauthenticated ones draw on buckets of their
own. Whatever happens in two of these classes, the third one gets the same answers and is left the
same tokens.

The invariant is `Agree`: the two ledgers have the same time, the same settings and the same bucket
of one kind. A request of that kind reads nothing else, and other requests change nothing of it.

* `agree_decide_of_ne`: a request of another class is not seen.
* `agree_step`: an event that happens in both ledgers.
* `run_isolated`: whole runs.
-/

namespace TraceSampler.Quota

/-- The class of a request: regular if it has a parent or does not ask for a trace, otherwise as
its authentication came out. -/
def Ask.trafficClass (a : Ask) : RequestKind :=
  match a.parent, a.options with
  | none, some o =>
    if o.triggerTrace then
      if o.auth = .ok then .authenticatedTrigger else .unauthenticatedTrigger
    else .regular
  | _, _ => .regular

namespace Ledger

variable {α : Type}

/-- All events but the requests of other classes. -/
def Event.concerns (k : RequestKind) : Event α → Bool
  | .ask a => a.trafficClass = k
  | .publish _ | .advance _ => true

/-- The kind that a request is decided as is its class. -/
theorem kindOf_eq_trafficClass (a : Ask) : kindOf a = a.trafficClass := by
  cases hparent : a.parent with
  | some parent => simp [kindOf, Ask.trafficClass, hparent]
  | none =>
    cases hoptions : a.options with
    | none => simp [kindOf, requestedKind, Ask.trafficClass, hparent, hoptions]
    | some o =>
      cases htrigger : o.triggerTrace with
      | false =>
        simp [kindOf, requestedKind, Ask.trafficClass, hparent, hoptions, TraceOptions.requestKind,
          htrigger]
      | true =>
        simp [kindOf, requestedKind, Ask.trafficClass, hparent, hoptions, TraceOptions.requestKind,
          htrigger]

/-! ## Agreement -/

/-- Two ledgers that a request of one kind cannot tell apart. -/
structure Agree (k : RequestKind) (l m : Ledger α) : Prop where
  now : l.now = m.now
  settings : l.settings = m.settings
  bucket : l.buckets.get k.bucket = m.buckets.get k.bucket

theorem Agree.refl (k : RequestKind) (l : Ledger α) : Agree k l l := ⟨rfl, rfl, rfl⟩

theorem Agree.trans {k : RequestKind} {l m n : Ledger α} (h : Agree k l m) (h' : Agree k m n) :
    Agree k l n :=
  ⟨h.now.trans h'.now, h.settings.trans h'.settings, h.bucket.trans h'.bucket⟩

theorem Agree.current? {k : RequestKind} {l m : Ledger α} (h : Agree k l m) :
    l.current? = m.current? := by
  rw [Ledger.current?, Ledger.current?, h.now, h.settings]

/-- Selection reads the settings that hold, and no bucket. -/
theorem Agree.selection? {k : RequestKind} {l m : Ledger α} (h : Agree k l m) (p : Policy)
    (a : Ask) : l.selection? p a = m.selection? p a := by
  rw [Ledger.selection?, Ledger.selection?, config?, config?, h.current?]

variable [Amount α]

theorem Agree.drawn {k : RequestKind} {l m : Ledger α} (h : Agree k l m) (c : TraceConfig α) :
    l.drawn c k.bucket = m.drawn c k.bucket := by
  rw [Ledger.drawn, Ledger.drawn, found, found, h.bucket, h.now]

theorem Agree.takeToken {k : RequestKind} {l m : Ledger α} (h : Agree k l m) (c : TraceConfig α) :
    Agree k (l.takeToken c k.bucket).1 (m.takeToken c k.bucket).1 := by
  constructor
  · exact h.now
  · exact h.settings
  · rw [get_takeToken_self, get_takeToken_self, h.drawn]

/-! ## Steps -/

/-- A request of another class draws on another bucket, if it draws at all. -/
theorem agree_decide_of_ne {p : Policy} {l : Ledger α} {a : Ask} {k : RequestKind}
    (h : kindOf a ≠ k) : Agree k (l.decide p a).1 l := by
  have hbucket : k.bucket ≠ (kindOf a).bucket := fun e => h (RequestKind.bucket_injective e).symm
  exact ⟨now_decide p l a, settings_decide p l a, get_decide_of_ne p l hbucket⟩

/-- A request gets the same answer from ledgers that agree for its kind, and they agree after it. -/
theorem agree_decide {p : Policy} {l m : Ledger α} {a : Ask} (h : Agree (kindOf a) l m) :
    (l.decide p a).2 = (m.decide p a).2 ∧
      Agree (kindOf a) (l.decide p a).1 (m.decide p a).1 := by
  cases hl : l.selection? p a with
  | none =>
    have hm : m.selection? p a = none := (h.selection? p a).symm.trans hl
    refine ⟨answer_congr h.current? hl, ?_⟩
    rw [decide_of_selection?_eq_none hl, decide_of_selection?_eq_none hm]
    exact h
  | some c =>
    have hm : m.selection? p a = some c := (h.selection? p a).symm.trans hl
    rw [decide_of_selection?_eq_some hl, decide_of_selection?_eq_some hm, h.drawn c]
    exact ⟨rfl, h.takeToken c⟩

/-- An event that happens in both ledgers is answered alike and keeps the agreement. -/
theorem agree_step (p : Policy) {k : RequestKind} (l m : Ledger α) (e : Event α)
    (he : e.concerns k = true) (h : Agree k l m) :
    (step p l e).2 = (step p m e).2 ∧ Agree k (step p l e).1 (step p m e).1 := by
  cases e with
  | publish settings => exact ⟨rfl, h.now, rfl, h.bucket⟩
  | advance ns =>
    have hnow : l.now + (ns : Int) = m.now + (ns : Int) := by rw [h.now]
    exact ⟨rfl, hnow, h.settings, h.bucket⟩
  | ask a =>
    have hkind : kindOf a = k := by
      rw [kindOf_eq_trafficClass]
      simpa [Event.concerns] using he
    subst hkind
    obtain ⟨hanswer, hagree⟩ := agree_decide (p := p) h
    exact ⟨congrArg some hanswer, hagree⟩

/-- A request of another class that happens in the first ledger only. -/
theorem agree_step_of_not_concerns (p : Policy) {k : RequestKind} (l m : Ledger α) (e : Event α)
    (he : e.concerns k = false) (h : Agree k l m) : Agree k (step p l e).1 m := by
  cases e with
  | publish settings => simp [Event.concerns] at he
  | advance ns => simp [Event.concerns] at he
  | ask a =>
    have hkind : kindOf a ≠ k := by
      rw [kindOf_eq_trafficClass]
      simpa [Event.concerns] using he
    exact (agree_decide_of_ne hkind).trans h

/-! ## Runs -/

/-- Without the requests of the other classes, every request of a class gets the same answer and
the bucket of the class ends up the same. -/
theorem run_isolated (p : Policy) (l : Ledger α) (events : List (Event α)) (k : RequestKind) :
    let alone := events.filter (Event.concerns k)
    (run p l alone).2 = keptAnswers (Event.concerns k) events (run p l events).2 ∧
      (run p l alone).1.buckets.get k.bucket = (run p l events).1.buckets.get k.bucket := by
  intro alone
  obtain ⟨hanswers, hagree⟩ :=
    run_filter (step p) (agree_step p) (agree_step_of_not_concerns p) (Agree.refl k l) events
  exact ⟨hanswers, hagree.bucket.symm⟩

end Ledger

end TraceSampler.Quota
