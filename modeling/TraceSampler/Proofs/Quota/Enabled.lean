import TraceSampler.Proofs.Quota.Conditions

/-!
# Tracing that is switched off

Five switches decide whether tracing is enabled for a request: settings have to be published, to be
fresh and to have tracing on, and the policy has to leave it on, by the first rule that applies or
else for all requests. Where one of them is off nothing else counts, neither the parent and the
options of the request nor the dice and the tokens.

What was published last and what time it is are read off the events of a run.

* `Policy.leavesOn_iff`: when the policy leaves tracing on.
* `enables_iff`: the switches are those that a ledger goes by.
* `settings_run`, `now_run`: the settings and the time that a run ends with.
* `decide_of_not_enables`, `measured_decide_iff`: what the switches come to.
* `decide_run_inert`: the same after any run.
-/

namespace TraceSampler.Quota

/-! ## Switches -/

/-- The policy leaves tracing on for a request: by the first rule that applies to one of its
signals, or for all requests where no rule applies. -/
inductive Policy.LeavesOn (p : Policy) (signals : List String) : Prop
  | byRule {before behind : List ResourceRule} {rule : ResourceRule}
      (hsplit : p.resources = before ++ rule :: behind)
      (hbefore : ∀ earlier ∈ before, earlier.applies signals = false)
      (happlies : rule.applies signals = true) (hon : rule.tracing = true)
  | byMode (hnone : ∀ rule ∈ p.resources, rule.applies signals = false)
      (hon : p.tracing ≠ some false)

theorem Policy.leavesOn_iff {p : Policy} {signals : List String} :
    p.LeavesOn signals ↔ p.allowsTracing signals = true := by
  constructor
  · rintro (⟨hsplit, hbefore, happlies, hon⟩ | ⟨hnone, hon⟩)
    · rw [allowsTracing_of_first hsplit hbefore happlies, hon]
    · rw [allowsTracing_of_none hnone]
      cases htracing : p.tracing with
      | none => rfl
      | some on =>
        have hne : on ≠ false := fun hoff => hon (by rw [htracing, hoff])
        simpa using hne
  · intro h
    rcases p.firstRule_cases signals with ⟨_, _, _, hsplit, hbefore, happlies⟩ | hnone
    · rw [allowsTracing_of_first hsplit hbefore happlies] at h
      exact .byRule hsplit hbefore happlies h
    · rw [allowsTracing_of_none hnone] at h
      refine .byMode hnone fun hoff => ?_
      simp [hoff] at h

variable {α : Type}

/-- The settings published last are there, are no older than they may be, and have tracing on. -/
def RemoteOn (published : Option (Settings α)) (now : Instant) : Prop :=
  ∃ st, published = some st ∧ elapsed st.fetchedAt now ≤ st.lifetime ∧ st.tracing = true

/-- Tracing is enabled for a request with the given signals. -/
structure Policy.Enables (p : Policy) (published : Option (Settings α)) (now : Instant)
    (signals : List String) : Prop where
  remote : RemoteOn published now
  policy : p.LeavesOn signals

namespace Ledger

/-! ## What a run publishes -/

/-- The settings published last, after one more event. -/
def Event.published (published : Option (Settings α)) : Event α → Option (Settings α)
  | .publish settings => settings
  | .advance _ | .ask _ => published

/-- The time that passes with an event, in nanoseconds. -/
def Event.duration : Event α → Nat
  | .advance ns => ns
  | .publish _ | .ask _ => 0

/-- The settings published last in a run, or else before it. -/
def lastPublished (published : Option (Settings α)) (events : List (Event α)) :
    Option (Settings α) :=
  events.foldl Event.published published

/-- The time after a run. -/
def timeAfter (start : Instant) (events : List (Event α)) : Instant :=
  events.foldl (fun now e => now + e.duration) start

/-- The switches are those that a ledger goes by. -/
theorem enables_iff {p : Policy} {l : Ledger α} {signals : List String} :
    p.Enables l.settings l.now signals ↔ ∃ st, l.InForce st ∧ ¬ p.TracingOff st signals := by
  have hon : ∀ st : Settings α,
      ¬ p.TracingOff st signals ↔ st.tracing = true ∧ p.LeavesOn signals := by
    intro st
    rw [← tracing_narrowed_iff, Policy.leavesOn_iff, narrowed, Bool.and_eq_true]
  constructor
  · rintro ⟨⟨st, hpublished, hfresh, htracing⟩, hpolicy⟩
    exact ⟨st, ⟨hpublished, hfresh⟩, (hon st).2 ⟨htracing, hpolicy⟩⟩
  · rintro ⟨st, hforce, htracing⟩
    obtain ⟨hremote, hpolicy⟩ := (hon st).1 htracing
    exact ⟨⟨st, hforce.published, hforce.fresh, hremote⟩, hpolicy⟩

variable [Amount α]

theorem settings_run (p : Policy) (l : Ledger α) (events : List (Event α)) :
    (run p l events).1.settings = lastPublished l.settings events := by
  refine run_part (step p) Ledger.settings Event.published ?_ l events
  intro l e
  cases e with
  | publish settings => rfl
  | advance ns => rfl
  | ask a => exact settings_decide p l a

theorem now_run (p : Policy) (l : Ledger α) (events : List (Event α)) :
    (run p l events).1.now = timeAfter l.now events := by
  refine run_part (step p) Ledger.now (fun now e => now + e.duration) ?_ l events
  intro l e
  cases e with
  | publish settings => exact (Int.add_zero l.now).symm
  | advance ns => rfl
  | ask a => exact (now_decide p l a).trans (Int.add_zero l.now).symm

/-! ## What the switches come to -/

/-- Where tracing is not enabled the ledger stays as it is, and whatever the parent of the request,
its options and the dice, there is a verdict that traces and measures nothing. -/
theorem decide_of_not_enables {p : Policy} {l : Ledger α} {a : Ask}
    (h : ¬ p.Enables l.settings l.now a.signals) :
    (l.decide p a).1 = l ∧
      ∃ v, (l.decide p a).2 = .ok v ∧ v.sampled = false ∧ v.measured = false ∧
        v.exhausted = false := by
  rw [enables_iff, not_exists] at h
  cases hcurrent : l.current? with
  | none =>
    simp only [decide, hcurrent, true_and]
    exact ⟨_, rfl, rfl, rfl, rfl⟩
  | some st =>
    have hoff : (narrowed p st a.signals).tracing = false := by
      rw [Bool.eq_false_iff]
      intro hon
      exact h st ⟨current?_eq_some_iff.1 hcurrent, tracing_narrowed_iff.1 hon⟩
    simp only [decide, hcurrent, hoff, Bool.not_false, if_true, true_and]
    exact ⟨_, rfl, rfl, rfl, rfl⟩

/-- A verdict measures a request just where tracing is enabled for it. -/
theorem measured_decide_iff {p : Policy} {l : Ledger α} {a : Ask} {v : Verdict α}
    (hv : (l.decide p a).2 = .ok v) :
    v.measured = true ↔ p.Enables l.settings l.now a.signals := by
  by_cases henables : p.Enables l.settings l.now a.signals
  · refine iff_of_true ?_ henables
    obtain ⟨st, hforce, htracing⟩ := enables_iff.1 henables
    have hcurrent := current?_eq_some_iff.2 hforce
    have hon := tracing_narrowed_iff.2 htracing
    cases hselection : l.selection? p a with
    | some c =>
      rw [decide_of_selection?_eq_some hselection] at hv
      obtain rfl := Except.ok.inj hv
      rfl
    | none =>
      -- of the reasons not to select the request, only its parent, its options or the dice are left
      rcases unselected_cases hselection with
        hnone | ⟨st', hcurrent', hoff | ⟨-, hselected | ⟨e, hselected⟩⟩⟩
      · simp [hnone] at hcurrent
      all_goals obtain rfl : st' = st := Option.some.inj (hcurrent'.symm.trans hcurrent)
      · simp [hoff] at hon
      · simp [decide, hcurrent, hon, hselected] at hv
        rw [← hv]
      · simp [decide, hcurrent, hon, hselected] at hv
  · refine iff_of_false ?_ henables
    obtain ⟨-, v', hv', -, hmeasured, -⟩ := decide_of_not_enables henables
    obtain rfl := Except.ok.inj (hv'.symm.trans hv)
    simp [hmeasured]

/-- Tracing that is not enabled is inert. After any run, a request for which tracing is not enabled
gets a verdict that it is neither sampled nor measured nor found its bucket exhausted, and nothing
changes in the ledger; a verdict on any other request measures it. So the policy can only narrow
what the settings allow: what is sampled or measured under any policy has the settings published
last behind it, in force and with tracing on. -/
theorem decide_run_inert (p : Policy) (l : Ledger α) (events : List (Event α)) (a : Ask) :
    let before := (run p l events).1
    let after := before.decide p a
    let published := lastPublished l.settings events
    let now := timeAfter l.now events
    (¬ p.Enables published now a.signals →
      after.1 = before ∧
        ∃ v, after.2 = .ok v ∧ v.sampled = false ∧ v.measured = false ∧ v.exhausted = false) ∧
    (p.Enables published now a.signals → ∀ v, after.2 = .ok v → v.measured = true) ∧
    (∀ v, after.2 = .ok v → v.sampled = true ∨ v.measured = true → RemoteOn published now) := by
  intro before after published now
  have hpublished : published = before.settings := (settings_run p l events).symm
  have hnow : now = before.now := (now_run p l events).symm
  rw [hpublished, hnow]
  refine ⟨decide_of_not_enables, fun henables v hv => (measured_decide_iff hv).2 henables, ?_⟩
  intro v hv hclaims
  by_cases henables : p.Enables before.settings before.now a.signals
  · exact henables.remote
  · obtain ⟨-, v', hv', hsampled, hmeasured, -⟩ := decide_of_not_enables henables
    obtain rfl := Except.ok.inj (hv'.symm.trans hv)
    simp [hsampled, hmeasured] at hclaims

/-- A rule leaves tracing on for a request that goes on with a trace. As long as the settings are
fresh it is sampled under that rule; a moment after they have expired not even a malformed parent is
looked at. -/
theorem decide_run_inert_expired :
    let rule : ResourceRule :=
      { pattern :=
          { source := "out$", expression := .sequence [.text "out".toList, .look .textEnd] }
        tracing := true }
    let p : Policy := { tracing := some false, resources := [rule] }
    let st : Settings Float :=
      { sampleRate := 0, lifetime := 10, buckets := .all (some { capacity := 1, rate := 0 }) }
    let l : Ledger Float := {}
    let fresh : List (Event Float) := [.publish (some st), .advance 10]
    let expired := fresh ++ [.advance 1]
    let good : Ask :=
      { name := "checkout", parent := some "00-1-2-01", signals := ["http://shop/Checkout"] }
    let bad : Ask := { good with parent := some "00-1-2" }
    let sampled := (run p l fresh).1.decide p good
    let refused := (run p l expired).1.decide p bad
    (∃ v, sampled.2 = .ok v ∧ v.sampled = true) ∧
      (p.Enables (lastPublished l.settings fresh) (timeAfter l.now fresh) good.signals ∧
        ∀ v, sampled.2 = .ok v → v.measured = true) ∧
      RemoteOn (lastPublished l.settings fresh) (timeAfter l.now fresh) ∧
      ¬ p.Enables (lastPublished l.settings expired) (timeAfter l.now expired) bad.signals ∧
      refused.1 = (run p l expired).1 ∧
      ∃ v, refused.2 = .ok v ∧ v.sampled = false ∧ v.measured = false ∧ v.exhausted = false := by
  intro rule p st l fresh expired good bad sampled refused
  have hremote : RemoteOn (lastPublished l.settings fresh) (timeAfter l.now fresh) :=
    ⟨st, rfl, by decide, rfl⟩
  have henables : p.Enables (lastPublished l.settings fresh) (timeAfter l.now fresh) good.signals :=
    ⟨hremote, Policy.leavesOn_iff.2 (by decide +kernel)⟩
  have hexpired :
      ¬ p.Enables (lastPublished l.settings expired) (timeAfter l.now expired) bad.signals := by
    rintro ⟨⟨st', hpublished, hfresh, -⟩, -⟩
    obtain rfl : st = st' := Option.some.inj hpublished
    exact absurd hfresh (by decide)
  obtain ⟨-, hmeasured, hremoteOn⟩ := decide_run_inert p l fresh good
  obtain ⟨hinert, -, -⟩ := decide_run_inert p l expired bad
  obtain ⟨hledger, hverdict⟩ := hinert hexpired
  obtain ⟨v, hv, hsampled⟩ : ∃ v, sampled.2 = .ok v ∧ v.sampled = true :=
    ⟨_, rfl, by decide +kernel⟩
  exact ⟨⟨v, hv, hsampled⟩, ⟨henables, hmeasured henables⟩, hremoteOn v hv (.inl hsampled),
    hexpired, hledger, hverdict⟩

end Ledger

end TraceSampler.Quota
