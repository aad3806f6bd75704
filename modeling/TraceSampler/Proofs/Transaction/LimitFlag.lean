import TraceSampler.Proofs.Transaction.NameLimit

/-!
# The flag of the limit

A registry that turns a name away for want of room says so by a flag, until the names are forgotten
or a greater limit is taken in. The flag is honest as long as there is no room. One event only makes
room and leaves the flag as it was: when a feed says that there is no limit of its own any more, the
standard limit is in force again, which may be greater than the one before.

* `FlagHonest.poll`, `FlagHonest.accept`: an honest flag stays so, but for that event.
* `flagHonest_or_stale_run`: after any run the flag is honest, or it outlived its limit that way and
  nothing took it down since.
* `run_exceeded`: when the flag is up, and how a greater number takes it down.
-/

namespace TraceSampler.Transaction

/-! ## The registry -/

namespace Registry

/-- If the flag is up there is no room: the names are as many as the limit allows, or more. -/
def FlagHonest (r : Registry) : Prop := r.exceeded = true → r.limit ≤ r.count

/-- The flag is up, and the standard limit is about to come into force in place of a smaller one. -/
def OutlivesLimit (r : Registry) : Prop :=
  r.exceeded = true ∧ r.pending? = some none ∧ r.limit < standardLimit

/-- Of all that may wait in the feed, a number greater than the limit in force takes the flag
down. -/
theorem exceeded_poll_iff (r : Registry) :
    r.poll.exceeded = true ↔
      r.exceeded = true ∧ ∀ k, r.pending? = some (some k) → k ≤ r.limit := by
  unfold poll
  split
  · next hpending => simp [hpending]
  · next hpending => simp [hpending]
  · next hpending => simp [hpending]

/-- Only a name that is turned away puts the flag up. -/
theorem exceeded_accept (r : Registry) (name : String) :
    (r.accept name).1.exceeded = (r.exceeded || !(r.accept name).2) := by
  by_cases hknown : name ∈ r.names
  · simp [accept, hknown]
  · by_cases hroom : r.names.length < r.limit
    · simp [accept, hknown, hroom]
    · simp [accept, hknown, hroom]

namespace FlagHonest

variable {r : Registry}

theorem of_not_exceeded (h : r.exceeded = false) : r.FlagHonest := by
  intro hup
  rw [h] at hup
  exact absurd hup Bool.false_ne_true

theorem poll (h : r.FlagHonest) (hnot : ¬ r.OutlivesLimit) : r.poll.FlagHonest := by
  intro hup
  obtain ⟨hbefore, hnumber⟩ := r.exceeded_poll_iff.1 hup
  have hfull : r.limit ≤ r.names.length := h hbefore
  rw [limit_poll, count, names_poll]
  cases hpending : r.pending? with
  | none => exact hfull
  | some value =>
    cases value with
    | some k => exact Nat.le_trans (hnumber k hpending) hfull
    | none =>
      rcases Nat.lt_or_ge r.limit standardLimit with hless | hge
      · exact absurd ⟨hbefore, hpending, hless⟩ hnot
      · exact Nat.le_trans hge hfull

theorem accept (h : r.FlagHonest) (name : String) : (r.accept name).1.FlagHonest := by
  by_cases hknown : name ∈ r.names
  · rw [accept_of_mem hknown]
    exact h
  · intro hup
    by_cases hroom : r.names.length < r.limit
    · -- where there is room the flag was down, and it stays so
      have hbefore : r.exceeded = true := by simpa [Registry.accept, hknown, hroom] using hup
      exact absurd hroom (Nat.not_lt.2 (h hbefore))
    · have hsame : (r.accept name).1 = { r with exceeded := true } := by
        simp [Registry.accept, hknown, hroom]
      rw [hsame]
      exact Nat.not_lt.1 hroom

theorem report (h : r.FlagHonest) (hnot : ¬ r.OutlivesLimit) (name : String) :
    (r.report name).1.FlagHonest := (h.poll hnot).accept name

end FlagHonest

end Registry

namespace Namer

/-! ## Runs -/

/-- A name is judged, and with that the flag outlives its limit. -/
def FlagOutlives (c : NamingConfig) (n : Namer) (e : Event) : Prop :=
  (n.judgement? c e).isSome = true ∧ n.registry.OutlivesLimit

/-- An honest flag stays so, unless it outlives its limit. -/
theorem flagHonest_step (c : NamingConfig) {n : Namer} (h : n.registry.FlagHonest) {e : Event}
    (hnot : ¬ FlagOutlives c n e) : (step c n e).1.registry.FlagHonest := by
  rw [registry_step]
  cases hj : n.judgement? c e with
  | some j => exact h.report (fun houtlives => hnot ⟨by rw [hj]; rfl, houtlives⟩) j.name
  | none =>
    cases e with
    | clear => exact .of_not_exceeded rfl
    | reset => exact .of_not_exceeded rfl
    | name r => exact h
    | custom traceId s => exact h
    | publish limit => exact h
    | dropFeed => exact h
    | advance ns => exact h

/-- At some moment of a run the flag outlived its limit, and it has been up since. -/
def FlagStale (c : NamingConfig) (n : Namer) (events : List Event) : Prop :=
  ∃ before e after, events = before ++ e :: after ∧ FlagOutlives c (run c n before).1 e ∧
    ∀ first, first <+: after → (run c n (before ++ e :: first)).1.registry.exceeded = true

/-- One more event, after which the flag is up, leaves a stale flag stale. -/
theorem FlagStale.concat {c : NamingConfig} {n : Namer} {events : List Event}
    (h : FlagStale c n events) {e : Event}
    (hup : (run c n (events ++ [e])).1.registry.exceeded = true) :
    FlagStale c n (events ++ [e]) := by
  rcases h with ⟨before, x, after, rfl, houtlives, hsince⟩
  have hsplit : (before ++ x :: after) ++ [e] = before ++ x :: (after ++ [e]) := by simp
  rw [hsplit] at hup ⊢
  refine ⟨before, x, after ++ [e], rfl, houtlives, ?_⟩
  intro first hfirst
  rcases List.prefix_concat_iff.1 hfirst with rfl | hfirst
  · exact hup
  · exact hsince first hfirst

/-- After any run the flag is honest, unless it is stale. -/
theorem flagHonest_or_stale_run (c : NamingConfig) {n : Namer} (h : n.registry.FlagHonest)
    (events : List Event) :
    (run c n events).1.registry.FlagHonest ∨ FlagStale c n events := by
  refine run_history (step c)
    (P := fun past m => m.registry.FlagHonest ∨ FlagStale c n past) (.inl h) ?_
  intro past e _ hpast
  cases hup : (run c n (past ++ [e])).1.registry.exceeded with
  | false => exact .inl (.of_not_exceeded hup)
  | true =>
    rcases hpast with hhonest | hstale
    · -- an honest flag becomes stale with this event, or it stays honest
      by_cases houtlives : FlagOutlives c (run c n past).1 e
      · refine .inr ⟨past, e, [], rfl, houtlives, ?_⟩
        intro first hfirst
        rw [List.prefix_nil.1 hfirst]
        exact hup
      · rw [run_concat_fst]
        exact .inl (flagHonest_step c hhonest houtlives)
    · exact .inr (hstale.concat hup)

/-- After a name was judged, the flag is up if it was up under the latest limit, or if the name was
turned away. -/
theorem exceeded_step_of_judgement? {c : NamingConfig} {n : Namer} {e : Event} {j : Judgement}
    (h : n.judgement? c e = some j) :
    (step c n e).1.registry.exceeded = (n.registry.poll.exceeded || !j.passed) := by
  obtain ⟨r, rfl⟩ := exists_request_of_judgement? h
  obtain ⟨s, -, rfl⟩ := Option.map_eq_some_iff.1 h
  rw [registry_step, h]
  exact n.registry.poll.exceeded_accept s

/-- Of a namer with an honest flag to start with, whatever happens to it: if the flag is up then
there is no room, unless the flag outlived its limit when the standard one was restored, and is
still up since. A greater number takes the flag down when it is taken in; it is up again only if the
very name that is judged is turned away under the new limit. -/
theorem run_exceeded (c : NamingConfig) (n : Namer) (h : n.registry.FlagHonest)
    (events : List Event) :
    let final := (run c n events).1
    (final.registry.exceeded = true →
      final.registry.limit ≤ final.registry.count ∨ FlagStale c n events) ∧
    (∀ e j k, final.judgement? c e = some j → final.registry.pending? = some (some k) →
      final.registry.limit < k → (step c final e).1.registry.exceeded = !j.passed) := by
  intro final
  constructor
  · intro hup
    exact (flagHonest_or_stale_run c h events).imp_left fun hhonest => hhonest hup
  · intro e j k hj hpending hgreater
    have hdown : final.registry.poll.exceeded = false := by
      rw [← Bool.not_eq_true]
      intro hup
      obtain ⟨-, hnumber⟩ := final.registry.exceeded_poll_iff.1 hup
      exact absurd hgreater (Nat.not_lt.2 (hnumber k hpending))
    rw [exceeded_step_of_judgement? hj, hdown, Bool.false_or]

/-- Two names fill the limit and a third is turned away; then the limit is lowered to one, and later
raised to three. -/
theorem run_exceeded_raised :
    let n := following (some 2)
    let events := [Event.name (spanNamed "a"), .name (spanNamed "b"), .name (spanNamed "c"),
      .publish (some 1), .name (spanNamed "a"), .publish (some 3)]
    let final := (run {} n events).1
    n.registry.FlagHonest ∧ final.registry.exceeded = true ∧ final.registry.limit = 1 ∧
      (final.registry.limit ≤ final.registry.count ∨ FlagStale {} n events) ∧
      final.registry.pending? = some (some 3) ∧
      ∃ j, final.judgement? {} (.name (spanNamed "c")) = some j ∧ j.passed = true ∧
        (step {} final (.name (spanNamed "c"))).1.registry.exceeded = false := by
  intro n events final
  have hhonest : n.registry.FlagHonest := .of_not_exceeded rfl
  obtain ⟨hup, hdown⟩ := run_exceeded {} n hhonest events
  have hexceeded : final.registry.exceeded = true := by decide +kernel
  have hpending : final.registry.pending? = some (some 3) := by decide +kernel
  have hlimit : final.registry.limit = 1 := by decide +kernel
  have hjudged : (final.judgement? {} (.name (spanNamed "c"))).map (·.passed) = some true := by
    decide +kernel
  obtain ⟨j, hj, hpassed⟩ := Option.map_eq_some_iff.1 hjudged
  have hgreater : final.registry.limit < 3 := by
    rw [hlimit]
    decide
  have hflag := hdown _ j 3 hj hpending hgreater
  rw [hpassed] at hflag
  exact ⟨hhonest, hexceeded, hlimit, hup hexceeded, hpending, j, hj, hpassed, hflag⟩

/-- The one name that the limit allows is let through and another is turned away; then the standard
limit is restored. With the next name it is in force and there is room, but the flag is up. -/
theorem exceeded_with_room :
    let events := [Event.name (spanNamed "a"), .name (spanNamed "b"), .publish none,
      .name (spanNamed "a")]
    let final := (run {} (following (some 1)) events).1
    final.registry.exceeded = true ∧ final.registry.limit = 200 ∧ final.registry.count = 1 ∧
      ¬ final.registry.FlagHonest := by
  intro events final
  have hexceeded : final.registry.exceeded = true := by decide +kernel
  have hlimit : final.registry.limit = 200 := by decide +kernel
  have hcount : final.registry.count = 1 := by decide +kernel
  refine ⟨hexceeded, hlimit, hcount, ?_⟩
  intro hhonest
  have hfull := hhonest hexceeded
  omega

end Namer

end TraceSampler.Transaction
