import TraceSampler.Proofs.Transaction.NameLimit

/-!
# Limits that come through the feed

A new limit is taken in by the next request that puts a name before the registry. Of several limits
that were published meanwhile the last counts. A feed that lost its sender is not read any more, so
a limit is in force only if such a request came between its publication and the loss; otherwise the
limit from before stays.

A limit is followed from the moment of its publication until another one is published: it waits,
or it was taken in, or it was lost with the sender. These are the cases of `Fate`.

* `limit_step_cases`: what an event does to the limit and to the value that waits.
* `Fate.step`, `Fate.of_run`: what becomes of a value that waits, with an event and in a run.
* `run_limit_of_published`: the limit by which a name is judged.
-/

namespace TraceSampler.Transaction

/-! ## The registry and its feed -/

namespace Registry

/-- What waits depends on the feed alone. -/
theorem pending?_congr {r r' : Registry} (h : r.feed = r'.feed) : r.pending? = r'.pending? := by
  rw [pending?, pending?, h]

/-- What waits is read once. -/
theorem pending?_poll (r : Registry) : r.poll.pending? = none := by
  have hread : ({ r with feed := r.feed.map LimitFeed.read } : Registry).pending? = none := by
    cases hfeed : r.feed with
    | none => rfl
    | some f => simp [pending?, LimitFeed.read, LimitFeed.isPending]
  unfold poll
  split
  · next hpending => exact hpending
  · exact hread
  · exact hread

/-- A name is judged without touching the limit or the feed. -/
theorem accept_keeps (r : Registry) (name : String) :
    (r.accept name).1.limit = r.limit ∧ (r.accept name).1.feed = r.feed := by
  unfold accept
  split
  · exact ⟨rfl, rfl⟩
  · split
    · exact ⟨rfl, rfl⟩
    · exact ⟨rfl, rfl⟩

theorem limit_report (r : Registry) (name : String) :
    (r.report name).1.limit = r.poll.limit := (r.poll.accept_keeps name).1

theorem feed_report (r : Registry) (name : String) :
    (r.report name).1.feed = r.poll.feed := (r.poll.accept_keeps name).2

theorem pending?_report (r : Registry) (name : String) : (r.report name).1.pending? = none :=
  (pending?_congr (r.feed_report name)).trans r.pending?_poll

/-- Without a sender nothing waits. -/
theorem pending?_close (r : Registry) :
    ({ r with feed := r.feed.map LimitFeed.close } : Registry).pending? = none := by
  cases hfeed : r.feed with
  | none => rfl
  | some f => simp [pending?, LimitFeed.close, LimitFeed.isPending]

/-- There is a feed, and its sender is there. -/
def HasSender (r : Registry) : Prop := ∃ f, r.feed = some f ∧ f.isOpen = true

theorem HasSender.report {r : Registry} (h : r.HasSender) (name : String) :
    (r.report name).1.HasSender := by
  rcases h with ⟨f, hfeed, hopen⟩
  rw [HasSender, feed_report]
  unfold poll
  split
  · exact ⟨f, hfeed, hopen⟩
  · exact ⟨f.read, by simp [hfeed], hopen⟩
  · exact ⟨f.read, by simp [hfeed], hopen⟩

theorem HasSender.send {r : Registry} (h : r.HasSender) (value : Option Nat) :
    ({ r with feed := r.feed.map fun f => f.send value } : Registry).HasSender := by
  rcases h with ⟨f, hfeed, hopen⟩
  exact ⟨f.send value, by simp [hfeed], by simp [LimitFeed.send, hopen]⟩

/-- What is published waits to be read, instead of what waited before. -/
theorem HasSender.pending?_send {r : Registry} (h : r.HasSender) (value : Option Nat) :
    ({ r with feed := r.feed.map fun f => f.send value } : Registry).pending? = some value := by
  rcases h with ⟨f, hfeed, hopen⟩
  simp [pending?, hfeed, LimitFeed.send, LimitFeed.isPending, hopen]

end Registry

namespace Namer

/-! ## One event -/

/-- The event neither publishes a limit nor resets the one in force. -/
def Event.leavesLimit : Event → Bool
  | .publish _ | .reset => false
  | .name _ | .custom _ _ | .dropFeed | .clear | .advance _ => true

/-- A name is judged, which takes in what waits; or the sender goes, with what waits; or limit and
feed are left alone. -/
theorem limit_step_cases (c : NamingConfig) (n : Namer) {e : Event} (he : e.leavesLimit = true) :
    ((n.judgement? c e).isSome = true ∧
      (step c n e).1.registry.limit = n.registry.poll.limit ∧
      (step c n e).1.registry.pending? = none) ∨
    (e = .dropFeed ∧ (step c n e).1.registry.limit = n.registry.limit ∧
      (step c n e).1.registry.pending? = none) ∨
    ((n.judgement? c e).isSome = false ∧ e ≠ .dropFeed ∧
      (step c n e).1.registry.limit = n.registry.limit ∧
      (step c n e).1.registry.pending? = n.registry.pending?) := by
  rw [registry_step]
  cases hj : n.judgement? c e with
  | some j =>
    exact .inl ⟨rfl, n.registry.limit_report j.name, n.registry.pending?_report j.name⟩
  | none =>
    cases e with
    | dropFeed => exact .inr (.inl ⟨rfl, rfl, n.registry.pending?_close⟩)
    | name r => exact .inr (.inr ⟨rfl, by simp, rfl, rfl⟩)
    | custom traceId s => exact .inr (.inr ⟨rfl, by simp, rfl, rfl⟩)
    | clear => exact .inr (.inr ⟨rfl, by simp, rfl, rfl⟩)
    | advance ns => exact .inr (.inr ⟨rfl, by simp, rfl, rfl⟩)
    | publish limit => simp [Event.leavesLimit] at he
    | reset => simp [Event.leavesLimit] at he

/-- Where nothing waits, the limit stays, and nothing waits afterwards. -/
theorem limit_step_of_settled (c : NamingConfig) {n : Namer} (h : n.registry.pending? = none)
    {e : Event} (he : e.leavesLimit = true) :
    (step c n e).1.registry.limit = n.registry.limit ∧
      (step c n e).1.registry.pending? = none := by
  rcases limit_step_cases c n he with ⟨-, hlimit, hnone⟩ | ⟨-, hlimit, hnone⟩ |
    ⟨-, -, hlimit, hsame⟩
  · rw [Registry.limit_poll, h] at hlimit
    exact ⟨hlimit, hnone⟩
  · exact ⟨hlimit, hnone⟩
  · exact ⟨hlimit, hsame.trans h⟩

/-- Only by dropping the feed is its sender lost. -/
theorem hasSender_step (c : NamingConfig) {n : Namer} (h : n.registry.HasSender) {e : Event}
    (he : e ≠ .dropFeed) : (step c n e).1.registry.HasSender := by
  rw [registry_step]
  cases hj : n.judgement? c e with
  | some j => exact h.report j.name
  | none =>
    cases e with
    | dropFeed => exact absurd rfl he
    | publish limit => exact h.send limit
    | name r => exact h
    | custom traceId s => exact h
    | clear => exact h
    | reset => exact h
    | advance ns => exact h

theorem hasSender_run (c : NamingConfig) {n : Namer} (h : n.registry.HasSender)
    {events : List Event} (hevents : .dropFeed ∉ events) :
    (run c n events).1.registry.HasSender := by
  induction events generalizing n with
  | nil => exact h
  | cons e r ih =>
    have he : e ≠ .dropFeed := fun heq => hevents (heq ▸ List.mem_cons_self)
    have hr : .dropFeed ∉ r := fun hmem => hevents (List.mem_cons_of_mem e hmem)
    exact ih (hasSender_step c h he) hr

/-! ## What becomes of a limit -/

/-- A name is judged while the sender is still there. -/
def TakenIn (c : NamingConfig) (n : Namer) (events : List Event) : Prop :=
  ∃ first e rest, events = first ++ e :: rest ∧ .dropFeed ∉ first ∧
    ((run c n first).1.judgement? c e).isSome = true

theorem takenIn_concat_iff (c : NamingConfig) (n : Namer) (events : List Event) (e : Event) :
    TakenIn c n (events ++ [e]) ↔ TakenIn c n events ∨
      (.dropFeed ∉ events ∧ ((run c n events).1.judgement? c e).isSome = true) := by
  constructor
  · -- the name was judged with the last event, or before it
    rintro ⟨first, x, rest, hsplit, hopen, hjudged⟩
    rcases List.eq_nil_or_concat rest with rfl | ⟨rest, y, rfl⟩
    · obtain ⟨rfl, hx⟩ := List.append_inj' hsplit rfl
      obtain rfl : e = x := by simpa using hx
      exact .inr ⟨hopen, hjudged⟩
    · have hsplit' : events ++ [e] = (first ++ x :: rest) ++ [y] := by simpa using hsplit
      obtain ⟨hevents, -⟩ := List.append_inj' hsplit' rfl
      exact .inl ⟨first, x, rest, hevents, hopen, hjudged⟩
  · rintro (⟨first, x, rest, rfl, hopen, hjudged⟩ | ⟨hopen, hjudged⟩)
    · exact ⟨first, x, rest ++ [e], by simp, hopen, hjudged⟩
    · exact ⟨events, e, [], rfl, hopen, hjudged⟩

/-- Without a sender, or without a judgement, one more event takes nothing in. -/
theorem not_takenIn_concat {c : NamingConfig} {n : Namer} {events : List Event} {e : Event}
    (h : ¬ TakenIn c n events)
    (hlate : .dropFeed ∈ events ∨ ((run c n events).1.judgement? c e).isSome = false) :
    ¬ TakenIn c n (events ++ [e]) := by
  rw [takenIn_concat_iff]
  rintro (hearly | ⟨hopen, hjudged⟩)
  · exact h hearly
  · rcases hlate with hdropped | hunjudged
    · exact hopen hdropped
    · rw [hunjudged] at hjudged
      exact Bool.false_ne_true hjudged

/-- What became of a value that waited when the namer was `n`, after some events that left it to
itself. -/
inductive Fate (c : NamingConfig) (n : Namer) (value : Option Nat) (past : List Event) (m : Namer) :
    Prop
  | taken (hjudged : TakenIn c n past)
    (hlimit : m.registry.limit = value.getD Registry.standardLimit)
    (hpending : m.registry.pending? = none)
  | lost (hnot : ¬ TakenIn c n past) (hdropped : .dropFeed ∈ past)
    (hlimit : m.registry.limit = n.registry.limit) (hpending : m.registry.pending? = none)
  | waiting (hnot : ¬ TakenIn c n past) (hopen : .dropFeed ∉ past)
    (hlimit : m.registry.limit = n.registry.limit) (hpending : m.registry.pending? = some value)

namespace Fate

variable {c : NamingConfig} {n : Namer} {value : Option Nat} {past : List Event}

theorem step (h : Fate c n value past (Namer.run c n past).1) {e : Event}
    (he : e.leavesLimit = true) :
    Fate c n value (past ++ [e]) (Namer.run c n (past ++ [e])).1 := by
  have hrun : (Namer.run c n (past ++ [e])).1 = (Namer.step c (Namer.run c n past).1 e).1 :=
    run_concat_fst (Namer.step c) n past e
  rw [hrun]
  cases h with
  | taken htaken hlimit hpending =>
    -- whether taken in or lost, nothing waits any more, so that the limit stays
    obtain ⟨hsame, hnone⟩ := limit_step_of_settled c hpending he
    have hstill : TakenIn c n (past ++ [e]) := (takenIn_concat_iff c n past e).2 (.inl htaken)
    exact .taken hstill (hsame.trans hlimit) hnone
  | lost hnot hdropped hlimit hpending =>
    obtain ⟨hsame, hnone⟩ := limit_step_of_settled c hpending he
    have hstill : ¬ TakenIn c n (past ++ [e]) := not_takenIn_concat hnot (.inl hdropped)
    exact .lost hstill (List.mem_append_left [e] hdropped) (hsame.trans hlimit) hnone
  | waiting hnot hopen hlimit hpending =>
    rcases limit_step_cases c (Namer.run c n past).1 he with ⟨hjudged, hpoll, hnone⟩ |
      ⟨rfl, hsame, hnone⟩ | ⟨hunjudged, hne, hsame, hstays⟩
    · -- the name is judged while the sender is there, by the limit that waited
      have hnow : TakenIn c n (past ++ [e]) :=
        (takenIn_concat_iff c n past e).2 (.inr ⟨hopen, hjudged⟩)
      rw [Registry.limit_poll, hpending] at hpoll
      exact .taken hnow hpoll hnone
    · -- the sender goes with this event, which judges no name
      have hstill : ¬ TakenIn c n (past ++ [.dropFeed]) := not_takenIn_concat hnot (.inr rfl)
      have hgone : .dropFeed ∈ past ++ [Event.dropFeed] :=
        List.mem_append_right past List.mem_cons_self
      exact .lost hstill hgone (hsame.trans hlimit) hnone
    · have hstill : ¬ TakenIn c n (past ++ [e]) := not_takenIn_concat hnot (.inr hunjudged)
      have hstillOpen : .dropFeed ∉ past ++ [e] := by
        rw [List.mem_append, List.mem_singleton]
        exact not_or.2 ⟨hopen, Ne.symm hne⟩
      exact .waiting hstill hstillOpen (hsame.trans hlimit) (hstays.trans hpending)

/-- What becomes of a value that waits, in a run that leaves it to itself. -/
theorem of_run (h : n.registry.pending? = some value) {events : List Event}
    (hevents : ∀ e ∈ events, e.leavesLimit = true) :
    Fate c n value events (Namer.run c n events).1 := by
  have hstart : Fate c n value [] n := by
    refine .waiting ?_ List.not_mem_nil rfl h
    rintro ⟨first, e, rest, hsplit, -, -⟩
    simp at hsplit
  exact run_history (Namer.step c) hstart fun past e he hpast => hpast.step (hevents e he)

end Fate

/-! ## The limit by which a name is judged -/

/-- The last value on a feed that started with another: nothing happened since, or it was published
just now, by a sender that is still there. -/
inductive LastOnFeed (first : Option Nat) : List Event → Option Nat → Prop
  | start : LastOnFeed first [] first
  | published (init : List Event) (value : Option Nat) (h : .dropFeed ∉ init) :
    LastOnFeed first (init ++ [.publish value]) value

theorem LastOnFeed.pending? {first value : Option Nat} {before : List Event}
    (h : LastOnFeed first before value) (c : NamingConfig) {n : Namer}
    (hfeed : n.registry.feed = some { latest := first }) :
    (run c n before).1.registry.pending? = some value := by
  cases h with
  | start =>
    have hpending : n.registry.pending? = some first := by
      rw [Registry.pending?, hfeed]
      rfl
    exact hpending
  | published init _ hopen =>
    have hsender : (run c n init).1.registry.HasSender :=
      hasSender_run c ⟨{ latest := first }, hfeed, rfl⟩ hopen
    have hrun : (run c n (init ++ [.publish value])).1 =
        (step c (run c n init).1 (.publish value)).1 := run_concat_fst (step c) n init _
    rw [hrun, registry_step]
    exact hsender.pending?_send value

/-- A name is judged by what waits, if anything does. -/
theorem limit_of_judgement? {c : NamingConfig} {n : Namer} {e : Event} {j : Judgement}
    (h : n.judgement? c e = some j) : j.limit = n.registry.poll.limit := by
  obtain ⟨r, rfl⟩ := exists_request_of_judgement? h
  obtain ⟨s, -, rfl⟩ := Option.map_eq_some_iff.1 h
  rfl

/-- The limit by which a name was judged is in force afterwards. -/
theorem limit_step_of_judgement? {c : NamingConfig} {n : Namer} {e : Event} {j : Judgement}
    (h : n.judgement? c e = some j) : (step c n e).1.registry.limit = j.limit := by
  rw [registry_step, h, limit_of_judgement? h]
  exact n.registry.limit_report j.name

/-- Of a namer that follows a feed, the limit that was published last and not reset since is the one
by which a name is judged, however many were published before and whether or not the namer looked
meanwhile, as long as the sender is there, or if a name was judged before it went. Of a sender that
went before any name was judged, the last limit is lost, and the one from before stays in force. -/
theorem run_limit_of_published (c : NamingConfig) (n : Namer) {first value : Option Nat}
    (hfeed : n.registry.feed = some { latest := first }) {before since : List Event}
    (hlast : LastOnFeed first before value) (hsince : ∀ e ∈ since, e.leavesLimit = true) :
    let published := (run c n before).1
    let called := (run c published since).1
    ∀ e j, called.judgement? c e = some j →
      j.Lawful ∧ (step c called e).1.registry.limit = j.limit ∧
      (.dropFeed ∉ since → j.limit = value.getD Registry.standardLimit) ∧
      (TakenIn c published since → j.limit = value.getD Registry.standardLimit) ∧
      (.dropFeed ∈ since → ¬ TakenIn c published since → j.limit = published.registry.limit) := by
  intro published called e j hj
  have hlimit : j.limit = called.registry.poll.limit := limit_of_judgement? hj
  rw [Registry.limit_poll] at hlimit
  refine ⟨(lawful_judgement? hj).2.1, limit_step_of_judgement? hj, ?_⟩
  cases Fate.of_run (hlast.pending? c hfeed) hsince with
  | taken htaken hvalue hpending =>
    rw [hpending] at hlimit
    have hj : j.limit = value.getD Registry.standardLimit := hlimit.trans hvalue
    exact ⟨fun _ => hj, fun _ => hj, fun _ hnot => absurd htaken hnot⟩
  | lost hnot hdropped hold hpending =>
    rw [hpending] at hlimit
    have hj : j.limit = published.registry.limit := hlimit.trans hold
    exact ⟨fun hopen => absurd hdropped hopen, fun htaken => absurd htaken hnot, fun _ _ => hj⟩
  | waiting hnot hopen hold hpending =>
    rw [hpending] at hlimit
    exact ⟨fun _ => hlimit, fun _ => hlimit, fun hdropped => absurd hdropped hopen⟩

/-- The limit is lowered to three and then to one. A name is judged, the sender goes, and the limit
of one is still in force when the next name is judged. -/
theorem run_limit_of_published_dropped :
    let n := following (some 5)
    let before := [Event.name (spanNamed "one"), .publish (some 3), .publish (some 1)]
    let since := [Event.name (spanNamed "two"), .dropFeed, .clear, .name (spanNamed "three")]
    let published := (run {} n before).1
    let called := (run {} published since).1
    n.registry.feed = some { latest := some 5 } ∧ LastOnFeed (some 5) before (some 1) ∧
      (∀ e ∈ since, e.leavesLimit = true) ∧ TakenIn {} published since ∧
      ∃ j, called.judgement? {} (.name (spanNamed "four")) = some j ∧ j.limit = 1 ∧
        j.answer = overLimitName ∧
        (step {} called (.name (spanNamed "four"))).1.registry.limit = 1 := by
  intro n before since published called
  have hlast : LastOnFeed (some 5) before (some 1) :=
    .published [.name (spanNamed "one"), .publish (some 3)] (some 1) (by simp)
  have hsince : ∀ e ∈ since, e.leavesLimit = true := by simp [since, Event.leavesLimit]
  have htaken : TakenIn {} published since :=
    ⟨[], .name (spanNamed "two"), [.dropFeed, .clear, .name (spanNamed "three")], rfl, by simp,
      by decide +kernel⟩
  have hjudged : (called.judgement? {} (.name (spanNamed "four"))).map (·.answer) =
      some overLimitName := by decide +kernel
  obtain ⟨j, hj, hanswer⟩ := Option.map_eq_some_iff.1 hjudged
  obtain ⟨-, hkept, -, hinForce, -⟩ := run_limit_of_published {} n rfl hlast hsince _ j hj
  have hlimit : j.limit = 1 := hinForce htaken
  exact ⟨rfl, hlast, hsince, htaken, j, hj, hlimit, hanswer, hkept.trans hlimit⟩

/-- A limit of one is published by a sender that goes right after. The next names are judged by the
limit from before, so two of them are let through. -/
theorem lost_limit_of_published :
    let before := [Event.publish (some 1)]
    let since := [Event.dropFeed]
    let called := (run {} (run {} (following none) before).1 since).1
    LastOnFeed none before (some 1) ∧ (∀ e ∈ since, e.leavesLimit = true) ∧
      (run {} called [.name (spanNamed "a"), .name (spanNamed "b")]).2 = [.name "a", .name "b"] ∧
      ¬ ∀ e j, called.judgement? {} e = some j →
        j.limit = (some 1).getD Registry.standardLimit := by
  intro before since called
  refine ⟨.published [] (some 1) (by simp), by simp [since, Event.leavesLimit],
    by decide +kernel, ?_⟩
  intro hinForce
  have hjudged : (called.judgement? {} (.name (spanNamed "a"))).map (·.limit) = some 200 := by
    decide +kernel
  obtain ⟨j, hj, hlimit⟩ := Option.map_eq_some_iff.1 hjudged
  have hone : j.limit = 1 := hinForce _ j hj
  omega

end Namer

end TraceSampler.Transaction
