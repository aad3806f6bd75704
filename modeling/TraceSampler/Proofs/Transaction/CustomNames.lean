import TraceSampler.Proofs.ExpiringCache.Recency
import TraceSampler.Transaction.Namer

/-!
# Registered names

A name that is registered for a trace goes before all that its spans offer, and past the limit of
names. It lasts as long as the trace is named again in time: not more than twenty minutes later, and
before a thousand other traces came between. Clearing and resetting the namer, and limits that come
and go, are of no matter to it.

A run is cut at the moments at which the trace is named. A `Brief` stretch between two of them is
one that a registered name lasts through, and `InTime` says that all stretches of a run are brief.

* `customNames_step_cases`, `now_step`: what an event does to the registered names, and what time it
  is after it.
* `Holds.step`, `Holds.run`: a name lasts through a brief stretch of a run.
* `Holds.name_eq`: it is the answer then, and nothing else is touched.
* `run_customName`: a registered name is the answer as long as all stretches are brief.
-/

namespace TraceSampler.Transaction.Namer

open ExpiringCache

/-! ## Stretches of a run -/

/-- The trace that an event uses the name of: one that is named, or that gets a name registered. -/
def Event.traceId? : Event → Option TraceId
  | .name r => some r.traceId
  | .custom traceId s => if traceId = 0 ∨ s = "" then none else some traceId
  | .publish _ | .dropFeed | .clear | .reset | .advance _ => none

/-- The time that passes with an event, in nanoseconds. -/
def Event.duration : Event → Nat
  | .advance ns => ns
  | .name _ | .custom _ _ | .publish _ | .dropFeed | .clear | .reset => 0

/-- The traces that are used in a stretch of a run. -/
def usedTraces (stretch : List Event) : Finset TraceId :=
  (stretch.filterMap Event.traceId?).toFinset

/-- The time that a stretch of a run takes. -/
def timeTaken (stretch : List Event) : Nat :=
  stretch.foldr (fun e time => e.duration + time) 0

/-- A stretch that a name registered for a trace lasts through: the trace is not used meanwhile, no
more than twenty minutes pass, and fewer than a thousand other traces are used. -/
structure Brief (t : TraceId) (stretch : List Event) : Prop where
  unused : ∀ e ∈ stretch, e.traceId? ≠ some t
  inTime : timeTaken stretch ≤ 20 * 60 * 1000000000
  few : (usedTraces stretch).card < 1000

/-- A trace is named in time, again and again: the stretches of a run from each moment at which it
is named to the next are brief, and so are the first and the last. -/
inductive InTime (t : TraceId) : List Event → Prop
  | once {stretch : List Event} (h : Brief t stretch) : InTime t stretch
  | again {since stretch : List Event} {r : NameRequest} (h : InTime t since) (hr : r.traceId = t)
    (hbrief : Brief t stretch) : InTime t (since ++ .name r :: stretch)

theorem timeTaken_append (first second : List Event) :
    timeTaken (first ++ second) = timeTaken first + timeTaken second := by
  induction first with
  | nil => exact (Nat.zero_add _).symm
  | cons e r ih =>
    have hcons : ∀ rest, timeTaken (e :: rest) = e.duration + timeTaken rest := fun _ => rfl
    rw [List.cons_append, hcons, hcons, ih, Nat.add_assoc]

theorem mem_usedTraces_iff {stretch : List Event} {t : TraceId} :
    t ∈ usedTraces stretch ↔ ∃ e ∈ stretch, e.traceId? = some t := by
  rw [usedTraces, List.mem_toFinset, List.mem_filterMap]

theorem usedTraces_subset_append (first second : List Event) :
    usedTraces first ⊆ usedTraces (first ++ second) := by
  intro t ht
  rcases mem_usedTraces_iff.1 ht with ⟨e, he, htrace⟩
  exact mem_usedTraces_iff.2 ⟨e, List.mem_append_left _ he, htrace⟩

theorem Brief.not_mem_usedTraces {t : TraceId} {stretch : List Event} (h : Brief t stretch) :
    t ∉ usedTraces stretch := by
  intro hmem
  rcases mem_usedTraces_iff.1 hmem with ⟨e, he, htrace⟩
  exact h.unused e he htrace

/-! ## What an event does to registered names -/

/-- A name is derived without the registered ones. -/
theorem derive_keeps (c : NamingConfig) (n : Namer) (r : NameRequest) :
    (n.derive c r).1.now = n.now ∧ (n.derive c r).1.customNames = n.customNames := by
  have hpath : ∀ path, (n.pathName c path).1.now = n.now ∧
      (n.pathName c path).1.customNames = n.customNames := by
    intro path
    unfold pathName
    split
    · exact ⟨rfl, rfl⟩
    · exact ⟨rfl, rfl⟩
  unfold derive
  split
  · exact ⟨rfl, rfl⟩
  · next source _ =>
    cases source with
    | path path => exact hpath path
    | scheme name => exact ⟨rfl, rfl⟩
    | handler name => exact ⟨rfl, rfl⟩
    | route name => exact ⟨rfl, rfl⟩
    | span name => exact ⟨rfl, rfl⟩

/-- Of the registered names, the one of the trace is read. -/
theorem customNames_name (c : NamingConfig) (n : Namer) (r : NameRequest) :
    (n.name c r).1.customNames = (n.customNames.get r.traceId n.now).1 := by
  unfold name
  split
  · next hget => rw [hget]
  · next hget => rw [hget, (derive_keeps c _ r).2]

theorem refuses_iff {t : TraceId} {s : String} :
    (t = 0 || s.isEmpty) = true ↔ t = 0 ∨ s = "" := by
  rw [Bool.or_eq_true, decide_eq_true_iff, String.isEmpty_iff]

theorem setCustom_of_refused {n : Namer} {t : TraceId} {s : String} (h : t = 0 ∨ s = "") :
    n.setCustom t s = (n, false) := by
  rw [setCustom, if_pos (refuses_iff.2 h)]

theorem setCustom_of_accepted {n : Namer} {t : TraceId} {s : String} (h : ¬ (t = 0 ∨ s = "")) :
    n.setCustom t s =
      ({ n with customNames := n.customNames.put t (normalize s) n.now }, true) := by
  rw [setCustom, if_neg (mt refuses_iff.1 h)]

theorem now_step (c : NamingConfig) (n : Namer) (e : Event) :
    (step c n e).1.now = n.now + e.duration := by
  cases e with
  | name r =>
    have hname : (n.name c r).1.now = n.now := by
      unfold name
      split
      · rfl
      · exact (derive_keeps c _ r).1
    exact hname.trans (Int.add_zero n.now).symm
  | custom t s =>
    have hcustom : (n.setCustom t s).1.now = n.now := by
      by_cases h : t = 0 ∨ s = ""
      · rw [setCustom_of_refused h]
      · rw [setCustom_of_accepted h]
    exact hcustom.trans (Int.add_zero n.now).symm
  | publish limit => exact (Int.add_zero n.now).symm
  | dropFeed => exact (Int.add_zero n.now).symm
  | clear => exact (Int.add_zero n.now).symm
  | reset => exact (Int.add_zero n.now).symm
  | advance ns => rfl

/-- With an event that uses a trace, its name is read, or one is put in its plain form; nothing else
is done to the registered names. -/
theorem customNames_step_cases (c : NamingConfig) (n : Namer) (e : Event) :
    (∃ t, e.traceId? = some t ∧
      ((step c n e).1.customNames = (n.customNames.get t n.now).1 ∨
        ∃ s, (step c n e).1.customNames = n.customNames.put t (normalize s) n.now)) ∨
    (e.traceId? = none ∧ (step c n e).1.customNames = n.customNames) := by
  cases e with
  | name r => exact .inl ⟨r.traceId, rfl, .inl (customNames_name c n r)⟩
  | custom t s =>
    by_cases h : t = 0 ∨ s = ""
    · have hsame : (step c n (.custom t s)).1.customNames = n.customNames := by
        simp only [step, setCustom_of_refused h]
      exact .inr ⟨if_pos h, hsame⟩
    · have hput : (step c n (.custom t s)).1.customNames =
          n.customNames.put t (normalize s) n.now := by
        simp only [step, setCustom_of_accepted h]
      exact .inl ⟨t, if_neg h, .inr ⟨s, hput⟩⟩
  | publish limit => exact .inr ⟨rfl, rfl⟩
  | dropFeed => exact .inr ⟨rfl, rfl⟩
  | clear => exact .inr ⟨rfl, rfl⟩
  | reset => exact .inr ⟨rfl, rfl⟩
  | advance ns => exact .inr ⟨rfl, rfl⟩

/-- How many names are registered at most, and for how long, never changes. -/
theorem clear_customNames_step (c : NamingConfig) (n : Namer) (e : Event) :
    (step c n e).1.customNames.clear = n.customNames.clear := by
  rcases customNames_step_cases c n e with ⟨t, -, hread | ⟨s, hput⟩⟩ | ⟨-, hsame⟩
  · rw [hread, clear_get]
  · rw [hput]
    rfl
  · rw [hsame]

/-! ## Names that last -/

/-- The name registered for a trace is still there, after a stretch of a run since it was last
used. -/
structure Holds (t : TraceId) (name : String) (stretch : List Event) (n : Namer) : Prop where
  standard : n.customNames.clear = ({} : Namer).customNames.clear
  kept : KeptBehind (usedTraces stretch) ⟨t, name, n.now - timeTaken stretch⟩ n.customNames.entries

namespace Holds

variable {t : TraceId} {name : String} {stretch : List Event} {n : Namer}

theorem capacity_eq (h : Holds t name stretch n) : n.customNames.capacity = 1000 :=
  congrArg ExpiringCache.capacity h.standard

/-- A name lasts through an event that does not use its trace, while there is room. -/
theorem step (c : NamingConfig) (h : Holds t name stretch n) {e : Event}
    (he : e.traceId? ≠ some t) (hroom : (usedTraces (stretch ++ [e])).card < 1000) :
    Holds t name (stretch ++ [e]) (Namer.step c n e).1 := by
  refine ⟨(clear_customNames_step c n e).trans h.standard, ?_⟩
  -- the time that the event takes is counted on both sides
  have htouched : (Namer.step c n e).1.now - (timeTaken (stretch ++ [e]) : Int) =
      n.now - timeTaken stretch := by
    have htime : timeTaken (stretch ++ [e]) = timeTaken stretch + e.duration :=
      timeTaken_append stretch [e]
    rw [now_step, htime]
    omega
  rw [htouched]
  have hgrows : usedTraces stretch ⊆ usedTraces (stretch ++ [e]) :=
    usedTraces_subset_append stretch [e]
  rcases customNames_step_cases c n e with ⟨k, hk, hcache⟩ | ⟨-, hsame⟩
  · have hne : t ≠ k := fun heq => he (heq ▸ hk)
    have hused : k ∈ usedTraces (stretch ++ [e]) :=
      mem_usedTraces_iff.2 ⟨e, List.mem_append_right _ List.mem_cons_self, hk⟩
    rcases hcache with hread | ⟨s, hput⟩
    · rw [hread]
      exact h.kept.get_of_ne hne hgrows fun _ => hused
    · -- what is put for another trace needs room
      have hinsert : insert k (usedTraces stretch) ⊆ usedTraces (stretch ++ [e]) :=
        Finset.insert_subset hused hgrows
      have hfits : (insert k (usedTraces stretch)).card < n.customNames.capacity := by
        rw [h.capacity_eq]
        exact (Finset.card_le_card hinsert).trans_lt hroom
      rw [hput]
      exact (h.kept.put_of_ne hne hfits (normalize s)).mono hinsert
  · rw [hsame]
    exact h.kept.mono hgrows

/-- A name lasts through more of a run in which its trace is not used, while there is room. -/
theorem run (c : NamingConfig) (h : Holds t name stretch n) {more : List Event}
    (hunused : ∀ e ∈ more, e.traceId? ≠ some t)
    (hroom : (usedTraces (stretch ++ more)).card < 1000) :
    Holds t name (stretch ++ more) (Namer.run c n more).1 := by
  induction more generalizing n stretch with
  | nil =>
    rw [List.append_nil]
    exact h
  | cons e r ih =>
    have hsplit : stretch ++ e :: r = (stretch ++ [e]) ++ r := by simp
    rw [hsplit] at hroom ⊢
    have hfirst : (usedTraces (stretch ++ [e])).card < 1000 :=
      (Finset.card_le_card (usedTraces_subset_append _ r)).trans_lt hroom
    have hstep := h.step c (hunused e List.mem_cons_self) hfirst
    exact ih hstep (fun x hx => hunused x (List.mem_cons_of_mem _ hx)) hroom

/-- After a brief stretch the name is the answer, and naming touches nothing else. Its time starts
anew then. -/
theorem name_eq (c : NamingConfig) (h : Holds t name stretch n) (hbrief : Brief t stretch)
    {r : NameRequest} (hr : r.traceId = t) :
    ∃ customNames, n.name c r = ({ n with customNames }, name) ∧
      Holds t name [] { n with customNames } := by
  subst hr
  have hexpiry : n.customNames.expiry = .afterAccess := congrArg ExpiringCache.expiry h.standard
  have hlifetime : n.customNames.lifetime = 20 * 60 * 1000000000 :=
    congrArg ExpiringCache.lifetime h.standard
  have hfresh : n.customNames.isExpired ⟨r.traceId, name, n.now - timeTaken stretch⟩ n.now =
      false := by
    have hage : (n.now - (n.now - (timeTaken stretch : Int))).toNat = timeTaken stretch := by omega
    have hyoung := hbrief.inTime
    simp only [isExpired, hage, hlifetime, gt_iff_lt, decide_eq_false_iff_not, Nat.not_lt]
    exact hyoung
  obtain ⟨hvalue, hkept⟩ := h.kept.get_self hbrief.not_mem_usedTraces hfresh
  refine ⟨(n.customNames.get r.traceId n.now).1, ?_, ?_, ?_⟩
  · have hget : n.customNames.get r.traceId n.now =
        ((n.customNames.get r.traceId n.now).1, some name) := Prod.ext rfl hvalue
    unfold Namer.name
    rw [hget]
  · exact (clear_get ..).trans h.standard
  · have hnow : (n.now : Int) - (timeTaken [] : Nat) = n.now := Int.sub_zero _
    rw [hexpiry, if_pos rfl] at hkept
    rw [hnow]
    exact hkept

/-- A name lasts as long as its trace is named in time. -/
theorem inTime (c : NamingConfig) (h : Holds t name [] n) {since : List Event}
    (hsince : InTime t since) :
    ∃ stretch, Brief t stretch ∧ Holds t name stretch (Namer.run c n since).1 := by
  induction hsince with
  | @once stretch hbrief => exact ⟨stretch, hbrief, h.run c hbrief.unused hbrief.few⟩
  | @again since stretch r _ hr hbrief ih =>
    rcases ih with ⟨last, hlast, hholds⟩
    rcases hholds.name_eq c hlast hr with ⟨customNames, hname, hanew⟩
    have hstep : (Namer.step c (Namer.run c n since).1 (.name r)).1 =
        { (Namer.run c n since).1 with customNames } := by
      simp only [Namer.step, hname]
    have hrun : (Namer.run c n (since ++ .name r :: stretch)).1 =
        (Namer.run c { (Namer.run c n since).1 with customNames } stretch).1 := by
      rw [← hstep, Namer.run, run_append, run_cons]
      rfl
    rw [hrun]
    exact ⟨stretch, hbrief, hanew.run c hbrief.unused hbrief.few⟩

end Holds

/-! ## Registration -/

theorem clear_customNames_run (c : NamingConfig) (n : Namer) (events : List Event) :
    (run c n events).1.customNames.clear = n.customNames.clear := by
  have hpart := run_part (step c) (fun m => m.customNames.clear) (fun names _ => names)
    (clear_customNames_step c) n events
  rw [List.foldl_fixed] at hpart
  exact hpart

/-- A name is registered where there are a trace and a name. -/
theorem registered_iff (c : NamingConfig) (n : Namer) (t : TraceId) (s : String) :
    (step c n (.custom t s)).2 = .registered true ↔ ¬ (t = 0 ∨ s = "") := by
  by_cases hrefused : t = 0 ∨ s = ""
  · have hanswer : (step c n (.custom t s)).2 = .registered false := by
      simp only [step, setCustom_of_refused hrefused]
    rw [hanswer]
    exact iff_of_false (by decide) (not_not.2 hrefused)
  · have hanswer : (step c n (.custom t s)).2 = .registered true := by
      simp only [step, setCustom_of_accepted hrefused]
    exact iff_of_true hanswer hrefused

/-- A name that was just registered is there. -/
theorem holds_setCustom {n : Namer} {t : TraceId} {s : String}
    (hstandard : n.customNames.clear = ({} : Namer).customNames.clear) (h : ¬ (t = 0 ∨ s = "")) :
    Holds t (normalize s) [] (n.setCustom t s).1 := by
  rw [setCustom_of_accepted h]
  refine ⟨hstandard, ?_⟩
  have hcapacity : n.customNames.capacity = 1000 := congrArg ExpiringCache.capacity hstandard
  have hnow : (n.now : Int) - (timeTaken [] : Nat) = n.now := Int.sub_zero _
  have hput : KeptBehind ∅ ⟨t, normalize s, n.now⟩
      (n.customNames.put t (normalize s) n.now).entries :=
    keptBehind_put_self (by omega) (normalize s)
  rw [hnow]
  exact hput

/-- A registered name sticks, and stays off the books. Of a namer without registered names to start
with, whatever it went through, a name is registered where there are a trace and a name. From then
on, as long as the trace is named in time, the answer is that name in its plain form, whatever the
span offers and whatever else happened, and no such answer touches the names let through, whether
their limit was exceeded, the limit itself or the names kept for paths. -/
theorem run_customName (c : NamingConfig) (n : Namer)
    (hnew : n.customNames = ({} : Namer).customNames) (before since : List Event) (t : TraceId)
    (s : String) :
    let registration := step c (run c n before).1 (.custom t s)
    let found := (run c registration.1 since).1
    (registration.2 = .registered true ↔ t ≠ 0 ∧ s ≠ "") ∧
    (registration.2 = .registered true → InTime t since → ∀ r : NameRequest, r.traceId = t →
      let naming := step c found (.name r)
      naming.2 = .name (normalize s) ∧ naming.1.registry = found.registry ∧
        naming.1.pathNames = found.pathNames) := by
  intro registration found
  have hregistered : registration.2 = .registered true ↔ ¬ (t = 0 ∨ s = "") :=
    registered_iff c _ t s
  refine ⟨hregistered.trans not_or, ?_⟩
  intro hdone hsince r hr naming
  have hstandard : (run c n before).1.customNames.clear = ({} : Namer).customNames.clear := by
    rw [clear_customNames_run, hnew]
  have hholds : Holds t (normalize s) [] registration.1 :=
    holds_setCustom hstandard (hregistered.1 hdone)
  rcases hholds.inTime c hsince with ⟨stretch, hbrief, hfound⟩
  rcases hfound.name_eq c hbrief hr with ⟨customNames, hname, -⟩
  have hnaming : naming = ({ found with customNames }, .name (normalize s)) := by
    simp only [naming, found, step, hname]
  rw [hnaming]
  exact ⟨rfl, rfl, rfl⟩

/-- A name is registered anew, and used twice after twenty minutes. Meanwhile the one name that the
limit allows goes to another trace, all names are cleared, the namer is reset, the limit moves, and
somebody tries to register no name at all. -/
theorem run_customName_twice :
    let n := following (some 1)
    let request (t : TraceId) : NameRequest :=
      { traceId := t, span := "GET", attributes := .ofList [("url.path", .text "/shop/cart")] }
    let before := [Event.custom 7 "Cart", .name (request 8)]
    let first := [Event.clear, .custom 9 "Other", .name (request 8), .advance 1200000000000]
    let second := [Event.publish (some 3), .custom 7 "", .reset, .name (request 8),
      .advance 1200000000000]
    let since := first ++ .name (request 7) :: second
    let registration := step {} (run {} n before).1 (.custom 7 "Checkout")
    let found := (run {} registration.1 since).1
    let naming := step {} found (.name (request 7))
    registration.2 = .registered true ∧ InTime 7 since ∧ (request 7).traceId = 7 ∧
      found.registry.names = ["/shop/cart"] ∧ naming.2 = .name "checkout" ∧
      naming.1.registry = found.registry ∧ naming.1.pathNames = found.pathNames := by
  intro n request before first second since
  have hfirst : Brief 7 first := ⟨by decide, by decide, by decide⟩
  have hsecond : Brief 7 second := ⟨by decide, by decide, by decide⟩
  have hsince : InTime 7 since := .again (.once hfirst) rfl hsecond
  rcases run_customName {} n rfl before since 7 "Checkout" with ⟨hregistered, hsticks⟩
  have hdone := hregistered.2 ⟨by decide, by decide⟩
  rcases hsticks hdone hsince (request 7) rfl with ⟨hname, hregistry, hpaths⟩
  have hplain : normalize "Checkout" = "checkout" := by decide +kernel
  rw [hplain] at hname
  exact ⟨hdone, hsince, rfl, by decide +kernel, hname, hregistry, hpaths⟩

end TraceSampler.Transaction.Namer
