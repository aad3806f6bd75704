import Mathlib.Algebra.Order.Floor.Semiring
import Mathlib.Data.Rat.Floor
import TraceSampler.Proofs.Quota.Draws

/-!
# The rate of a bucket

How many requests a bucket lets through, over any run, however the settings change meanwhile. The
accounting is about lists of draws that follow each other: a draw passes on what it found, less the
token it took, and what the next draw finds is that and the inflow, or less.

* `passed_le`: what passes in a stretch of draws is paid for by what the first one found and by
  what flowed in.
* `filter_within_isInfix`: the draws within a time window are such a stretch.
* `passed_at_once`: without inflow, exactly the whole tokens at hand are spent.
* `run_rateBound`: the bounds for every run and every bucket.
-/

namespace TraceSampler.Quota

/-- The tokens that flow in from the first of some draws to the last, if none is lost: at each draw
the rate in force there, for the time since the draw before. -/
def inflow : List Draw → ℚ
  | d :: e :: ds => e.rate * secondsBetween d.time e.time + inflow (e :: ds)
  | _ => 0

namespace Follows

variable {b last : Option (Bucket ℚ)} {d e : Draw} {ds : List Draw}

/-! ## From one draw to the next -/

theorem before_eq_some (h : Follows b (d :: e :: ds) last) : e.before = some ⟨d.left, d.time⟩ := by
  obtain ⟨-, hd, hbefore, -⟩ := h
  exact hbefore.trans hd.after_eq

theorem time_le (h : Follows b (d :: e :: ds) last) : d.time ≤ e.time := by
  have he : e.Lawful := h.lawful (by simp)
  exact he.before_updatedAt _ h.before_eq_some

theorem atHand_next (h : Follows b (d :: e :: ds) last) :
    e.atHand = min (d.left + e.rate * secondsBetween d.time e.time) e.capacity := by
  rw [Draw.atHand, h.before_eq_some]

/-- The draws stand in the order of their times. -/
theorem sorted (h : Follows b ds last) : ds.Pairwise (·.time ≤ ·.time) := by
  induction ds generalizing b with
  | nil => exact List.Pairwise.nil
  | cons d ds ih =>
    have hds : ds.Pairwise (·.time ≤ ·.time) := ih h.2.2
    refine List.Pairwise.cons ?_ hds
    cases ds with
    | nil => simp
    | cons e ds =>
      intro x hx
      rcases List.mem_cons.1 hx with rfl | hx
      · exact h.time_le
      · exact h.time_le.trans (List.rel_of_pairwise_cons hds hx)

/-! ## The account of a stretch -/

/-- What passes in a stretch of draws is paid for by the tokens that the first one finds and by
what flows in from there on. -/
theorem passed_le (h : Follows b (d :: ds) last) :
    ((d :: ds).countP Draw.passed : ℚ) ≤ d.atHand + inflow (d :: ds) := by
  -- a draw pays for itself and hands the rest on
  have hpay : ∀ x : Draw, ((if x.passed then 1 else 0 : ℕ) : ℚ) = x.atHand - x.left := by
    intro x
    rw [Draw.left]
    cases x.passed <;> simp
  induction ds generalizing b d with
  | nil =>
    have hleft : 0 ≤ d.left := (h.lawful (by simp)).left_nonneg
    simp only [List.countP_singleton, hpay, inflow]
    linarith
  | cons e ds ih =>
    have hrest : ((e :: ds).countP Draw.passed : ℚ) ≤ e.atHand + inflow (e :: ds) := ih h.2.2
    have hnext : e.atHand ≤ d.left + e.rate * secondsBetween d.time e.time := by
      rw [h.atHand_next]
      exact min_le_left _ _
    rw [List.countP_cons, Nat.cast_add, hpay, inflow]
    linarith

/-- At a steady rate no more flows in than the rate allows for the whole time. -/
theorem inflow_le (h : Follows b (d :: ds) last) {rate : ℚ} (hrate : 0 ≤ rate)
    (hall : ∀ x ∈ d :: ds, x.rate = rate) {t : Instant} (ht : ∀ x ∈ d :: ds, x.time ≤ t) :
    inflow (d :: ds) ≤ rate * secondsBetween d.time t := by
  induction ds generalizing b d with
  | nil => exact mul_nonneg hrate (secondsBetween_nonneg (ht d (by simp)))
  | cons e ds ih =>
    have hrest : inflow (e :: ds) ≤ rate * secondsBetween e.time t :=
      ih h.2.2 (fun x hx => hall x (List.mem_cons_of_mem d hx))
        fun x hx => ht x (List.mem_cons_of_mem d hx)
    have hsplit := secondsBetween_add d.time e.time t
    rw [inflow, hall e (by simp), ← hsplit, mul_add]
    linarith

/-- While capacity and rate stay the same, a stretch of draws between two instants lets no more
through than a full bucket holds and the time in between brings. -/
theorem passed_le_of_constant (h : Follows b ds last) {s t : Instant} (hst : s ≤ t)
    {capacity rate : ℚ} (hcapacity : 0 ≤ capacity) (hrate : 0 ≤ rate)
    (hall : ∀ x ∈ ds, x.capacity = capacity ∧ x.rate = rate)
    (htimes : ∀ x ∈ ds, s ≤ x.time ∧ x.time ≤ t) :
    (ds.countP Draw.passed : ℚ) ≤ capacity + rate * secondsBetween s t := by
  cases ds with
  | nil =>
    have hinflow : 0 ≤ rate * secondsBetween s t := mul_nonneg hrate (secondsBetween_nonneg hst)
    simpa using add_nonneg hcapacity hinflow
  | cons d ds =>
    have hd : d ∈ d :: ds := List.mem_cons_self
    have hpassed := h.passed_le
    have hfull : d.atHand ≤ capacity := (hall d hd).1 ▸ d.atHand_le_capacity
    have hinflow : inflow (d :: ds) ≤ rate * secondsBetween d.time t :=
      h.inflow_le hrate (fun x hx => (hall x hx).2) fun x hx => (htimes x hx).2
    -- the window may open before the first draw in it
    have hsplit := secondsBetween_add s d.time t
    have hearly : 0 ≤ rate * secondsBetween s d.time :=
      mul_nonneg hrate (secondsBetween_nonneg (htimes d hd).1)
    rw [← hsplit, mul_add]
    linarith

/-- At one instant and one capacity, exactly the whole tokens at hand are spent, as far as there
are requests for them. -/
theorem passed_at_once (h : Follows b (d :: ds) last) {t : Instant} {capacity : ℚ}
    (hall : ∀ x ∈ d :: ds, x.time = t ∧ x.capacity = capacity) :
    (d :: ds).countP Draw.passed = min (d :: ds).length ⌊d.atHand⌋₊ := by
  induction ds generalizing b d with
  | nil =>
    have hpassed : d.passed = true ↔ 1 ≤ d.atHand := (h.lawful (by simp)).passed_iff
    by_cases hone : 1 ≤ d.atHand
    · have hfloor : 1 ≤ ⌊d.atHand⌋₊ := Nat.le_floor (by simpa using hone)
      simp [hpassed.2 hone, hfloor]
    · have hfloor : ⌊d.atHand⌋₊ = 0 := Nat.floor_eq_zero.2 (not_le.1 hone)
      simp [mt hpassed.1 hone, hfloor]
  | cons e ds ih =>
    have hrest : (e :: ds).countP Draw.passed = min (e :: ds).length ⌊e.atHand⌋₊ :=
      ih h.2.2 fun x hx => hall x (List.mem_cons_of_mem d hx)
    have hd := hall d (by simp)
    have he := hall e (by simp)
    have hleft : d.left ≤ e.capacity := by
      rw [he.2, ← hd.2]
      exact d.left_le_atHand.trans d.atHand_le_capacity
    have hnext : e.atHand = d.left := by
      rw [h.atHand_next, hd.1, he.1, secondsBetween_self, mul_zero, add_zero, min_eq_left hleft]
    have hpassed : d.passed = true ↔ 1 ≤ d.atHand := (h.lawful (by simp)).passed_iff
    rw [List.countP_cons, hrest, hnext, List.length_cons (a := d), Draw.left]
    by_cases hone : 1 ≤ d.atHand
    · have hfloor : ⌊d.atHand⌋₊ = ⌊d.atHand - 1⌋₊ + 1 := by
        rw [← Nat.floor_add_one (by linarith), sub_add_cancel]
      simp only [hpassed.2 hone, if_true, hfloor]
      omega
    · have hfloor : ⌊d.atHand⌋₊ = 0 := Nat.floor_eq_zero.2 (not_le.1 hone)
      simp [mt hpassed.1 hone, hfloor]

end Follows

/-! ## Time windows -/

/-- The draw falls within a time window, its ends included. -/
def Draw.within (s t : Instant) (d : Draw) : Bool := s ≤ d.time && d.time ≤ t

/-- The draws that are not over by a time stand first. -/
theorem filter_le_isPrefix {ds : List Draw} (h : ds.Pairwise (·.time ≤ ·.time)) (t : Instant) :
    ds.filter (fun d => d.time ≤ t) <+: ds := by
  induction ds with
  | nil => exact List.prefix_refl []
  | cons d ds ih =>
    by_cases hd : d.time ≤ t
    · rw [List.filter_cons_of_pos (by simpa using hd)]
      exact List.cons_prefix_cons.2 ⟨rfl, ih h.of_cons⟩
    · -- the draws behind are later still
      have hnone : (d :: ds).filter (fun x => x.time ≤ t) = [] := by
        refine List.filter_eq_nil_iff.2 fun x hx hxt => hd ?_
        rcases List.mem_cons.1 hx with rfl | hx
        · simpa using hxt
        · exact (List.rel_of_pairwise_cons h hx).trans (by simpa using hxt)
      rw [hnone]
      exact List.nil_prefix

/-- The draws from a time on stand last. -/
theorem filter_ge_isSuffix {ds : List Draw} (h : ds.Pairwise (·.time ≤ ·.time)) (s : Instant) :
    ds.filter (fun d => s ≤ d.time) <:+ ds := by
  induction ds with
  | nil => exact List.suffix_refl []
  | cons d ds ih =>
    by_cases hd : s ≤ d.time
    · have hall : (d :: ds).filter (fun x => s ≤ x.time) = d :: ds := by
        refine List.filter_eq_self.2 fun x hx => ?_
        rcases List.mem_cons.1 hx with rfl | hx
        · simpa using hd
        · simpa using hd.trans (List.rel_of_pairwise_cons h hx)
      rw [hall]
    · rw [List.filter_cons_of_neg (by simpa using hd)]
      exact (ih h.of_cons).trans (List.suffix_cons d ds)

/-- The draws within a time window stand together. -/
theorem filter_within_isInfix {ds : List Draw} (h : ds.Pairwise (·.time ≤ ·.time))
    (s t : Instant) : ds.filter (Draw.within s t) <:+: ds := by
  have hboth : ds.filter (Draw.within s t) =
      (ds.filter fun d => s ≤ d.time).filter fun d => d.time ≤ t := by
    rw [List.filter_filter]
    exact List.filter_congr fun d _ => by simp [Draw.within, Bool.and_comm]
  rw [hboth]
  exact (filter_le_isPrefix (h.filter _) t).isInfix.trans (filter_ge_isSuffix h s).isInfix

/-! ## The bounds -/

namespace Ledger

/-- What a bucket lets through in a run. -/
structure RateBound (p : Policy) (k : BucketKind) (l : Ledger ℚ) (events : List (Event ℚ)) :
    Prop where
  /-- Whoever is let through drew on the bucket. -/
  counted : (run p l events).2.countP (letThrough k) = (draws p k l events).countP Draw.passed
  /-- The first use finds the bucket full. What is let through from then on is at most the capacity
  at that time and, for each draw, the rate in force there for the time since the draw before. -/
  total : ∀ d ∈ (draws p k l events).head?, d.atHand = d.capacity ∧
    ((run p l events).2.countP (letThrough k) : ℚ) ≤ d.capacity + inflow (draws p k l events)
  /-- After a draw there are neither less than no tokens nor more than fit. -/
  tokens : ∀ d ∈ draws p k l events, ∃ b, d.after = some b ∧ 0 ≤ b.tokens ∧ b.tokens ≤ d.capacity
  /-- While capacity and rate are the same, every time window is bounded. -/
  window : ∀ (s t : Instant) (capacity rate : ℚ), s ≤ t → 0 ≤ capacity → 0 ≤ rate →
    (∀ d ∈ draws p k l events, s ≤ d.time → d.time ≤ t → d.capacity = capacity ∧ d.rate = rate) →
    (((draws p k l events).filter (Draw.within s t)).countP Draw.passed : ℚ) ≤
      capacity + rate * secondsBetween s t
  /-- Requests that come all at once upon a full bucket take its whole tokens. -/
  burst : ∀ (before burst after : List Draw) (t : Instant) (capacity : ℚ),
    draws p k l events = before ++ burst ++ after →
    (∀ d ∈ burst, d.time = t ∧ d.capacity = capacity) →
    (∀ d ∈ burst.head?, d.atHand = capacity) →
    burst.countP Draw.passed = min burst.length ⌊capacity⌋₊

/-- Every run keeps every bucket within its rate, whatever settings are published meanwhile. -/
theorem run_rateBound (p : Policy) (k : BucketKind) (l : Ledger ℚ) (events : List (Event ℚ))
    (hunused : l.buckets.get k = none) (hsettings : ∀ s ∈ l.settings, s.Nonnegative)
    (hevents : ∀ s, Event.publish (some s) ∈ events → s.Nonnegative) :
    RateBound p k l events := by
  have hsound : Sound k l := ⟨by simp [hunused], by simp [hunused], hsettings⟩
  obtain ⟨last, hfollows⟩ : ∃ last, Follows none (draws p k l events) last :=
    ⟨_, hunused ▸ follows_draws hsound hevents⟩
  have hcounted := countP_letThrough p k l events
  constructor
  · exact hcounted
  · rw [hcounted]
    cases hdraws : draws p k l events with
    | nil => simp
    | cons first rest =>
      rw [hdraws] at hfollows
      have hfull : first.atHand = first.capacity := by rw [Draw.atHand, hfollows.1]
      simpa [hfull] using hfollows.passed_le
  · intro d hd
    have hlawful : d.Lawful := hfollows.lawful hd
    exact ⟨_, hlawful.after_eq, hlawful.left_nonneg,
      d.left_le_atHand.trans d.atHand_le_capacity⟩
  · intro s t capacity rate hst hcapacity hrate hconstant
    obtain ⟨b, b', hwindow⟩ :
        ∃ b b', Follows b ((draws p k l events).filter (Draw.within s t)) b' :=
      hfollows.of_isInfix (filter_within_isInfix hfollows.sorted s t)
    have htimes : ∀ d ∈ (draws p k l events).filter (Draw.within s t), s ≤ d.time ∧ d.time ≤ t := by
      intro d hd
      simpa [Draw.within] using (List.mem_filter.1 hd).2
    refine hwindow.passed_le_of_constant hst hcapacity hrate ?_ htimes
    intro d hd
    exact hconstant d (List.mem_filter.1 hd).1 (htimes d hd).1 (htimes d hd).2
  · intro before burst after t capacity hsplit hall hfull
    obtain ⟨b, b', hburst⟩ : ∃ b b', Follows b burst b' :=
      hfollows.of_isInfix ⟨before, after, hsplit.symm⟩
    cases burst with
    | nil => simp
    | cons d ds => rw [hburst.passed_at_once hall, hfull d (by simp)]

/-- Settings that select every regular request. -/
def selectingAll (capacity rate : ℚ) : Settings ℚ :=
  { sampleRate := sampleResolution, buckets := ⟨some ⟨capacity, rate⟩, none, none⟩ }

theorem nonnegative_selectingAll {capacity rate : ℚ} (hcapacity : 0 ≤ capacity)
    (hrate : 0 ≤ rate) : (selectingAll capacity rate).Nonnegative := by
  intro k b hb
  cases k with
  | regular =>
    obtain rfl := Option.some.inj hb
    exact ⟨hcapacity, hrate⟩
  | relaxed => simp [selectingAll, PerBucket.get] at hb
  | strict => simp [selectingAll, PerBucket.get] at hb

/-- A bucket of two and a half tokens, at half a token a second, that is cut down later on. -/
theorem run_rateBound_cutDown :
    let l : Ledger ℚ := {}
    let ask : Event ℚ := .ask { name := "GET" }
    let events : List (Event ℚ) :=
      [.publish (some (selectingAll (5 / 2) (1 / 2))), ask, ask, ask, .advance 3000000000, ask,
        .publish (some (selectingAll (3 / 2) 1)), .advance 9000000000, ask, ask]
    l.buckets.get .regular = none ∧ (∀ s ∈ l.settings, s.Nonnegative) ∧
      (∀ s, Event.publish (some s) ∈ events → s.Nonnegative) ∧
      (draws {} .regular l events).map Draw.passed = [true, true, false, true, true, false] ∧
      RateBound {} .regular l events := by
  intro l ask events
  have hevents : ∀ s, Event.publish (some s) ∈ events → s.Nonnegative := by
    intro s hs
    have hcases : s = selectingAll (5 / 2) (1 / 2) ∨ s = selectingAll (3 / 2) 1 := by
      simpa [events, ask] using hs
    rcases hcases with rfl | rfl
    · exact nonnegative_selectingAll (by norm_num) (by norm_num)
    · exact nonnegative_selectingAll (by norm_num) (by norm_num)
  exact ⟨rfl, by simp [l], hevents, by decide +kernel,
    run_rateBound {} .regular l events rfl (by simp [l]) hevents⟩

end Ledger

end TraceSampler.Quota
