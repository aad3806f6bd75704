import Mathlib.Algebra.Order.Field.Rat
import Mathlib.Tactic.Linarith
import Mathlib.Tactic.Positivity
import Mathlib.Tactic.Ring
import TraceSampler.Proofs.Quota.Decide
import TraceSampler.Proofs.Records

/-!
# The draws on a bucket

Every selected request draws on the bucket of its kind. Here the draws of a run are listed, with
what the settings in force said of the bucket, the bucket before and after, and whether the request
was let through. Tokens are counted exactly.

The account of a single draw is `Draw.Lawful`: the tokens at hand are those that the draw before
left and those that flowed in since, as far as they fit, and one of them is taken if there is a
whole one. `Follows` says that a list of draws keeps the account from each draw to the next.

* `lawful_drawUnder`: every draw keeps the account.
* `follows_draws`: the draws of a run follow each other.
* `countP_letThrough`: the requests that a run lets through are the draws that passed.
-/

namespace TraceSampler.Quota

/-! ## Exact tokens -/

/-- Tokens counted exactly. -/
instance : Amount ℚ where
  zero := 0
  add := (· + ·)
  mul := (· * ·)
  lesser := min
  takeOne? x := if 1 ≤ x then some (x - 1) else none
  seconds nanoseconds := nanoseconds / Amount.nanosPerSecond

/-- The time from one instant to another, in seconds. -/
def secondsBetween (start finish : Instant) : ℚ := (finish - start : Int) / Amount.nanosPerSecond

@[simp] theorem secondsBetween_self (t : Instant) : secondsBetween t t = 0 := by
  simp [secondsBetween]

theorem secondsBetween_add (r s t : Instant) :
    secondsBetween r s + secondsBetween s t = secondsBetween r t := by
  simp only [secondsBetween, Int.cast_sub]
  ring

theorem secondsBetween_nonneg {s t : Instant} (h : s ≤ t) : 0 ≤ secondsBetween s t := by
  have hsub : (0 : ℚ) ≤ (t - s : Int) := by exact_mod_cast Int.sub_nonneg.2 h
  rw [secondsBetween]
  positivity

/-- While the clock does not go backwards, no time is lost. -/
theorem seconds_elapsed {s t : Instant} (h : s ≤ t) :
    Amount.seconds (elapsed s t) = secondsBetween s t := by
  have hcast : ((elapsed s t : Nat) : ℚ) = (t - s : Int) := by
    have hnat : ((elapsed s t : Nat) : Int) = t - s := Int.toNat_of_nonneg (Int.sub_nonneg.2 h)
    rw [← hnat, Int.cast_natCast]
  rw [secondsBetween, ← hcast]
  rfl

/-! ## Draws -/

/-- A selected request at the bucket of its kind. -/
structure Draw where
  time : Instant
  /-- The capacity and the rate of the bucket under the settings in force. -/
  capacity : ℚ
  rate : ℚ
  /-- The bucket before the draw; there is none before the first use. -/
  before : Option (Bucket ℚ)
  after : Option (Bucket ℚ)
  passed : Bool

namespace Draw

/-- The tokens that the request finds: a full bucket at the first use, and later those that were
left and those that flowed in since, as far as they fit. -/
def atHand (d : Draw) : ℚ :=
  match d.before with
  | none => d.capacity
  | some b => min (b.tokens + d.rate * secondsBetween b.updatedAt d.time) d.capacity

/-- The tokens that the draw leaves. -/
def left (d : Draw) : ℚ := if d.passed then d.atHand - 1 else d.atHand

/-- The account of a draw. -/
structure Lawful (d : Draw) : Prop where
  capacity_nonneg : 0 ≤ d.capacity
  rate_nonneg : 0 ≤ d.rate
  before_tokens : ∀ b ∈ d.before, 0 ≤ b.tokens
  before_updatedAt : ∀ b ∈ d.before, b.updatedAt ≤ d.time
  passed_iff : d.passed = true ↔ 1 ≤ d.atHand
  after_eq : d.after = some ⟨d.left, d.time⟩

theorem atHand_le_capacity (d : Draw) : d.atHand ≤ d.capacity := by
  rw [atHand]
  split
  · exact le_refl _
  · exact min_le_right _ _

theorem Lawful.atHand_nonneg {d : Draw} (h : d.Lawful) : 0 ≤ d.atHand := by
  rw [atHand]
  split
  · exact h.capacity_nonneg
  · next b hb =>
    have htokens : 0 ≤ b.tokens := h.before_tokens b hb
    have htime : 0 ≤ secondsBetween b.updatedAt d.time :=
      secondsBetween_nonneg (h.before_updatedAt b hb)
    have hinflow : 0 ≤ d.rate * secondsBetween b.updatedAt d.time :=
      mul_nonneg h.rate_nonneg htime
    exact le_min (by linarith) h.capacity_nonneg

theorem left_le_atHand (d : Draw) : d.left ≤ d.atHand := by
  rw [left]
  split
  · linarith
  · exact le_refl _

theorem Lawful.left_nonneg {d : Draw} (h : d.Lawful) : 0 ≤ d.left := by
  rw [left]
  split
  · next hpassed =>
    have hone : 1 ≤ d.atHand := h.passed_iff.1 hpassed
    linarith
  · exact h.atHand_nonneg

end Draw

/-- Every draw is lawful and takes up the bucket as the one before it left it. -/
def Follows : Option (Bucket ℚ) → List Draw → Option (Bucket ℚ) → Prop :=
  Linked Draw.Lawful Draw.before Draw.after

/-! ## The draws of a run -/

/-- The settings promise no negative capacity and no negative rate. -/
def Settings.Nonnegative (s : Settings ℚ) : Prop :=
  ∀ k, ∀ b ∈ s.buckets.get k, 0 ≤ b.capacity ∧ 0 ≤ b.rate

namespace Ledger

/-- A request that draws on the bucket was let through. -/
def letThrough (k : BucketKind) : Option (Except VerdictError (Verdict ℚ)) → Bool
  | some (.ok v) => v.sampled && v.kind.bucket = k
  | _ => false

/-- The draw on a bucket that an event makes, if it is a selected request of the bucket's kind. -/
def drawOf? (p : Policy) (k : BucketKind) (l : Ledger ℚ) : Event ℚ → Option Draw
  | .ask a =>
    if (kindOf a).bucket = k then
      (l.selection? p a).map fun c =>
        { time := l.now, capacity := c.capacity k, rate := c.rate k, before := l.buckets.get k
          after := (step p l (.ask a)).1.buckets.get k
          passed := letThrough k (step p l (.ask a)).2 }
    else none
  | .publish _ | .advance _ => none

/-- The draws on a bucket in a run, in their order. -/
def draws (p : Policy) (k : BucketKind) (l : Ledger ℚ) (events : List (Event ℚ)) : List Draw :=
  records (step p) (drawOf? p k) l events

/-! ## What the ledger keeps -/

/-- The ledger keeps no negative number of tokens, and no bucket comes from the future. -/
structure Sound (k : BucketKind) (l : Ledger ℚ) : Prop where
  tokens : ∀ b ∈ l.buckets.get k, 0 ≤ b.tokens
  updatedAt : ∀ b ∈ l.buckets.get k, b.updatedAt ≤ l.now
  settings : ∀ s ∈ l.settings, s.Nonnegative

/-- The configuration of a selected request promises nothing negative either. -/
theorem Sound.selection?_nonneg {p : Policy} {k : BucketKind} {l : Ledger ℚ} (h : Sound k l)
    {a : Ask} {c : TraceConfig ℚ} (hc : l.selection? p a = some c) :
    0 ≤ c.capacity k ∧ 0 ≤ c.rate k := by
  obtain ⟨hconfig, -, -⟩ := selection?_eq_some_iff.1 hc
  obtain ⟨s, hs, rfl⟩ := Option.map_eq_some_iff.1 hconfig
  have hsettings : l.settings = some s := (Option.filter_eq_some_iff.1 hs).1
  have hbuckets : (narrowed p s a.signals).buckets = s.buckets := rfl
  rw [TraceConfig.capacity, TraceConfig.rate, hbuckets]
  cases hb : s.buckets.get k with
  | none => exact ⟨le_refl (0 : ℚ), le_refl (0 : ℚ)⟩
  | some b => exact h.settings s hsettings k b hb

/-! ## The account of a draw -/

/-- A draw takes one token, if there is a whole one. -/
theorem draw_eq (b : Bucket ℚ) (capacity rate : ℚ) (now : Instant) :
    b.draw capacity rate now =
      if 1 ≤ b.refilled capacity rate now then (⟨b.refilled capacity rate now - 1, now⟩, true)
      else (⟨b.refilled capacity rate now, now⟩, false) := by
  have htake : Amount.takeOne? (b.refilled capacity rate now) =
      if 1 ≤ b.refilled capacity rate now then some (b.refilled capacity rate now - 1)
      else none := rfl
  rw [Bucket.draw, htake]
  by_cases h : 1 ≤ b.refilled capacity rate now
  · simp only [if_pos h]
  · simp only [if_neg h]

/-- What is found in a bucket is what was left there, what flowed in since, as far as it fits. -/
theorem refilled_eq {b : Bucket ℚ} {now : Instant} (h : b.updatedAt ≤ now) (capacity rate : ℚ) :
    b.refilled capacity rate now =
      min (b.tokens + rate * secondsBetween b.updatedAt now) capacity := by
  rw [← seconds_elapsed h, mul_comm]
  rfl

/-- A full bucket stays full. -/
theorem refilled_full (capacity rate : ℚ) (now : Instant) :
    (Bucket.full capacity now).refilled capacity rate now = capacity := by
  rw [refilled_eq (le_refl now)]
  simp [Bucket.full]

/-- The draw of a request that is selected under a configuration. -/
def drawUnder (l : Ledger ℚ) (c : TraceConfig ℚ) (k : BucketKind) : Draw where
  time := l.now
  capacity := c.capacity k
  rate := c.rate k
  before := l.buckets.get k
  after := some (l.drawn c k).1
  passed := (l.drawn c k).2

/-- Only a selected request of the bucket's kind makes a draw. -/
theorem drawOf?_ask_eq_some {p : Policy} {k : BucketKind} {l : Ledger ℚ} {a : Ask} {d : Draw}
    (h : l.drawOf? p k (.ask a) = some d) :
    ∃ c, (kindOf a).bucket = k ∧ l.selection? p a = some c ∧ d = l.drawUnder c k := by
  rw [drawOf?] at h
  split at h
  · next hk =>
    obtain ⟨c, hc, rfl⟩ := Option.map_eq_some_iff.1 h
    subst hk
    refine ⟨c, rfl, hc, ?_⟩
    simp [step, decide_of_selection?_eq_some hc, letThrough, get_takeToken_self, drawUnder]
  · simp at h

/-- A bucket is found with the tokens at hand, and one of them is taken if there is a whole one. -/
theorem drawn_eq {k : BucketKind} {l : Ledger ℚ} (hl : Sound k l) (c : TraceConfig ℚ) :
    l.drawn c k =
      if 1 ≤ (l.drawUnder c k).atHand then (⟨(l.drawUnder c k).atHand - 1, l.now⟩, true)
      else (⟨(l.drawUnder c k).atHand, l.now⟩, false) := by
  have hfound : (l.found c k).refilled (c.capacity k) (c.rate k) l.now =
      (l.drawUnder c k).atHand := by
    cases hb : l.buckets.get k with
    | none => simp [found, Draw.atHand, drawUnder, hb, refilled_full]
    | some b => simp [found, Draw.atHand, drawUnder, hb, refilled_eq (hl.updatedAt b hb)]
  rw [drawn, draw_eq, hfound]

/-- Every draw keeps the account. -/
theorem lawful_drawUnder {k : BucketKind} {l : Ledger ℚ} (hl : Sound k l) {c : TraceConfig ℚ}
    (hcapacity : 0 ≤ c.capacity k) (hrate : 0 ≤ c.rate k) : (l.drawUnder c k).Lawful := by
  have hdrawn := drawn_eq hl c
  have hpassed : (l.drawUnder c k).passed = true ↔ 1 ≤ (l.drawUnder c k).atHand := by
    have hsnd : (l.drawUnder c k).passed = (l.drawn c k).2 := rfl
    rw [hsnd, hdrawn]
    by_cases hone : 1 ≤ (l.drawUnder c k).atHand
    · simp [hone]
    · simp [hone]
  have hafter : (l.drawUnder c k).after = some ⟨(l.drawUnder c k).left, l.now⟩ := by
    have hfst : (l.drawUnder c k).after = some (l.drawn c k).1 := rfl
    rw [hfst, hdrawn, Draw.left]
    by_cases hone : 1 ≤ (l.drawUnder c k).atHand
    · simp [hone, hpassed]
    · simp [hone, hpassed]
  exact ⟨hcapacity, hrate, hl.tokens, hl.updatedAt, hpassed, hafter⟩

/-- What a draw is to the ledger that it happens in. -/
theorem drawOf?_spec {p : Policy} {k : BucketKind} {l : Ledger ℚ} (hl : Sound k l) {e : Event ℚ}
    {d : Draw} (h : l.drawOf? p k e = some d) :
    d.Lawful ∧ d.time = l.now ∧ d.before = l.buckets.get k ∧
      d.after = (step p l e).1.buckets.get k := by
  cases e with
  | publish settings => simp [drawOf?] at h
  | advance ns => simp [drawOf?] at h
  | ask a =>
    obtain ⟨c, rfl, hc, rfl⟩ := drawOf?_ask_eq_some h
    obtain ⟨hcapacity, hrate⟩ := hl.selection?_nonneg hc
    refine ⟨lawful_drawUnder hl hcapacity hrate, rfl, rfl, ?_⟩
    simp [step, decide_of_selection?_eq_some hc, get_takeToken_self, drawUnder]

/-- An event that makes no draw leaves the bucket as it is. -/
theorem get_step_of_drawOf?_eq_none {p : Policy} {k : BucketKind} {l : Ledger ℚ} {e : Event ℚ}
    (h : l.drawOf? p k e = none) : (step p l e).1.buckets.get k = l.buckets.get k := by
  cases e with
  | publish settings => rfl
  | advance ns => rfl
  | ask a =>
    by_cases hk : (kindOf a).bucket = k
    · have hnone : l.selection? p a = none := by simpa [drawOf?, hk] using h
      simp [step, decide_of_selection?_eq_none hnone]
    · exact get_decide_of_ne p l (Ne.symm hk)

/-! ## Runs -/

/-- No event makes the clock go back, and only a publication changes the settings. -/
theorem now_le_step (p : Policy) (l : Ledger ℚ) (e : Event ℚ) : l.now ≤ (step p l e).1.now := by
  cases e with
  | publish settings => exact le_refl l.now
  | advance ns => exact Int.le_add_of_nonneg_right (Int.natCast_nonneg ns)
  | ask a => exact (now_decide p l a).ge

/-- Every event keeps the ledger sound. -/
theorem sound_step {p : Policy} {k : BucketKind} {l : Ledger ℚ} {e : Event ℚ}
    (he : ∀ s, e = .publish (some s) → s.Nonnegative) (hl : Sound k l) :
    Sound k (step p l e).1 := by
  have hsettings : ∀ s ∈ (step p l e).1.settings, s.Nonnegative := by
    cases e with
    | publish settings =>
      intro s hs
      obtain rfl : settings = some s := hs
      exact he s rfl
    | advance ns => exact hl.settings
    | ask a => simpa [step] using hl.settings
  cases hd : l.drawOf? p k e with
  | none =>
    have hsame := get_step_of_drawOf?_eq_none hd
    constructor
    · rw [hsame]
      exact hl.tokens
    · rw [hsame]
      exact fun b hb => (hl.updatedAt b hb).trans (now_le_step p l e)
    · exact hsettings
  | some d =>
    obtain ⟨hlawful, htime, -, hafter⟩ := drawOf?_spec hl hd
    have hbucket : (step p l e).1.buckets.get k = some ⟨d.left, d.time⟩ :=
      hafter.symm.trans hlawful.after_eq
    constructor
    · simpa [hbucket] using hlawful.left_nonneg
    · simpa [hbucket, htime] using now_le_step p l e
    · exact hsettings

/-- The draws of a run follow each other. -/
theorem follows_draws {p : Policy} {k : BucketKind} {l : Ledger ℚ} (hl : Sound k l)
    {events : List (Event ℚ)}
    (hevents : ∀ s, Event.publish (some s) ∈ events → s.Nonnegative) :
    Follows (l.buckets.get k) (draws p k l events) ((run p l events).1.buckets.get k) := by
  refine linked_records (fun l => l.buckets.get k) (Sound k) ?_ ?_ ?_ hl
  · intro l e he hl
    exact sound_step (fun s hs => hevents s (hs ▸ he)) hl
  · intro l e _ hl d hd
    obtain ⟨hlawful, -, hbefore, hafter⟩ := drawOf?_spec hl hd
    exact ⟨hbefore, hlawful, hafter⟩
  · intro l e _ _ hd
    exact get_step_of_drawOf?_eq_none hd

/-- A request that is let through makes a draw that passes, and no other event does. -/
theorem countP_drawOf? (p : Policy) (k : BucketKind) (l : Ledger ℚ) (e : Event ℚ) :
    (l.drawOf? p k e).toList.countP Draw.passed =
      if letThrough k (step p l e).2 then 1 else 0 := by
  cases e with
  | publish settings => rfl
  | advance ns => rfl
  | ask a =>
    cases hselection : l.selection? p a with
    | none =>
      -- no verdict on a request that is not selected says that it is sampled
      have hanswer : letThrough k (step p l (.ask a)).2 = false := by
        cases hdecide : (l.decide p a).2 with
        | error err => simp [step, letThrough, hdecide]
        | ok v =>
          simp [step, letThrough, hdecide, (verdict_of_selection?_eq_none hselection hdecide).1]
      simp [drawOf?, hselection, hanswer]
    | some c =>
      by_cases hk : (kindOf a).bucket = k
      · simp [drawOf?, hk, hselection, List.countP_cons]
      · simp [drawOf?, hk, step, letThrough, decide_of_selection?_eq_some hselection]

/-- The requests that a run lets through are the draws that passed. -/
theorem countP_letThrough (p : Policy) (k : BucketKind) (l : Ledger ℚ) (events : List (Event ℚ)) :
    (run p l events).2.countP (letThrough k) = (draws p k l events).countP Draw.passed := by
  induction events generalizing l with
  | nil => rfl
  | cons e r ih =>
    rw [run, run_cons, List.countP_cons, draws, records_cons, List.countP_append, countP_drawOf?,
      ← draws, ← ih, run]
    exact Nat.add_comm _ _

end Ledger

end TraceSampler.Quota
