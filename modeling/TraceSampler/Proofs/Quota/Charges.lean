import TraceSampler.Proofs.Quota.Conditions
import TraceSampler.Proofs.Quota.Draws
import TraceSampler.Proofs.Request.Options

/-!
# What a request is charged

A request is charged to one bucket, by who sent it: to the relaxed one if it asks for a trace and
proves who it is, to the strict one if it asks for a trace and does not, and to the regular one
otherwise. A request that is selected leaves its bucket with what was at hand, less one token if it
is sampled. No other request leaves a trace in the ledger, and neither does one without a verdict.

The charge is said in the numbers that tokens are counted in, whichever they are: the doubles of the
running sampler or exact ones.

* `chargedTo_kindOf`: the bucket of a request.
* `charge_decide`: what a request does to the ledger.
* `charge_decide_read`: the same by the header that the options were read from.
-/

namespace TraceSampler.Quota

/-- Exact numbers count so. -/
instance : Amount.Counts ℚ where
  takeOne?_eq_some_iff x y := by
    have hone : (1.0 : ℚ) = 1 := by norm_num
    have htake : Amount.takeOne? x = if 1 ≤ x then some (x - 1) else none := rfl
    rw [htake, hone]
    by_cases h : 1 ≤ x
    · simp [h, eq_comm]
    · simp [h]

/-- The bucket that a request is charged to. -/
inductive Ask.ChargedTo (a : Ask) (proven : Prop) : BucketKind → Prop
  | relaxed (htrigger : a.IsTrigger) (hproven : proven) : a.ChargedTo proven .relaxed
  | strict (htrigger : a.IsTrigger) (hunproven : ¬ proven) : a.ChargedTo proven .strict
  | regular (hregular : ¬ a.IsTrigger) : a.ChargedTo proven .regular

namespace Ledger

/-- The bucket that a request draws on is the one that it is charged to. -/
theorem chargedTo_kindOf {a : Ask} {proven : Prop}
    (hproven : ∀ o, a.options = some o → (o.auth = .ok ↔ proven)) :
    a.ChargedTo proven (kindOf a).bucket := by
  by_cases htrigger : a.IsTrigger
  · obtain ⟨o, hoptions, -⟩ := htrigger.asked
    rw [bucket_kindOf_of_isTrigger htrigger hoptions]
    split
    · next hauth => exact .relaxed htrigger ((hproven o hoptions).1 hauth)
    · next hauth => exact .strict htrigger fun h => hauth ((hproven o hoptions).2 h)
  · have hkind : kindOf a = .regular := by
      have hnot := mt isTrigger_kindOf_iff.1 htrigger
      simpa [RequestKind.isTrigger] using hnot
    rw [hkind]
    exact .regular htrigger

variable {α : Type}

/-- A request is selected: settings are in force, tracing is on for it and it is picked. -/
def Selects (p : Policy) (l : Ledger α) (a : Ask) : Prop :=
  ∃ st, l.InForce st ∧ ¬ p.TracingOff st a.signals ∧ Picked p st a

variable [Amount α] [OfScientific α] [LE α] [Sub α]

/-- What a request leaves behind in a ledger when it is charged to a bucket, beside its answer. -/
structure Charge (p : Policy) (l : Ledger α) (a : Ask) (k : BucketKind) (after : Ledger α)
    (answer : Except VerdictError (Verdict α)) : Prop where
  /-- No other bucket changes. -/
  others : ∀ other, other ≠ k → after.buckets.get other = l.buckets.get other
  /-- Without selection nothing changes, and neither does anything without a verdict. -/
  untouched : (∃ e, answer = .error e) ∨ ¬ l.Selects p a → after = l
  /-- Every selected request is either sampled or finds its bucket exhausted. -/
  settled : l.Selects p a → ∃ v, answer = .ok v ∧ v.exhausted = !v.sampled
  /-- A request that is sampled is charged one token. -/
  sampled : ∀ v, answer = .ok v → v.sampled = true →
    ∃ st, l.InForce st ∧ 1.0 ≤ l.atHand st.config k ∧
      after.buckets.get k = some ⟨l.atHand st.config k - 1.0, l.now⟩
  /-- A request that finds its bucket exhausted is charged nothing; what flowed in is kept. -/
  exhausted : ∀ v, answer = .ok v → v.exhausted = true →
    ∃ st, l.InForce st ∧ ¬ 1.0 ≤ l.atHand st.config k ∧
      after.buckets.get k = some ⟨l.atHand st.config k, l.now⟩

/-- A request that is not selected leaves the ledger as it is, and its verdict claims nothing. -/
theorem charge_of_selection?_eq_none {p : Policy} {l : Ledger α} {a : Ask}
    (h : l.selection? p a = none) :
    Charge p l a (kindOf a).bucket (l.decide p a).1 (l.decide p a).2 := by
  have hledger : (l.decide p a).1 = l := decide_of_selection?_eq_none h
  have hverdict : ∀ v, (l.decide p a).2 = .ok v → v.sampled = false ∧ v.exhausted = false :=
    fun v hv => verdict_of_selection?_eq_none h hv
  constructor
  · intro other _
    rw [hledger]
  · exact fun _ => hledger
  · rintro ⟨st, hforce, htracing, hpicked⟩
    rw [selection?_eq_some_iff_picked.2 ⟨st, hforce, htracing, hpicked, rfl⟩] at h
    simp at h
  · intro v hv hsampled
    simp [(hverdict v hv).1] at hsampled
  · intro v hv hexhausted
    simp [(hverdict v hv).2] at hexhausted

variable [Amount.Counts α]

/-- What becomes of the ledger is what the answer says is charged. -/
theorem charge_decide (p : Policy) (l : Ledger α) (a : Ask) :
    Charge p l a (kindOf a).bucket (l.decide p a).1 (l.decide p a).2 := by
  cases hselection : l.selection? p a with
  | none => exact charge_of_selection?_eq_none hselection
  | some c =>
    obtain ⟨st, hforce, htracing, hpicked, rfl⟩ := selection?_eq_some_iff_picked.1 hselection
    have hselects : l.Selects p a := ⟨st, hforce, htracing, hpicked⟩
    -- the tokens at hand settle the verdict and the bucket at once
    by_cases hone : 1.0 ≤ l.atHand st.config (kindOf a).bucket
    · obtain ⟨hanswer, hbucket⟩ := decide_of_one_le hselection hone
      rw [atHand_narrowed] at hbucket
      constructor
      · exact fun other hne => get_decide_of_ne p l hne
      · rintro (⟨e, he⟩ | hnot)
        · simp [hanswer] at he
        · exact absurd hselects hnot
      · exact fun _ => ⟨_, hanswer, rfl⟩
      · exact fun _ _ _ => ⟨st, hforce, hone, hbucket⟩
      · intro v hv hexhausted
        obtain rfl := Except.ok.inj (hanswer.symm.trans hv)
        simp at hexhausted
    · obtain ⟨hanswer, hbucket⟩ := decide_of_not_one_le hselection hone
      rw [atHand_narrowed] at hbucket
      constructor
      · exact fun other hne => get_decide_of_ne p l hne
      · rintro (⟨e, he⟩ | hnot)
        · simp [hanswer] at he
        · exact absurd hselects hnot
      · exact fun _ => ⟨_, hanswer, rfl⟩
      · intro v hv hsampled
        obtain rfl := Except.ok.inj (hanswer.symm.trans hv)
        simp at hsampled
      · exact fun _ _ _ => ⟨st, hforce, hone, hbucket⟩

/-- Every token is charged to the right bucket, once. Whoever asks and however the options came
about, one bucket at most changes, and which one is settled by whether the request asks for a trace
and the verifier answers `ok` for its header. It gives up one token if the request is sampled and
none if it was exhausted, and it stays as it is where the request is not selected or gets no
verdict. -/
theorem charge_decide_read (p : Policy) (l : Ledger α) (a : Ask) (verify : Verifier)
    (header signature : Option String) :
    let asked := { a with options := TraceOptions.read? verify header signature }
    ∃ k, asked.ChargedTo (TraceOptions.Proven verify header signature) k ∧
      Charge p l asked k (l.decide p asked).1 (l.decide p asked).2 := by
  intro asked
  refine ⟨(kindOf asked).bucket, chargedTo_kindOf ?_, charge_decide p l asked⟩
  exact fun o ho => TraceOptions.auth_eq_ok_iff_of_read? ho

/-- A client that proves who it is finds half a token, and another one that flowed in since, in the
bucket that is kept for such clients. -/
theorem charge_decide_read_refilled :
    let settings : Settings ℚ := { buckets := .all (some { capacity := 4, rate := 1 / 2 }) }
    let l : Ledger ℚ :=
      { now := 2 * Amount.nanosPerSecond, settings := some settings
        buckets := { regular := none, relaxed := some ⟨1 / 2, 0⟩, strict := some ⟨0, 0⟩ } }
    let verify : Verifier := fun q =>
      if q.signature = some "proof" ∧ q.timestamp = some 12 then .ok else .failure .badSignature
    let header := some "trigger-trace;ts=12"
    let signature := some "proof"
    let asked : Ask :=
      { name := "checkout", options := TraceOptions.read? verify header signature }
    let after := (l.decide {} asked).1
    TraceOptions.Proven verify header signature ∧ asked.IsTrigger ∧
      l.atHand settings.config .relaxed = 3 / 2 ∧
      (after.buckets.get .relaxed).map Bucket.tokens = some (1 / 2) ∧
      (after.buckets.get .strict).map Bucket.tokens = some 0 ∧
      ∃ k, asked.ChargedTo (TraceOptions.Proven verify header signature) k ∧
        Charge {} l asked k after (l.decide {} asked).2 := by
  intro settings l verify header signature asked after
  have hproven : TraceOptions.Proven verify header signature := ⟨_, rfl, by decide +kernel⟩
  have htrigger : asked.IsTrigger := ⟨rfl, isTrigger_requestedKind_iff.1 (by decide +kernel)⟩
  exact ⟨hproven, htrigger, by decide +kernel, by decide +kernel, by decide +kernel,
    charge_decide_read {} l { name := "checkout" } verify header signature⟩

end Ledger

end TraceSampler.Quota
