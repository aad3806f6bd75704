import TraceSampler.Proofs.Quota.Charges
import TraceSampler.Proofs.Quota.Continued
import TraceSampler.Proofs.Quota.Enabled
import TraceSampler.Proofs.Text.Hex

/-!
# Any text as a parent

The parent of a request is a text, and it may be any text. Where tracing is enabled for the request,
the text is taken for a parent if it has four fields and the last of them reads as a byte; it then
picks the request by the lowest bit. Any other text is refused with an error that repeats it. Two
digits read as a byte, but so does a plus sign before one digit, and that is more than the form of a
trace parent has room for.

* `parentSampled_of_flagged`, `parentSampled_of_not_flagged`: what is made of the text.
* `selects_iff_of_parent`, `selects_iff_shown`: whether the request is selected, by its parent and by
  its verdict.
* `decide_eq_invalidParent_iff`: which texts are refused, and what the others come to.
* `decide_signedDigit`: a text that is taken for a parent although its flags are not two digits.
-/

namespace TraceSampler.Quota

open Text.Hex (TwoDigits SignedDigit)

/-! ## The flags of a parent -/

/-- A parent is four fields with hyphens between them, the last of which are its flags. -/
inductive HasFlags (parent : String) (flags : List Char) : Prop
  | intro (version trace span : List Char)
      (text : parent.toList = Text.join ['-'] [version, trace, span, flags])
      (apart : ∀ field ∈ [version, trace, span, flags], '-' ∉ field)

/-- The flags of a parent read as a number. -/
def Flagged (parent : String) (n : Nat) : Prop :=
  ∃ flags, HasFlags parent flags ∧ (TwoDigits flags n ∨ SignedDigit flags n)

theorem hasFlags_iff {parent : String} {flags : List Char} :
    HasFlags parent flags ↔
      ∃ version trace span, Text.split '-' parent.toList = [version, trace, span, flags] := by
  constructor
  · rintro ⟨version, trace, span, text, apart⟩
    exact ⟨version, trace, span, Text.split_eq_iff.2 ⟨by simp, text, apart⟩⟩
  · rintro ⟨version, trace, span, hsplit⟩
    obtain ⟨-, text, apart⟩ := Text.split_eq_iff.1 hsplit
    exact ⟨version, trace, span, text, apart⟩

/-- Flags that read as a number say by its lowest bit whether the parent was sampled. -/
theorem parentSampled_of_flagged {parent : String} {n : Nat} (h : Flagged parent n) :
    parentSampled parent = .ok (n % 2 == 1) := by
  obtain ⟨flags, hflags, hread⟩ := h
  obtain ⟨version, trace, span, hsplit⟩ := hasFlags_iff.1 hflags
  simp only [parentSampled, hsplit, Text.Hex.readByte?_eq_some_iff.2 hread]

/-- Any other text is refused. -/
theorem parentSampled_of_not_flagged {parent : String} (h : ∀ n, ¬ Flagged parent n) :
    parentSampled parent = .error (.invalidParent parent) := by
  unfold parentSampled
  split
  · next version trace span flags hsplit =>
    cases hread : Text.Hex.readByte? flags with
    | none => rfl
    | some n =>
      have hflags : HasFlags parent flags := hasFlags_iff.2 ⟨version, trace, span, hsplit⟩
      exact absurd ⟨flags, hflags, Text.Hex.readByte?_eq_some_iff.1 hread⟩ (h n)
  · rfl

namespace Ledger

/-! ## Selection -/

variable {α : Type} {p : Policy} {l : Ledger α} {a : Ask} {parent : String}

/-- Where tracing is enabled for a request with a parent, it is selected as its parent was. -/
theorem selects_iff_of_parent (henables : p.Enables l.settings l.now a.signals)
    (ha : a.parent = some parent) : l.Selects p a ↔ parentSampled parent = .ok true := by
  constructor
  · rintro ⟨st, -, -, hpicked⟩
    exact (picked_iff_of_parent ha).1 hpicked
  · intro hsampled
    obtain ⟨st, hforce, htracing⟩ := enables_iff.1 henables
    exact ⟨st, hforce, htracing, (picked_iff_of_parent ha).2 hsampled⟩

/-- A request is selected if there is a configuration that it is selected under. -/
theorem selects_iff_exists_selection? :
    l.Selects p a ↔ ∃ c, l.selection? p a = some c := by
  constructor
  · rintro ⟨st, hforce, htracing, hpicked⟩
    exact ⟨_, selection?_eq_some_iff_picked.2 ⟨st, hforce, htracing, hpicked, rfl⟩⟩
  · rintro ⟨c, hc⟩
    obtain ⟨st, hforce, htracing, hpicked, -⟩ := selection?_eq_some_iff_picked.1 hc
    exact ⟨st, hforce, htracing, hpicked⟩

variable [Amount α]

/-- A verdict shows whether the request was selected: then it is either sampled or finds its bucket
exhausted. -/
theorem selects_iff_shown {v : Verdict α} (hv : (l.decide p a).2 = .ok v) :
    l.Selects p a ↔ v.sampled = true ∨ v.exhausted = true := by
  rw [selects_iff_exists_selection?]
  cases hselection : l.selection? p a with
  | none =>
    obtain ⟨hsampled, hexhausted⟩ := verdict_of_selection?_eq_none hselection hv
    simp [hsampled, hexhausted]
  | some c =>
    rw [decide_of_selection?_eq_some hselection] at hv
    obtain rfl := Except.ok.inj hv
    simp

/-! ## Verdicts -/

/-- A text that is no parent is refused, where tracing is enabled. -/
theorem decide_of_not_flagged (henables : p.Enables l.settings l.now a.signals)
    (ha : a.parent = some parent) (h : ∀ n, ¬ Flagged parent n) :
    l.decide p a = (l, .error (.invalidParent parent)) := by
  obtain ⟨st, hforce, htracing⟩ := enables_iff.1 henables
  have hcurrent := current?_eq_some_iff.2 hforce
  have hon := tracing_narrowed_iff.2 htracing
  have hselected : selected (narrowed p st a.signals) a = .error (.invalidParent parent) := by
    simp only [selected, ha, parentSampled_of_not_flagged h]
  simp [decide, hcurrent, hon, hselected]

/-- Where tracing is enabled for a request, it is refused for its parent just where no flags can be
read from that text. Otherwise there is a verdict, and the lowest bit of the flags decides on
selection. -/
theorem decide_eq_invalidParent_iff (henables : p.Enables l.settings l.now a.signals)
    (ha : a.parent = some parent) :
    ((l.decide p a).2 = .error (.invalidParent parent) ↔ ∀ n, ¬ Flagged parent n) ∧
      ∀ n, Flagged parent n → ∃ v, (l.decide p a).2 = .ok v ∧
        (l.Selects p a ↔ n % 2 = 1) ∧ (v.sampled = true ∨ v.exhausted = true ↔ n % 2 = 1) := by
  have hread : ∀ n, Flagged parent n → ∃ v, (l.decide p a).2 = .ok v ∧
      (l.Selects p a ↔ n % 2 = 1) ∧ (v.sampled = true ∨ v.exhausted = true ↔ n % 2 = 1) := by
    intro n hn
    have hsampled := parentSampled_of_flagged hn
    have hselects : l.Selects p a ↔ n % 2 = 1 := by
      rw [selects_iff_of_parent henables ha, hsampled]
      simp
    obtain ⟨v, hv⟩ : ∃ v, (l.decide p a).2 = .ok v :=
      exists_verdict_of_selected fun c => ⟨n % 2 == 1, by simp only [selected, ha, hsampled]⟩
    exact ⟨v, hv, hselects, (selects_iff_shown hv).symm.trans hselects⟩
  refine ⟨⟨?_, ?_⟩, hread⟩
  · -- where flags can be read there is a verdict, and no error
    intro herror n hn
    obtain ⟨v, hv, -⟩ := hread n hn
    rw [hv] at herror
    simp at herror
  · intro h
    rw [decide_of_not_flagged henables ha h]

/-- The text of a parent may have empty fields, as long as there are four and the flags are right.
The request that it selects finds no whole token. A text with one field more is refused. -/
theorem decide_eq_invalidParent_iff_exhausted :
    let settings : Settings ℚ := { buckets := .all (some { capacity := 1 / 2, rate := 0 }) }
    let l : Ledger ℚ := { settings := some settings }
    let good : Ask := { name := "checkout", parent := some "--2-0B" }
    let bad : Ask := { name := "checkout", parent := some "00-1-2-01-" }
    ({} : Policy).Enables l.settings l.now [] ∧
      (Flagged "--2-0B" 11 ∧ (l.decide {} good).2.toOption.map Verdict.exhausted = some true ∧
        ∃ v, (l.decide {} good).2 = .ok v ∧ (l.Selects {} good ↔ 11 % 2 = 1) ∧
          (v.sampled = true ∨ v.exhausted = true ↔ 11 % 2 = 1)) ∧
      (∀ n, ¬ Flagged "00-1-2-01-" n) ∧
        (l.decide {} bad).2 = .error (.invalidParent "00-1-2-01-") := by
  intro settings l good bad
  have henables : ({} : Policy).Enables l.settings l.now [] :=
    ⟨⟨settings, rfl, by decide, rfl⟩, Policy.leavesOn_iff.2 (by decide +kernel)⟩
  have hgood : Flagged "--2-0B" 11 := by
    refine ⟨['0', 'B'], hasFlags_iff.2 ⟨[], [], ['2'], by decide +kernel⟩, Or.inl ?_⟩
    exact .intro (x := 0) (y := 11) (by decide) (by decide)
  have hbad : ∀ n, ¬ Flagged "00-1-2-01-" n := by
    rintro n ⟨flags, hflags, -⟩
    obtain ⟨version, trace, span, hsplit⟩ := hasFlags_iff.1 hflags
    have hfive : (Text.split '-' "00-1-2-01-".toList).length = 5 := by decide +kernel
    rw [hsplit] at hfive
    simp at hfive
  obtain ⟨-, hverdict⟩ := decide_eq_invalidParent_iff (a := good) henables rfl
  obtain ⟨hrefused, -⟩ := decide_eq_invalidParent_iff (a := bad) henables rfl
  exact ⟨henables, ⟨hgood, by decide +kernel, hverdict 11 hgood⟩, hbad, hrefused.2 hbad⟩

/-- A plus sign and a digit are no two digits, and yet the parent that ends in them picks the
request. -/
theorem decide_signedDigit :
    let parent := "00-80f198ee56343ba864fe8b2a57d3eff7-00f067aa0ba902b7-+1"
    let settings : Settings ℚ := { buckets := .all (some { capacity := 1, rate := 0 }) }
    let l : Ledger ℚ := { settings := some settings }
    let a : Ask := { name := "checkout", parent := some parent }
    ({} : Policy).Enables l.settings l.now a.signals ∧
      ¬ ((l.decide {} a).2 = .error (.invalidParent parent) ↔
        ∀ flags n, HasFlags parent flags → ¬ TwoDigits flags n) ∧
      (l.decide {} a).2.toOption.map Verdict.sampled = some true := by
  intro parent settings l a
  have henables : ({} : Policy).Enables l.settings l.now a.signals :=
    ⟨⟨settings, rfl, by decide, rfl⟩, Policy.leavesOn_iff.2 (by decide +kernel)⟩
  have hsampled : (l.decide {} a).2.toOption.map Verdict.sampled = some true := by decide +kernel
  have hnone : ∀ flags n, HasFlags parent flags → ¬ TwoDigits flags n := by
    intro flags n hflags hdigits
    obtain ⟨version, trace, span, hsplit⟩ := hasFlags_iff.1 hflags
    have hlast : (Text.split '-' parent.toList).getLast? = some ['+', '1'] := by decide +kernel
    rw [hsplit] at hlast
    obtain rfl : flags = ['+', '1'] := by simpa using hlast
    have hplus : Text.Hex.value? '+' = none := by decide
    cases hdigits with
    | intro first second => simp [hplus] at first
  refine ⟨henables, fun hclaimed => ?_, hsampled⟩
  rw [hclaimed.2 hnone] at hsampled
  simp [Except.toOption] at hsampled

end Ledger

end TraceSampler.Quota
