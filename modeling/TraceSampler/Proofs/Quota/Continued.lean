import TraceSampler.Proofs.Header.TraceParent
import TraceSampler.Proofs.Quota.Decide

/-!
# Requests that go on with a trace

The ledger learns of a remote parent by the text of its trace parent alone, and reads the flags back
from it. For such a request nothing else matters of what the client asked for: it is regular, and
selected as its parent was.

* `parentSampled_traceParent`: the flags of a span are read back from its trace parent.
* `decide_of_current?_eq_none`, `decide_congr_of_parent`: the options of a request with a parent
  make no difference.
* `exists_selected_of_error`, `exists_verdict_of_traceParent`, `exists_verdict_of_new`: only a
  parent that does not read leaves a request without a verdict.
-/

namespace TraceSampler.Quota

/-! ## The flags of a parent -/

/-- The fields of a trace parent, between its hyphens. -/
theorem split_traceParent (s : SpanContext) :
    Text.split '-' s.traceParent.toList =
      [['0', '0'], Text.Hex.fixed 32 s.traceId.toNat, Text.Hex.fixed 16 s.spanId.toNat,
        Text.Hex.fixed 2 s.flags.toNat] := by
  have hversion : '-' ∉ ['0', '0'] := by decide
  rw [SpanContext.toList_traceParent, List.append_nil, Text.split_append hversion,
    Text.split_append (Text.Hex.hyphen_not_mem_fixed _ _),
    Text.split_append (Text.Hex.hyphen_not_mem_fixed _ _),
    Text.split_eq_singleton (Text.Hex.hyphen_not_mem_fixed _ _)]

/-- The flags of a span are read back from its trace parent. -/
theorem parentSampled_traceParent (s : SpanContext) :
    parentSampled s.traceParent = .ok s.isSampled := by
  have hflags : Text.Hex.readByte? (Text.Hex.fixed 2 s.flags.toNat) = some s.flags.toNat :=
    Text.Hex.readByte?_fixed s.flags.isLt
  have hlowest : (s.flags.toNat % 2 == 1) = s.isSampled := by
    rw [SpanContext.isSampled, BitVec.getLsbD, Nat.testBit_zero]
    rfl
  rw [parentSampled, split_traceParent]
  simp only [hflags, hlowest]

namespace Ledger

variable {α : Type} [Amount α] {p : Policy} {l : Ledger α} {a b : Ask}

/-! ## What the options come to -/

/-- Without settings, only the kind in the verdict shows what was asked for. -/
theorem decide_of_current?_eq_none (h : l.current? = none) :
    l.decide p a = (l, .ok (.withoutSettings (requestedKind a))) := by
  simp only [decide, h]

/-- A request with a parent is decided by that parent and its signals, while settings hold. -/
theorem decide_congr_of_parent (hparent : a.parent = b.parent) (hgiven : a.parent.isSome = true)
    (hsignals : a.signals = b.signals) {settings : Settings α}
    (hcurrent : l.current? = some settings) : l.decide p a = l.decide p b := by
  obtain ⟨parent, ha⟩ := Option.isSome_iff_exists.1 hgiven
  have hb : b.parent = some parent := hparent ▸ ha
  have hkind : kindOf a = kindOf b := by simp [kindOf, ha, hb]
  have hselected : ∀ c : TraceConfig α, selected c a = selected c b := by
    intro c
    simp [selected, ha, hb]
  simp only [decide, hcurrent, hkind, hselected, hsignals]

/-- There is no verdict only where the parent does not tell whether it was sampled. -/
theorem exists_selected_of_error {e : VerdictError} (h : (l.decide p a).2 = .error e) :
    ∃ c : TraceConfig α, selected c a = .error e := by
  cases hselection : l.selection? p a with
  | some c =>
    rw [decide_of_selection?_eq_some hselection] at h
    simp at h
  | none =>
    rcases unselected_cases hselection with
      hcurrent | ⟨s, hcurrent, htracing | ⟨htracing, hselected | ⟨e', hselected⟩⟩⟩
    · simp [decide, hcurrent] at h
    · simp [decide, hcurrent, htracing] at h
    · simp [decide, hcurrent, htracing, hselected] at h
    · have heq : e' = e := by simpa [decide, hcurrent, htracing, hselected] using h
      exact ⟨_, heq ▸ hselected⟩

/-- A request gets a verdict, if every configuration either picks it or does not. -/
theorem exists_verdict_of_selected (h : ∀ c : TraceConfig α, ∃ picked, selected c a = .ok picked) :
    ∃ v, (l.decide p a).2 = .ok v := by
  cases hanswer : (l.decide p a).2 with
  | ok v => exact ⟨v, rfl⟩
  | error e =>
    obtain ⟨c, hselected⟩ := exists_selected_of_error hanswer
    obtain ⟨picked, hpicked⟩ := h c
    simp [hpicked] at hselected

/-- A request with the trace parent of a span gets a verdict. -/
theorem exists_verdict_of_traceParent {s : SpanContext} (ha : a.parent = some s.traceParent) :
    ∃ v, (l.decide p a).2 = .ok v :=
  exists_verdict_of_selected fun c =>
    ⟨s.isSampled, by simp only [selected, ha, parentSampled_traceParent]⟩

/-- A request without a parent gets a verdict. -/
theorem exists_verdict_of_new (ha : a.parent = none) : ∃ v, (l.decide p a).2 = .ok v := by
  refine exists_verdict_of_selected fun c => ?_
  simp only [selected, ha]
  exact ⟨_, rfl⟩

end Ledger

end TraceSampler.Quota
