import TraceSampler.Proofs.Header.Limits

/-!
# Which foreign members survive

The packing decides on one member after the other and remembers only what it has taken so far. Here
every foreign member is marked with its fate, and the marks are related to the whole list and to
the finished header: a member is left out because it would not fit at the end either, with the
exception of at most one oversize member that makes room for others.

* `map_fst_fates`, `kept_fates`: the marks are those of the packing.
* `overflow_of_crowdedOut`, `before_givenUp`, `before_oversize_kept`: what each mark means.
* `outbound_accounts`: the account of an outbound header.
-/

namespace TraceSampler.TraceState

/-! ## Fates -/

/-- What becomes of a foreign member on its way out. -/
inductive Fate
  | kept
  /-- It would go over a limit. -/
  | crowdedOut
  /-- It is oversize and makes room for others. -/
  | givenUp
  deriving DecidableEq, Repr

/-- Members with their fates. -/
abbrev Marked := List ((String × String) × Fate)

/-- The members that were kept, in their order. -/
def kept (marked : Marked) : List (String × String) :=
  (marked.filter (·.2 = .kept)).map (·.1)

/-- The fates that packing deals out behind a header of `bytes` bytes and `members` members. -/
def fates (bytes members : Nat) (sacrifice : Bool) : List (String × String) → Marked
  | [] => []
  | m :: r =>
    if members ≥ maxMembers || bytes + 1 + memberBytes m > maxBytes then
      (m, .crowdedOut) :: fates bytes members sacrifice r
    else if sacrifice && memberBytes m ≥ oversizeBytes then
      (m, .givenUp) :: fates bytes members false r
    else (m, .kept) :: fates (bytes + 1 + memberBytes m) (members + 1) sacrifice r

@[simp] theorem kept_cons_kept (m : String × String) (marked : Marked) :
    kept ((m, .kept) :: marked) = m :: kept marked := by
  simp [kept]

theorem kept_cons_of_ne {f : Fate} (h : f ≠ .kept) (m : String × String) (marked : Marked) :
    kept ((m, f) :: marked) = kept marked := by
  simp [kept, h]

theorem map_fst_fates (bytes members : Nat) (sacrifice : Bool) (ms : List (String × String)) :
    (fates bytes members sacrifice ms).map (·.1) = ms := by
  fun_induction fates bytes members sacrifice ms with
  | case1 => rfl
  | case2 _ _ _ _ _ _ ih => rw [List.map_cons, ih]
  | case3 _ _ _ _ _ _ _ ih => rw [List.map_cons, ih]
  | case4 _ _ _ _ _ _ _ ih => rw [List.map_cons, ih]

/-- The kept members are the packed ones. -/
theorem kept_fates (bytes members : Nat) (sacrifice : Bool) (ms : List (String × String)) :
    kept (fates bytes members sacrifice ms) = packFrom bytes members sacrifice ms := by
  fun_induction fates bytes members sacrifice ms with
  | case1 => rfl
  | case2 _ _ _ m _ hfull ih => rw [kept_cons_of_ne (by simp), ih, packFrom, if_pos hfull]
  | case3 _ _ _ m _ hfits hgiven ih =>
    rw [kept_cons_of_ne (by simp), ih, packFrom, if_neg hfits, if_pos hgiven]
  | case4 _ _ _ m _ hfits hkept ih =>
    rw [kept_cons_kept, ih, packFrom, if_neg hfits, if_neg hkept]

/-! ## What the fates mean -/

/-- A member is crowded out only if it would not fit behind all that is kept in the end: what is
kept later only makes it worse. -/
theorem overflow_of_crowdedOut {bytes members : Nat} {sacrifice : Bool}
    {ms : List (String × String)} {m : String × String}
    (h : (m, Fate.crowdedOut) ∈ fates bytes members sacrifice ms) :
    maxMembers ≤ members + (packFrom bytes members sacrifice ms).length ∨
      maxBytes < bytes + bytesWithCommas (packFrom bytes members sacrifice ms) + 1 +
        memberBytes m := by
  rw [← kept_fates]
  fun_induction fates bytes members sacrifice ms with
  | case1 => simp at h
  | case2 bytes members _ x _ hfull ih =>
    rw [kept_cons_of_ne (by simp)]
    rcases List.mem_cons.1 h with heq | h
    · -- a limit is met here already, and what is kept behind only adds to the header
      obtain ⟨rfl, -⟩ := Prod.mk.inj heq
      simp only [Bool.or_eq_true, decide_eq_true_eq] at hfull
      rcases hfull with hfull | hfull
      · exact Or.inl (by omega)
      · exact Or.inr (by omega)
    · exact ih h
  | case3 _ _ _ x _ _ _ ih =>
    rw [kept_cons_of_ne (by simp)]
    rcases List.mem_cons.1 h with heq | h
    · simp at heq
    · exact ih h
  | case4 bytes members _ x _ _ _ ih =>
    rw [kept_cons_kept, List.length_cons, bytesWithCommas]
    rcases List.mem_cons.1 h with heq | h
    · simp at heq
    · rcases ih h with hfull | hfull
      · exact Or.inl (by omega)
      · exact Or.inr (by omega)

/-- Only the sacrifice gives a member up. It is oversize, and no oversize member was kept before. -/
theorem before_givenUp {bytes members : Nat} {sacrifice : Bool} {ms : List (String × String)}
    {before after : Marked} {m : String × String}
    (h : fates bytes members sacrifice ms = before ++ (m, .givenUp) :: after) :
    sacrifice = true ∧ oversizeBytes ≤ memberBytes m ∧
      ∀ x ∈ before, x.2 = .kept → memberBytes x.1 < oversizeBytes := by
  fun_induction fates bytes members sacrifice ms generalizing before with
  | case1 => simp at h
  | case2 _ _ _ x _ _ ih =>
    rcases List.cons_eq_append_iff.1 h with ⟨rfl, heq⟩ | ⟨rest, rfl, heq⟩
    · simp at heq
    · obtain ⟨hsac, hsize, hbefore⟩ := ih heq
      refine ⟨hsac, hsize, ?_⟩
      intro y hy hkept
      rcases List.mem_cons.1 hy with rfl | hy
      · simp at hkept
      · exact hbefore y hy hkept
  | case3 _ _ _ x _ _ hgiven ih =>
    rcases List.cons_eq_append_iff.1 h with ⟨rfl, heq⟩ | ⟨rest, rfl, heq⟩
    · simp only [List.cons.injEq, Prod.mk.injEq] at heq
      obtain ⟨⟨rfl, -⟩, -⟩ := heq
      simpa using hgiven
    · -- one member was given up here, so no other one can be
      exact absurd (ih heq).1 (by simp)
  | case4 _ _ _ x _ _ hkeep ih =>
    rcases List.cons_eq_append_iff.1 h with ⟨rfl, heq⟩ | ⟨rest, rfl, heq⟩
    · simp at heq
    · obtain ⟨hsac, hsize, hbefore⟩ := ih heq
      refine ⟨hsac, hsize, ?_⟩
      intro y hy hkept
      rcases List.mem_cons.1 hy with rfl | hy
      · -- kept while the sacrifice is due, so not oversize
        simpa [hsac] using hkeep
      · exact hbefore y hy hkept

/-- While a sacrifice is due, an oversize member is kept only behind the one that was given up. -/
theorem before_oversize_kept {bytes members : Nat} {ms : List (String × String)}
    {before after : Marked} {m : String × String}
    (h : fates bytes members true ms = before ++ (m, .kept) :: after)
    (hsize : oversizeBytes ≤ memberBytes m) :
    ∃ x ∈ before, x.2 ≠ .kept ∧ oversizeBytes ≤ memberBytes x.1 := by
  -- by induction on the members, as long as the sacrifice stays due
  induction ms generalizing bytes members before with
  | nil => simp [fates] at h
  | cons x r ih =>
    rw [fates] at h
    split at h
    · rcases List.cons_eq_append_iff.1 h with ⟨rfl, heq⟩ | ⟨rest, rfl, heq⟩
      · simp at heq
      · obtain ⟨y, hy, hfate, hover⟩ := ih heq
        exact ⟨y, List.mem_cons_of_mem _ hy, hfate, hover⟩
    · split at h
      · next hgiven =>
        rcases List.cons_eq_append_iff.1 h with ⟨rfl, heq⟩ | ⟨rest, rfl, heq⟩
        · simp at heq
        · exact ⟨(x, .givenUp), by simp, by simp, by simpa using hgiven⟩
      · next hkeep =>
        rcases List.cons_eq_append_iff.1 h with ⟨rfl, heq⟩ | ⟨rest, rfl, heq⟩
        · simp only [List.cons.injEq, Prod.mk.injEq] at heq
          obtain ⟨⟨rfl, -⟩, -⟩ := heq
          exact absurd hsize (by simpa using hkeep)
        · obtain ⟨y, hy, hfate, hover⟩ := ih heq
          exact ⟨y, List.mem_cons_of_mem _ hy, hfate, hover⟩

/-- At most one member is given up. -/
theorem countP_givenUp_le (bytes members : Nat) (sacrifice : Bool) (ms : List (String × String)) :
    (fates bytes members sacrifice ms).countP (·.2 = .givenUp) ≤ 1 := by
  fun_induction fates bytes members sacrifice ms with
  | case1 => simp
  | case2 _ _ _ _ _ _ ih => simpa using ih
  | case3 bytes members _ x r _ _ _ =>
    have hnone : (fates bytes members false r).countP (·.2 = .givenUp) = 0 := by
      rw [List.countP_eq_zero]
      rintro ⟨m, f⟩ hm hf
      obtain ⟨before, after, heq⟩ := List.append_of_mem hm
      simp only [decide_eq_true_eq] at hf
      subst hf
      exact absurd (before_givenUp heq).1 (by simp)
    simp [hnone]
  | case4 _ _ _ _ _ _ _ ih => simpa using ih

/-! ## The account of an outbound header -/

/-- What would go out if there were no limits. -/
def unlimited (s : TraceState) (v : String) : TraceState := ⟨(vendorKey, v) :: s.foreign⟩

/-- Too much for an outbound header. -/
def Overflows (s : TraceState) : Prop := 512 < s.text.utf8ByteSize ∨ 32 < s.entries.length

/-- The foreign members of a state, marked with what became of them in its outbound header. -/
structure Accounts (s : TraceState) (v : String) (marked : Marked) : Prop where
  members : marked.map (·.1) = s.foreign
  survivors : (s.outbound v).entries = (vendorKey, v) :: kept marked
  /-- Where everything fits, nothing is lost. -/
  allFit : (s.unlimited v).text.utf8ByteSize ≤ 512 → s.foreign.length ≤ 31 → kept marked = s.foreign
  /-- A member that is crowded out would not fit behind the finished header either. -/
  crowdedOut : ∀ m, (m, Fate.crowdedOut) ∈ marked → Overflows ⟨(s.outbound v).entries ++ [m]⟩
  /-- At most one member that is left out might have fitted. -/
  givenUpOnce : marked.countP (·.2 = .givenUp) ≤ 1
  /-- It is oversize, no oversize member before it is kept, and not all members would fit. -/
  givenUp : ∀ before m after, marked = before ++ (m, .givenUp) :: after →
    512 < (s.unlimited v).text.utf8ByteSize ∧ 129 ≤ memberBytes m ∧
      ∀ x ∈ before, x.2 = .kept → memberBytes x.1 < 129
  /-- Where not all fit, an oversize member is kept only if an earlier one was left out. -/
  oversizeKept : 512 < (s.unlimited v).text.utf8ByteSize →
    ∀ before m after, marked = before ++ (m, .kept) :: after → 129 ≤ memberBytes m →
      ∃ x ∈ before, x.2 ≠ .kept ∧ 129 ≤ memberBytes x.1

theorem utf8ByteSize_unlimited (s : TraceState) (v : String) :
    (s.unlimited v).text.utf8ByteSize = bytesWithCommas s.foreign + memberBytes (vendorKey, v) := by
  rw [unlimited, utf8ByteSize_text_cons, Nat.add_comm]

/-- A further member makes the header longer by itself and a comma. -/
theorem overflows_append_iff {s : TraceState} {v : String} {m : String × String} :
    Overflows ⟨(s.outbound v).entries ++ [m]⟩ ↔
      maxMembers ≤ 1 + (s.packed v).length ∨
        maxBytes < memberBytes (vendorKey, v) + bytesWithCommas (s.packed v) + 1 +
          memberBytes m := by
  have hentries : (s.outbound v).entries ++ [m] = (vendorKey, v) :: (s.packed v ++ [m]) := rfl
  rw [Overflows, hentries, utf8ByteSize_text_cons, bytesWithCommas_append]
  simp only [bytesWithCommas, List.length_cons, List.length_append, List.length_nil, maxBytes,
    maxMembers]
  omega

/-- Every foreign member of a state is accounted for in its outbound header: kept in its place,
crowded out by the limits, or given up as the one oversize member that makes room. -/
theorem outbound_accounts (s : TraceState) (v : String) : ∃ marked, Accounts s v marked := by
  -- the sacrifice is due exactly when the header without limits is too long
  have hdue : decide (bytesWithCommas s.foreign + memberBytes (vendorKey, v) > maxBytes) =
      decide (512 < (s.unlimited v).text.utf8ByteSize) := by
    rw [utf8ByteSize_unlimited]
    rfl
  have hpacked : kept (fates (memberBytes (vendorKey, v)) 1
      (decide (512 < (s.unlimited v).text.utf8ByteSize)) s.foreign) = s.packed v := by
    rw [kept_fates, packed, hdue]
  refine ⟨fates (memberBytes (vendorKey, v)) 1
    (decide (512 < (s.unlimited v).text.utf8ByteSize)) s.foreign, ?_⟩
  constructor
  · exact map_fst_fates _ _ _ _
  · rw [hpacked, outbound]
  · intro hbytes hlength
    have hnot : decide (512 < (s.unlimited v).text.utf8ByteSize) = false := by
      simpa using hbytes
    rw [utf8ByteSize_unlimited] at hbytes
    rw [hnot, kept_fates]
    apply packFrom_eq_self
    · rw [maxBytes]
      omega
    · rw [maxMembers]
      omega
  · intro m hm
    have hoverflow := overflow_of_crowdedOut hm
    rw [← kept_fates, hpacked] at hoverflow
    exact overflows_append_iff.2 hoverflow
  · exact countP_givenUp_le _ _ _ _
  · intro before m after h
    obtain ⟨hsac, hsize, hbefore⟩ := before_givenUp h
    exact ⟨of_decide_eq_true hsac, hsize, hbefore⟩
  · intro hlong before m after h hsize
    rw [decide_eq_true hlong] at h
    exact before_oversize_kept h hsize

end TraceSampler.TraceState
