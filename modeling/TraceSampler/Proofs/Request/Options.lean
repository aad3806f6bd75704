import TraceSampler.Request.Options

/-!
# The options of a client

A client chooses the keys of the attributes that it passes on, but not freely: whatever it sends,
they start with `custom-`, and no key comes twice. That it is who it says it is, only the verifier
can say.

* `customStart_isPrefix_of_meaning`: which keys a token can name.
* `WellKeyed.apply`: one more token.
* `wellKeyed_of_read?`: the keys of all options that were read.
* `auth_eq_ok_iff_of_read?`: when options that were read are authenticated.
-/

namespace TraceSampler.TraceOptions

theorem customStart_isPrefix {key : String} (h : isCustomKey key = true) :
    customStart <+: key.toList := by
  simp only [isCustomKey, Bool.and_eq_true] at h
  exact List.isPrefixOf_iff_prefix.1 h.1.1

/-- A token names an attribute only by a key that starts as such keys must. -/
theorem customStart_isPrefix_of_meaning {t : Token} {key value : String}
    (h : t.meaning = .custom key value) : customStart <+: key.toList := by
  unfold Token.meaning at h
  split at h
  · split at h
    · simp at h
    · simp at h
  · split at h
    · simp at h
    · split at h
      · -- a time is none of the client's attributes, whether it reads or not
        split at h
        · simp at h
        · simp at h
      · split at h
        · next hcustom =>
          obtain ⟨rfl, -⟩ := Meaning.custom.inj h
          exact customStart_isPrefix hcustom
        · simp at h

/-- The keys of the client's attributes start as they must, and differ from each other. -/
structure WellKeyed (o : TraceOptions) : Prop where
  start : ∀ pair ∈ o.custom, customStart <+: pair.1.toList
  nodup : (o.custom.map (·.1)).Nodup

/-- One more token keeps the keys in order. -/
theorem WellKeyed.apply {o : TraceOptions} (h : o.WellKeyed) (t : Token) :
    (o.apply t).WellKeyed := by
  unfold TraceOptions.apply
  split
  · exact ⟨h.start, h.nodup⟩
  · exact ⟨h.start, h.nodup⟩
  · exact ⟨h.start, h.nodup⟩
  · next key value hmeaning =>
    split
    · exact h
    · next hnew =>
      -- the key is not taken yet, so it may stand behind the others
      have hfresh : ∀ pair ∈ o.custom, pair.1 ≠ key := by
        intro pair hpair heq
        exact hnew (List.any_eq_true.2 ⟨pair, hpair, beq_iff_eq.2 heq⟩)
      constructor
      · intro pair hpair
        rcases List.mem_append.1 hpair with hold | hlast
        · exact h.start pair hold
        · obtain rfl := List.mem_singleton.1 hlast
          exact customStart_isPrefix_of_meaning hmeaning
      · rw [List.map_append, List.map_cons, List.map_nil, List.nodup_append]
        refine ⟨h.nodup, by simp, ?_⟩
        intro old hold last hlast
        obtain ⟨pair, hpair, rfl⟩ := List.mem_map.1 hold
        obtain rfl := List.mem_singleton.1 hlast
        exact hfresh pair hpair
  · split
    · exact h
    · exact ⟨h.start, h.nodup⟩

theorem WellKeyed.foldl {o : TraceOptions} (h : o.WellKeyed) (ts : List Token) :
    (ts.foldl TraceOptions.apply o).WellKeyed := by
  induction ts generalizing o with
  | nil => exact h
  | cons t ts ih => exact ih (h.apply t)

/-! ## Options that were read -/

/-- Options are read from the tokens of a header, and authenticated by what the verifier says of
it. -/
theorem exists_of_read? {verify : Verifier} {header signature : Option String} {o : TraceOptions}
    (h : read? verify header signature = some o) :
    ∃ text, header = some text ∧
      o = { ofTokens (tokens text) with auth := verify (question text signature) } := by
  unfold read? at h
  split at h
  · simp at h
  · next text =>
    split at h
    · simp at h
    · exact ⟨text, rfl, (Option.some.inj h).symm⟩

/-- Whatever a client sends, the keys of its attributes are in order. -/
theorem wellKeyed_of_read? {verify : Verifier} {header signature : Option String}
    {o : TraceOptions} (h : read? verify header signature = some o) : o.WellKeyed := by
  obtain ⟨text, -, rfl⟩ := exists_of_read? h
  have hnone : WellKeyed {} := ⟨by simp, List.nodup_nil⟩
  have hall : (ofTokens (tokens text)).WellKeyed := hnone.foldl (tokens text)
  exact ⟨hall.start, hall.nodup⟩

/-- The verifier answers `ok` for a header and its signature. -/
def Proven (verify : Verifier) (header signature : Option String) : Prop :=
  ∃ text, header = some text ∧ verify (question text signature) = .ok

theorem auth_eq_ok_iff_of_read? {verify : Verifier} {header signature : Option String}
    {o : TraceOptions} (h : read? verify header signature = some o) :
    o.auth = .ok ↔ Proven verify header signature := by
  obtain ⟨text, rfl, rfl⟩ := exists_of_read? h
  simp [Proven]

end TraceSampler.TraceOptions
