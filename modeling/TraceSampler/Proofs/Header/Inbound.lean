import Mathlib.Data.List.Basic
import TraceSampler.Header.Exchange
import TraceSampler.Proofs.Text

/-!
# The trace state that came in

The trace state of a request is kept as it came where other vendors had a part in it. Whether they
had is judged by the pieces between the commas, not by the members that are read from them: a piece
counts for a foreign one unless it starts as the vendor member does. So every foreign member counts,
and beside them every stray piece: one that is no member at all, or a vendor member with blanks
before its equals sign.

* `isForeignEntry_cut_iff`: what counts for foreign, by the text before the equals sign.
* `foreign_or_stray`, `isForeignEntry_of_readMember?`, `isForeignEntry_of_stray`: foreign members
  and stray pieces count for foreign, and nothing else does.
* `exists_foreign_ofHeader_iff`: whether a state has foreign members, by the pieces of its header.
* `inboundState_extract_eq_some_iff`: when the trace state is kept.
* `inboundState_extract_trailingComma`: a trace state without foreign members that is kept.
-/

namespace TraceSampler

namespace TraceState

/-! ## Members and stray pieces -/

/-- A piece of a header that no foreign member is read from, although it does not start as the
vendor member does. -/
inductive Stray (piece : List Char) : Prop
  /-- There is no equals sign in it; a blank piece is one of these. -/
  | uncut (equals : '=' ∉ Text.trim piece)
  /-- Its key is empty or holds a blank, or its value is empty. -/
  | malformed (key value : List Char) (text : Text.trim piece = key ++ '=' :: value)
      (equals : '=' ∉ key) (vendor : key ≠ ['s', 'w'])
      (broken : Text.trim key = [] ∨ Text.trim value = [] ∨
        ∃ c ∈ Text.trim key, Text.isBlank c = true)
  /-- It is the vendor member, with blanks before its equals sign. -/
  | spaced (key value : List Char) (text : Text.trim piece = key ++ '=' :: value)
      (equals : '=' ∉ key) (vendor : key ≠ ['s', 'w']) (trimmed : Text.trim key = ['s', 'w'])

/-- What is read of a piece that is cut at its first equals sign. -/
theorem readMember?_of_cut {piece key value : List Char}
    (text : Text.trim piece = key ++ '=' :: value) (equals : '=' ∉ key) :
    readMember? piece =
      if (Text.trim key).isEmpty || (Text.trim value).isEmpty || (Text.trim key).any Text.isBlank
      then none else some (String.ofList (Text.trim key), String.ofList (Text.trim value)) := by
  have hcut : Text.splitFirst? '=' (Text.trim piece) = some (key, value) :=
    Text.splitFirst?_eq_some_iff.2 ⟨text, equals⟩
  rw [readMember?, hcut]

/-- The keys that the leftmost members have are those that any members have. -/
theorem mem_map_fst_keepFirst_iff {key : String} {ms : List (String × String)} :
    key ∈ (keepFirst ms).map (·.1) ↔ key ∈ ms.map (·.1) := by
  induction ms with
  | nil => rfl
  | cons m r ih =>
    obtain ⟨k, v⟩ := m
    by_cases hk : key = k
    · simp [keepFirst, hk]
    · simp only [keepFirst, List.map_cons, List.mem_cons, hk, false_or, ← ih, List.mem_map,
        List.mem_filter, bne_iff_ne]
      constructor
      · rintro ⟨m, ⟨hm, -⟩, rfl⟩
        exact ⟨m, hm, rfl⟩
      · rintro ⟨m, hm, rfl⟩
        exact ⟨m, ⟨hm, hk⟩, rfl⟩

/-- A state has a foreign member if one was read from its header: the member itself may be left out
for another one under its key, but then that one is foreign too. -/
theorem exists_foreign_ofHeader_iff {header vendor : String} :
    (∃ m ∈ (ofHeader header).entries, m.1 ≠ vendor) ↔
      ∃ piece ∈ Text.split ',' header.toList, ∃ m, readMember? piece = some m ∧ m.1 ≠ vendor := by
  constructor
  · rintro ⟨kept, hkept, hne⟩
    obtain ⟨m, hm, heq⟩ :=
      List.mem_map.1 (mem_map_fst_keepFirst_iff.1 (List.mem_map_of_mem hkept))
    obtain ⟨piece, hpiece, hread⟩ := List.mem_filterMap.1 hm
    exact ⟨piece, hpiece, m, hread, heq ▸ hne⟩
  · rintro ⟨piece, hpiece, m, hread, hne⟩
    have hm : m ∈ (Text.split ',' header.toList).filterMap readMember? :=
      List.mem_filterMap.2 ⟨piece, hpiece, hread⟩
    obtain ⟨kept, hkept, heq⟩ :=
      List.mem_map.1 (mem_map_fst_keepFirst_iff.2 (List.mem_map_of_mem hm))
    exact ⟨kept, hkept, heq ▸ hne⟩

end TraceState

namespace RequestContext

open TraceState (Stray readMember?)

/-! ## What counts for foreign -/

/-- A piece counts for the vendor's own if exactly the vendor key stands before its first equals
sign. -/
theorem isForeignEntry_cut_iff {piece key value : List Char}
    (text : Text.trim piece = key ++ '=' :: value) (equals : '=' ∉ key) :
    isForeignEntry piece = true ↔ key ≠ ['s', 'w'] := by
  have hvendor : '=' ∉ ['s', 'w'] := by decide
  rw [isForeignEntry, text, Bool.not_eq_true', ← Bool.not_eq_true, List.isPrefixOf_iff_prefix,
    not_iff_not]
  constructor
  · -- both sides are cuts of one text at its first equals sign
    rintro ⟨rest, hrest⟩
    have hcut : Text.splitFirst? '=' (key ++ '=' :: value) = some (['s', 'w'], rest) := by
      rw [← hrest]
      exact Text.splitFirst?_append hvendor rest
    rw [Text.splitFirst?_append equals, Option.some.injEq, Prod.mk.injEq] at hcut
    exact hcut.1
  · rintro rfl
    exact ⟨value, rfl⟩

theorem isForeignEntry_of_uncut {piece : List Char} (h : '=' ∉ Text.trim piece) :
    isForeignEntry piece = true := by
  rw [isForeignEntry, Bool.not_eq_true', ← Bool.not_eq_true, List.isPrefixOf_iff_prefix]
  intro hstart
  exact h (hstart.subset (by simp))

/-- A piece that counts for foreign and is read as a member is a foreign member, unless it is stray. -/
theorem foreign_or_stray {piece : List Char} (h : isForeignEntry piece = true) :
    (∃ m, readMember? piece = some m ∧ m.1 ≠ TraceState.vendorKey) ∨ Stray piece := by
  cases hcut : Text.splitFirst? '=' (Text.trim piece) with
  | none => exact Or.inr (.uncut (Text.splitFirst?_eq_none_iff.1 hcut))
  | some cut =>
    obtain ⟨key, value⟩ := cut
    obtain ⟨text, equals⟩ := Text.splitFirst?_eq_some_iff.1 hcut
    have hvendor : key ≠ ['s', 'w'] := (isForeignEntry_cut_iff text equals).1 h
    rw [TraceState.readMember?_of_cut text equals]
    split
    · next hbroken =>
      refine Or.inr (.malformed key value text equals hvendor ?_)
      simpa [or_assoc] using hbroken
    · by_cases htrimmed : Text.trim key = ['s', 'w']
      · exact Or.inr (.spaced key value text equals hvendor htrimmed)
      · refine Or.inl ⟨_, rfl, fun heq => htrimmed ?_⟩
        exact String.ofList_injective heq

/-- No foreign member starts as the vendor member does. -/
theorem isForeignEntry_of_readMember? {piece : List Char} {m : String × String}
    (h : readMember? piece = some m) (hne : m.1 ≠ TraceState.vendorKey) :
    isForeignEntry piece = true := by
  cases hcut : Text.splitFirst? '=' (Text.trim piece) with
  | none => exact isForeignEntry_of_uncut (Text.splitFirst?_eq_none_iff.1 hcut)
  | some cut =>
    obtain ⟨key, value⟩ := cut
    obtain ⟨text, equals⟩ := Text.splitFirst?_eq_some_iff.1 hcut
    rw [TraceState.readMember?_of_cut text equals, Option.ite_none_left_eq_some] at h
    obtain ⟨-, hm⟩ := h
    rw [isForeignEntry_cut_iff text equals]
    rintro rfl
    -- the vendor key has no blanks to trim, so it would be the key of the member
    apply hne
    rw [← Option.some.inj hm]
    show String.ofList (Text.trim ['s', 'w']) = TraceState.vendorKey
    decide

theorem isForeignEntry_of_stray {piece : List Char} (h : Stray piece) :
    isForeignEntry piece = true := by
  cases h with
  | uncut equals => exact isForeignEntry_of_uncut equals
  | malformed key value text equals vendor _ =>
    exact (isForeignEntry_cut_iff text equals).2 vendor
  | spaced key value text equals vendor _ => exact (isForeignEntry_cut_iff text equals).2 vendor

/-! ## When the trace state is kept -/

/-- The trace state of a request is kept as it came if a foreign member is read from it or a stray
piece stands in it. -/
theorem inboundState_extract_eq_some_iff (verify : Verifier) (c : Carrier) (value : String) :
    (extract verify c).inboundState = some value ↔
      c.get? traceStateHeader = some value ∧
        ((∃ m ∈ (TraceState.ofHeader value).entries, m.1 ≠ "sw") ∨
          ∃ piece ∈ Text.split ',' value.toList, Stray piece) := by
  have hany : (Text.split ',' value.toList).any isForeignEntry = true ↔
      (∃ m ∈ (TraceState.ofHeader value).entries, m.1 ≠ TraceState.vendorKey) ∨
        ∃ piece ∈ Text.split ',' value.toList, Stray piece := by
    rw [List.any_eq_true, TraceState.exists_foreign_ofHeader_iff]
    constructor
    · rintro ⟨piece, hpiece, hforeign⟩
      rcases foreign_or_stray hforeign with hmember | hstray
      · exact Or.inl ⟨piece, hpiece, hmember⟩
      · exact Or.inr ⟨piece, hpiece, hstray⟩
    · rintro (⟨piece, hpiece, m, hread, hne⟩ | ⟨piece, hpiece, hstray⟩)
      · exact ⟨piece, hpiece, isForeignEntry_of_readMember? hread hne⟩
      · exact ⟨piece, hpiece, isForeignEntry_of_stray hstray⟩
  show inboundState? c = some value ↔ _
  rw [inboundState?, Option.filter_eq_some_iff, hany]
  rfl

/-- Behind the comma at the end of this header stands an empty piece, so it is kept although the
vendor member is all that is read from it. -/
theorem inboundState_extract_trailingComma :
    let value := "sw=a2d8376f3cab2837-01,"
    let c := Carrier.map [("tracestate", value)]
    ¬ ((extract .presence c).inboundState = some value ↔
      c.get? traceStateHeader = some value ∧
        ∃ m ∈ (TraceState.ofHeader value).entries, m.1 ≠ "sw") ∧
    (TraceState.ofHeader value).entries = [("sw", "a2d8376f3cab2837-01")] := by
  decide +kernel

end RequestContext

end TraceSampler
