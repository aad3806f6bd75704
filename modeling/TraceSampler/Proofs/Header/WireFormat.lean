import Mathlib.Data.List.Basic
import TraceSampler.Header.TraceState
import TraceSampler.Proofs.Text

/-!
# The wire format of a trace state

Writing a trace state escapes nothing, so only some states can be read back. `WireSafe` says which:
the keys are distinct, and no key or value holds what the reader takes for a delimiter or trims.

* `wireSafe_ofHeader`: every parsed state is wire-safe.
* `ofHeader_text`: a wire-safe state is read back from its text, however long it is.
* `vendorSpan?_vendorValue`: a written vendor value names its span.
-/

namespace TraceSampler.TraceState

/-! ## Members and states that survive the wire -/

/-- A member that reads back from its text. -/
structure WireMember (m : String × String) : Prop where
  key_ne_nil : m.1.toList ≠ []
  comma_key : ',' ∉ m.1.toList
  equals_key : '=' ∉ m.1.toList
  blank_key : ∀ c ∈ m.1.toList, Text.isBlank c = false
  value_ne_nil : m.2.toList ≠ []
  comma_value : ',' ∉ m.2.toList
  trimmed_value : Text.Trimmed m.2.toList

/-- A state that reads back from its text. -/
structure WireSafe (s : TraceState) : Prop where
  nodup : s.keys.Nodup
  members : ∀ m ∈ s.entries, WireMember m

/-- Fewer members, in the same order, are as safe. -/
theorem WireSafe.of_sublist {s t : TraceState} (hs : WireSafe s)
    (h : t.entries.Sublist s.entries) : WireSafe t :=
  ⟨(h.map _).nodup hs.nodup, fun m hm => hs.members m (h.subset hm)⟩

/-- A safe member under a new key may be put in front. -/
theorem WireSafe.cons {s : TraceState} (hs : WireSafe s) {m : String × String}
    (hm : WireMember m) (hnew : m.1 ∉ s.keys) : WireSafe ⟨m :: s.entries⟩ := by
  constructor
  · simpa [keys] using ⟨by simpa [keys] using hnew, hs.nodup⟩
  · intro x hx
    rcases List.mem_cons.1 hx with rfl | hx
    · exact hm
    · exact hs.members x hx

/-! ## One member -/

theorem comma_memberText {m : String × String} (hk : ',' ∉ m.1.toList) (hv : ',' ∉ m.2.toList) :
    ',' ∉ memberText m := by
  simp [memberText, hk, hv]

theorem WireMember.comma_text {m : String × String} (h : WireMember m) : ',' ∉ memberText m :=
  comma_memberText h.comma_key h.comma_value

theorem WireMember.trimmed_text {m : String × String} (h : WireMember m) :
    Text.Trimmed (memberText m) := by
  refine Text.trimmed_append h.key_ne_nil (by simp) ?_ ?_
  · exact fun c hc => h.blank_key c (List.mem_of_mem_head? hc)
  · -- the value is not empty, so the text ends as the value does
    intro c hc
    rw [List.getLast?_cons, List.getLast?_eq_some_getLast h.value_ne_nil] at hc
    exact h.trimmed_value.last c (by simpa [List.getLast?_eq_some_getLast h.value_ne_nil] using hc)

/-- A safe member is read back from its text. -/
theorem readMember?_memberText {m : String × String} (h : WireMember m) :
    readMember? (memberText m) = some m := by
  have hcut : Text.splitFirst? '=' (memberText m) = some (m.1.toList, m.2.toList) :=
    Text.splitFirst?_append h.equals_key m.2.toList
  have hkey : Text.trim m.1.toList = m.1.toList :=
    Text.trim_eq_self (Text.trimmed_of_forall h.blank_key)
  have hvalue : Text.trim m.2.toList = m.2.toList := Text.trim_eq_self h.trimmed_value
  have hgood :
      (m.1.toList.isEmpty || m.2.toList.isEmpty || m.1.toList.any Text.isBlank) = false := by
    simpa [h.key_ne_nil, h.value_ne_nil] using h.blank_key
  simp only [readMember?, Text.trim_eq_self h.trimmed_text, hcut, hkey, hvalue, hgood]
  simp

/-- What is read as a member from a piece without a comma is safe. -/
theorem wireMember_of_readMember? {s : List Char} {m : String × String} (hs : ',' ∉ s)
    (h : readMember? s = some m) : WireMember m := by
  rw [readMember?] at h
  split at h
  · simp at h
  · next k v hcut =>
    obtain ⟨hjoin, hequals⟩ := Text.splitFirst?_eq_some_iff.1 hcut
    -- the key and the value are parts of the piece
    have hmem : ∀ c, c ∈ k ∨ c ∈ v → c ∈ s := by
      intro c hc
      apply Text.mem_of_mem_trim
      rw [hjoin]
      rcases hc with hc | hc
      · simp [hc]
      · simp [hc]
    simp only [Bool.or_eq_true, List.isEmpty_iff, List.any_eq_true, Option.ite_none_left_eq_some,
      Option.some.injEq, not_or, not_exists, not_and, Bool.not_eq_true] at h
    obtain ⟨⟨⟨hk, hv⟩, hblank⟩, rfl⟩ := h
    constructor
    · simpa using hk
    · simpa using fun hc => hs (hmem _ (Or.inl (Text.mem_of_mem_trim hc)))
    · simpa using fun hc => hequals (Text.mem_of_mem_trim hc)
    · simpa using hblank
    · simpa using hv
    · simpa using fun hc => hs (hmem _ (Or.inr (Text.mem_of_mem_trim hc)))
    · simpa using Text.trimmed_trim v

/-! ## Whole states -/

theorem toList_text (s : TraceState) :
    s.text.toList = Text.join [','] (s.entries.map memberText) := by
  simp [text]

/-- Where no member holds a comma, the pieces between the commas are the members. -/
theorem split_text {s : TraceState} (hne : s.entries ≠ [])
    (h : ∀ m ∈ s.entries, ',' ∉ memberText m) :
    Text.split ',' s.text.toList = s.entries.map memberText := by
  rw [toList_text, Text.split_join]
  · simpa using hne
  · intro p hp
    obtain ⟨m, hm, rfl⟩ := List.mem_map.1 hp
    exact h m hm

theorem keepFirst_sublist (ms : List (String × String)) : (keepFirst ms).Sublist ms := by
  induction ms with
  | nil => exact List.Sublist.refl _
  | cons m r ih =>
    obtain ⟨k, v⟩ := m
    exact List.Sublist.cons_cons _ (List.filter_sublist.trans ih)

theorem keepFirst_eq_self {ms : List (String × String)} (h : (ms.map (·.1)).Nodup) :
    keepFirst ms = ms := by
  induction ms with
  | nil => rfl
  | cons m r ih =>
    obtain ⟨k, v⟩ := m
    simp only [List.map_cons, List.nodup_cons, List.mem_map, not_exists, not_and] at h
    have hother : ∀ m ∈ r, (m.1 != k) = true := fun m hm => by simpa using h.1 m hm
    rw [keepFirst, ih h.2, List.filter_eq_self.2 hother]

/-- Every parsed state is wire-safe. -/
theorem wireSafe_ofHeader (header : String) : WireSafe (ofHeader header) := by
  refine ⟨nodup_keys_ofHeader header, ?_⟩
  intro m hm
  have hread := (keepFirst_sublist _).subset hm
  obtain ⟨piece, hpiece, hpm⟩ := List.mem_filterMap.1 hread
  exact wireMember_of_readMember? (Text.not_mem_of_mem_split hpiece) hpm

/-- A wire-safe state is read back from its text. -/
theorem ofHeader_text {s : TraceState} (h : WireSafe s) : ofHeader s.text = s := by
  obtain ⟨entries⟩ := s
  by_cases hne : entries = []
  · -- the empty text still has a piece, and no member is read from it
    subst hne
    rfl
  · have hread : (entries.map memberText).filterMap readMember? = entries := by
      rw [List.filterMap_map]
      refine (List.filterMap_congr fun m hm => ?_).trans List.filterMap_some
      exact readMember?_memberText (h.members m hm)
    rw [ofHeader, split_text hne fun m hm => (h.members m hm).comma_text, hread,
      keepFirst_eq_self h.nodup]

/-! ## The vendor member -/

/-- Every character of a vendor value is a hexadecimal digit or the hyphen. -/
theorem mem_vendorValue {spanId : BitVec 64} {sampled : Bool} {c : Char}
    (h : c ∈ (vendorValue spanId sampled).toList) : Text.Hex.isDigit c = true ∨ c = '-' := by
  simp only [vendorValue, String.toList_ofList, List.mem_append, List.mem_cons] at h
  rcases h with h | rfl | h
  · exact Or.inl (Text.Hex.isDigit_of_mem_fixed h)
  · exact Or.inr rfl
  · cases sampled <;> simp [sampledText] at h
    · subst h
      exact Or.inl rfl
    · rcases h with rfl | rfl
      · exact Or.inl rfl
      · exact Or.inl rfl

theorem wireMember_vendorValue (spanId : BitVec 64) (sampled : Bool) :
    WireMember (vendorKey, vendorValue spanId sampled) := by
  have hblank : ∀ c ∈ (vendorValue spanId sampled).toList, Text.isBlank c = false := by
    intro c hc
    rcases mem_vendorValue hc with hd | rfl
    · exact Text.Hex.isBlank_of_isDigit hd
    · rfl
  have hcomma : ',' ∉ (vendorValue spanId sampled).toList := by
    intro hc
    rcases mem_vendorValue hc with hd | hd
    · exact absurd hd (by decide)
    · exact absurd hd (by decide)
  have hkey : vendorKey.toList = ['s', 'w'] := by decide
  exact
    { key_ne_nil := by simp [hkey]
      comma_key := by simp [hkey]
      equals_key := by simp [hkey]
      blank_key := by simp [hkey]; decide
      value_ne_nil := by simp [vendorValue]
      comma_value := hcomma
      trimmed_value := Text.trimmed_of_forall hblank }

/-- A written vendor value names its span. -/
theorem vendorSpan?_vendorValue (spanId : BitVec 64) (sampled : Bool) :
    vendorSpan? (vendorValue spanId sampled) =
      some (String.ofList (Text.Hex.fixed 16 spanId.toNat)) := by
  have hspan : '-' ∉ Text.Hex.fixed 16 spanId.toNat := Text.Hex.hyphen_not_mem_fixed 16 spanId.toNat
  have hflags : '-' ∉ sampledText sampled := by cases sampled <;> decide
  have hsplit : Text.split '-' (vendorValue spanId sampled).toList =
      [Text.Hex.fixed 16 spanId.toNat, sampledText sampled] := by
    rw [vendorValue, String.toList_ofList, Text.split_append hspan,
      Text.split_eq_singleton hflags]
  have hdigits : (Text.Hex.fixed 16 spanId.toNat).all Text.Hex.isDigit = true :=
    List.all_eq_true.2 fun c hc => Text.Hex.isDigit_of_mem_fixed hc
  rw [vendorSpan?, hsplit]
  cases sampled <;> simp [hdigits, sampledText]

/-- The vendor value of every span takes the same bytes. -/
theorem utf8ByteSize_vendorValue (spanId : BitVec 64) (sampled : Bool) :
    (vendorValue spanId sampled).utf8ByteSize = 19 := by
  have hascii : ∀ c ∈ (vendorValue spanId sampled).toList, c.toNat < 0x80 := by
    intro c hc
    rcases mem_vendorValue hc with hd | rfl
    · exact Text.Hex.ascii_of_isDigit hd
    · decide
  rw [← Text.bytes_toList, Text.bytes_ascii hascii]
  cases sampled <;> simp [vendorValue, sampledText]

end TraceSampler.TraceState
