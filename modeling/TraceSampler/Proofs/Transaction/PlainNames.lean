import TraceSampler.Proofs.ExpiringCache
import TraceSampler.Proofs.Transaction.CustomNames
import TraceSampler.Proofs.Transaction.NameLimit

/-!
# Plain names

Every name that is reported is in its plain form: from 1 to 255 characters of a small alphabet. The
plain form of a name is found in two steps, by length and by character, and neither gets into the
way of the other: a name that is cut ends in points, which are plain, and the plain form of a
character is one character.

* `normalize_eq_self_iff`: a name is in its plain form just if it is plain.
* `PlainlyRegistered.step`: an event leaves plain names registered, and is answered by one.
* `run_plainNames`: what the plain form is, and that all names in a run are in it.
-/

namespace TraceSampler.Transaction

/-- The characters of plain names: small letters, digits and a few signs. -/
def plainAlphabet : List Char := "abcdefghijklmnopqrstuvwxyz0123456789-.:_\\/? ".toList

/-- A name of 1 to 255 characters of the alphabet. -/
structure Plain (s : String) : Prop where
  length_pos : 1 ≤ s.length
  length_le : s.length ≤ 255
  alphabet : ∀ c ∈ s.toList, c ∈ plainAlphabet

/-! ## Characters -/

/-- Names are written in ASCII. -/
theorem toNat_lt_of_isNameChar {c : Char} (h : isNameChar c = true) : c.toNat < 128 := by
  have hsigns : ∀ d ∈ ['-', '.', ':', '_', '\\', '/', '?', ' '], d.toNat < 128 := by simp
  simp only [isNameChar, Bool.or_eq_true, beq_iff_eq, or_assoc] at h
  rcases h with hletter | hsign
  · -- a letter or a digit is one by its place between two others
    have hplace : ((decide (65 ≤ c.val ∧ c.val ≤ 90) ||
        decide (97 ≤ c.val) && decide (c.val ≤ 122)) ||
        decide (48 ≤ c.val) && decide (c.val ≤ 57)) = true := hletter
    simp [UInt32.le_iff_toNat_le] at hplace
    omega
  · exact hsigns c (by simpa using hsign)

theorem plainChar_mem_plainAlphabet (c : Char) : plainChar c ∈ plainAlphabet := by
  have hascii : ∀ n < 128, isNameChar (Char.ofNat n) = true →
      (Char.ofNat n).toLower ∈ plainAlphabet := by decide +kernel
  unfold plainChar
  split
  · next hname =>
    have hlower := hascii c.toNat (toNat_lt_of_isNameChar hname)
    rw [Char.ofNat_toNat] at hlower
    exact hlower hname
  · decide

theorem plainChar_eq_self_iff (c : Char) : plainChar c = c ↔ c ∈ plainAlphabet := by
  constructor
  · intro h
    rw [← h]
    exact plainChar_mem_plainAlphabet c
  · intro hc
    have hfixed : plainAlphabet.all (fun d => plainChar d == d) = true := by decide +kernel
    exact eq_of_beq (List.all_eq_true.1 hfixed c hc)

/-! ## Names -/

theorem truncated_of_long {s : List Char} (h : 255 < s.length) :
    truncated s = s.take 252 ++ ellipsis := if_pos h

/-- A name of a fitting length is left alone. -/
theorem truncated_eq_self {s : List Char} (hpos : 1 ≤ s.length) (hle : s.length ≤ 255) :
    truncated s = s := by
  have hnonempty : ¬ s.isEmpty = true := by
    rw [List.isEmpty_iff_length_eq_zero]
    omega
  have hshort : ¬ s.length > maxLength := Nat.not_lt.2 hle
  rw [truncated, if_neg hshort, if_neg hnonempty]

theorem length_truncated (s : List Char) : (truncated s).length = min (max s.length 1) 255 := by
  rcases Nat.lt_or_ge 255 s.length with hlong | hle
  · have hpoints : ellipsis.length = 3 := rfl
    rw [truncated_of_long hlong, List.length_append, List.length_take, hpoints]
    omega
  · rcases Nat.eq_zero_or_pos s.length with hnone | hpos
    · rw [List.length_eq_zero_iff.1 hnone]
      rfl
    · rw [truncated_eq_self hpos hle]
      omega

theorem toList_normalize (s : String) :
    (normalize s).toList = (truncated s.toList).map plainChar := String.toList_ofList

theorem length_normalize (s : String) : (normalize s).length = min (max s.length 1) 255 := by
  rw [← String.length_toList, toList_normalize, List.length_map, length_truncated,
    String.length_toList]

theorem plain_normalize (s : String) : Plain (normalize s) where
  length_pos := by
    rw [length_normalize]
    omega
  length_le := by
    rw [length_normalize]
    omega
  alphabet := by
    intro c hc
    rw [toList_normalize] at hc
    obtain ⟨d, -, rfl⟩ := List.mem_map.1 hc
    exact plainChar_mem_plainAlphabet d

/-- A name is in its plain form just if it is plain. -/
theorem normalize_eq_self_iff (s : String) : normalize s = s ↔ Plain s := by
  constructor
  · intro h
    rw [← h]
    exact plain_normalize s
  · intro h
    have htruncated : truncated s.toList = s.toList := by
      apply truncated_eq_self
      · rw [String.length_toList]
        exact h.length_pos
      · rw [String.length_toList]
        exact h.length_le
    have hchars : s.toList.map plainChar = s.toList.map id :=
      List.map_congr_left fun c hc => (plainChar_eq_self_iff c).2 (h.alphabet c hc)
    rw [normalize, htruncated, hchars, List.map_id, String.ofList_toList]

theorem normalize_normalize (s : String) : normalize (normalize s) = normalize s :=
  (normalize_eq_self_iff _).2 (plain_normalize s)

/-- The points at the end of a name that was cut are plain already. -/
theorem ellipsis_isSuffix_normalize {s : String} (h : 255 < s.length) :
    "...".toList <:+ (normalize s).toList := by
  rw [← String.length_toList] at h
  rw [toList_normalize, truncated_of_long h, List.map_append]
  exact List.suffix_append _ _

theorem plain_overLimitName : Plain overLimitName :=
  (normalize_eq_self_iff overLimitName).1 (by decide +kernel)

theorem plain_unknownName : Plain unknownName :=
  (normalize_eq_self_iff unknownName).1 (by decide +kernel)

/-! ## The names of a run -/

namespace Namer

/-- All registered names are plain. -/
def PlainlyRegistered (n : Namer) : Prop := ∀ e ∈ n.customNames.entries, Plain e.value

/-- A name that is answered is plain. -/
def Answer.Plain : Answer → Prop
  | .name s => Transaction.Plain s
  | .registered _ | .nothing => True

/-- A derived name is in its plain form before it is judged. -/
theorem plain_of_derived? {c : NamingConfig} {n : Namer} {r : NameRequest} {s : String}
    (h : n.derived? c r = some s) : Plain s := by
  rw [derived?] at h
  split at h
  · simp at h
  · obtain ⟨source, -, rfl⟩ := Option.map_eq_some_iff.1 h
    exact plain_normalize _

theorem plain_report {s : String} (h : Plain s) (registry : Registry) :
    Plain (registry.report s).2 := by
  have hanswer : (registry.report s).2 =
      if (registry.poll.accept s).2 then s else overLimitName := rfl
  rw [hanswer]
  split
  · exact h
  · exact plain_overLimitName

/-- Where no name is derived, one is registered, or there is nothing to name the transaction by. -/
theorem name_of_derived?_eq_none {c : NamingConfig} {n : Namer} {r : NameRequest}
    (h : n.derived? c r = none) :
    (n.customNames.get r.traceId n.now).2 = some (n.name c r).2 ∨
      (n.name c r).2 = unknownName := by
  obtain ⟨customNames, found, hget⟩ : ∃ customNames found,
      n.customNames.get r.traceId n.now = (customNames, found) := ⟨_, _, rfl⟩
  cases found with
  | some registered => exact .inl (by simp [name, hget])
  | none =>
    have hsource : c.source? r = none := by simpa [derived?, hget] using h
    exact .inr (by simp [name, hget, derive, hsource])

namespace PlainlyRegistered

variable {n : Namer}

theorem plain_name (c : NamingConfig) (h : n.PlainlyRegistered) (r : NameRequest) :
    Plain (n.name c r).2 := by
  cases hderived : n.derived? c r with
  | some s =>
    rw [(name_of_derived? hderived).2]
    exact plain_report (plain_of_derived? hderived) n.registry
  | none =>
    rcases name_of_derived?_eq_none hderived with hregistered | hunknown
    · obtain ⟨e, he, -, hvalue⟩ := ExpiringCache.exists_mem_of_get hregistered
      rw [← hvalue]
      exact h e he
    · rw [hunknown]
      exact plain_unknownName

/-- Names are registered in their plain form. -/
theorem registered_step (c : NamingConfig) (h : n.PlainlyRegistered) (e : Event) :
    (Namer.step c n e).1.PlainlyRegistered := by
  rcases customNames_step_cases c n e with ⟨t, -, hread | ⟨s, hput⟩⟩ | ⟨-, hsame⟩
  · intro x hx
    rw [hread] at hx
    obtain ⟨old, hold, -, hvalue⟩ := ExpiringCache.mem_entries_get hx
    rw [← hvalue]
    exact h old hold
  · intro x hx
    rw [hput] at hx
    rcases ExpiringCache.mem_entries_put hx with rfl | hold
    · exact plain_normalize s
    · exact h x hold
  · rw [PlainlyRegistered, hsame]
    exact h

/-- An event leaves plain names registered, and is answered by a plain name if by any. -/
theorem step (c : NamingConfig) (h : n.PlainlyRegistered) (e : Event) :
    (Namer.step c n e).1.PlainlyRegistered ∧ (Namer.step c n e).2.Plain := by
  refine ⟨h.registered_step c e, ?_⟩
  cases e with
  | name r => exact h.plain_name c r
  | custom traceId s => exact trivial
  | publish limit => exact trivial
  | dropFeed => exact trivial
  | clear => exact trivial
  | reset => exact trivial
  | advance ns => exact trivial

end PlainlyRegistered

/-- The plain form of a name has from 1 to 255 characters, all of them small letters, digits and a
few signs; it ends in three points if the name was longer, and is as long as the name otherwise,
unless that was empty; and it is its own plain form. All names that a namer reports in a run are in
that form, whether derived or registered, shared by all names beyond the limit or by all that have
none, if there were no registered names to start with. -/
theorem run_plainNames (c : NamingConfig) (n : Namer) (hnew : n.customNames.entries = [])
    (events : List Event) :
    (∀ s : String, Plain (normalize s) ∧
      (255 < s.length → "...".toList <:+ (normalize s).toList) ∧
      (1 ≤ s.length → s.length ≤ 255 → (normalize s).length = s.length) ∧
      normalize (normalize s) = normalize s) ∧
    ∀ s, .name s ∈ (run c n events).2 → normalize s = s := by
  constructor
  · intro s
    refine ⟨plain_normalize s, ellipsis_isSuffix_normalize, ?_, normalize_normalize s⟩
    intro hpos hle
    rw [length_normalize]
    omega
  · intro s hs
    have hregistered : n.PlainlyRegistered := by
      intro e he
      rw [hnew] at he
      exact absurd he List.not_mem_nil
    have hanswers : ∀ answer ∈ (run c n events).2, answer.Plain :=
      (run_safe (step c) (fun _ e h => h.step c e) hregistered events).2
    exact (normalize_eq_self_iff s).2 (hanswers _ hs)

/-- Of a namer that lets one name through, the next name is beyond the limit, a blank one is no name,
and a registered one is put into plain letters. A name of 300 letters would be cut. -/
theorem run_plainNames_registered :
    let events := [Event.custom 7 "Größe, 3*4", .name (spanNamed "GET /Orders"),
      .name (spanNamed "B"), .name (spanNamed " "), .name { spanNamed "C" with traceId := 7 }]
    let n := following (some 1)
    let long := String.ofList (List.replicate 300 'A')
    n.customNames.entries = [] ∧
      (run {} n events).2 = [.registered true, .name "get /orders", .name "other",
        .name "unknown", .name "gr__e_ 3_4"] ∧
      normalize "gr__e_ 3_4" = "gr__e_ 3_4" ∧ 255 < long.length ∧
      "...".toList <:+ (normalize long).toList ∧ (normalize "ß").length = 1 := by
  intro events n long
  obtain ⟨hforms, hrun⟩ := run_plainNames {} n rfl events
  have hanswers : (run {} n events).2 = [.registered true, .name "get /orders", .name "other",
      .name "unknown", .name "gr__e_ 3_4"] := by decide +kernel
  have hlong : 255 < long.length := by
    rw [← String.length_toList, String.toList_ofList, List.length_replicate]
    decide
  obtain ⟨-, hpoints, -, -⟩ := hforms long
  obtain ⟨-, -, hlength, -⟩ := hforms "ß"
  have hregistered : normalize "gr__e_ 3_4" = "gr__e_ 3_4" := by
    apply hrun
    rw [hanswers]
    simp
  exact ⟨rfl, hanswers, hregistered, hlong, hpoints hlong, hlength (by decide) (by decide)⟩

end Namer

end TraceSampler.Transaction
