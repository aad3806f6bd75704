import TraceSampler.Proofs.Header.WireFormat
import TraceSampler.Proofs.Request.Options
import TraceSampler.Sampling.Result

/-!
# Answers in the trace state

The answer to trace options travels as a member of the trace state. Parts of it are chosen by the
client: the keys that meant nothing are named in it. It reads back all the same, for a key that
was read from a header has no blank ends, and the characters that a member must not hold are
spelled out.

* `solid_of_mem_ignored`: the keys that an answer can name.
* `solid_text`: the text of every answer starts and ends with a character that is not blank.
* `wireMember_answer`: the answer is a member that reads back.
* `wireFormat_reads_back`: the wire-safe states are those that read back, and an answer keeps a
  state wire-safe.
-/

namespace TraceSampler

/-! ## Keys that mean nothing -/

namespace TraceOptions

/-- The key of a token has no blank ends. -/
theorem trimmed_key_of_read? {s : List Char} {t : Token} (h : Token.read? s = some t) :
    Text.Trimmed t.key.toList := by
  rw [Token.read?] at h
  split at h
  · simp at h
  · split at h
    · obtain rfl := Option.some.inj h
      simpa using Text.trimmed_trim _
    · obtain rfl := Option.some.inj h
      simpa using Text.trimmed_trim s

/-- A key that means nothing is the key of its token. -/
theorem key_of_meaning_eq_unknown {t : Token} {key : String} (h : t.meaning = .unknown key) :
    key = t.key := by
  rw [Token.meaning] at h
  split at h
  · split at h
    · simp at h
    · exact (Meaning.unknown.inj h).symm
  · split at h
    · simp at h
    · split at h
      · split at h
        · simp at h
        · exact (Meaning.unknown.inj h).symm
      · split at h
        · simp at h
        · exact (Meaning.unknown.inj h).symm

/-- A token adds at most its own key to those that mean nothing. -/
theorem mem_ignored_apply {o : TraceOptions} {t : Token} {key : String}
    (h : key ∈ (o.apply t).ignored) : key ∈ o.ignored ∨ (key = t.key ∧ key.toList ≠ []) := by
  rw [apply] at h
  split at h
  · exact Or.inl h
  · exact Or.inl h
  · exact Or.inl h
  · split at h
    · exact Or.inl h
    · exact Or.inl h
  · next unknown hmeaning =>
    split at h
    · exact Or.inl h
    · next hne =>
      rcases List.mem_append.1 h with h | h
      · exact Or.inl h
      · obtain rfl := List.mem_singleton.1 h
        exact Or.inr ⟨key_of_meaning_eq_unknown hmeaning, by simpa using hne⟩

/-- What every token keeps of the keys that mean nothing, all tokens together keep. -/
theorem forall_ignored_foldl {P : String → Prop} {ts : List Token} {o : TraceOptions}
    (ho : ∀ key ∈ o.ignored, P key) (ht : ∀ t ∈ ts, t.key.toList ≠ [] → P t.key) :
    ∀ key ∈ (ts.foldl apply o).ignored, P key := by
  induction ts generalizing o with
  | nil => exact ho
  | cons t ts ih =>
    apply ih
    · intro key hkey
      rcases mem_ignored_apply hkey with hkey | ⟨rfl, hne⟩
      · exact ho key hkey
      · exact ht t (by simp) hne
    · exact fun x hx => ht x (List.mem_cons_of_mem t hx)

/-- What holds of the key of every token holds of the keys that mean nothing. -/
theorem forall_ignored_of_read? {P : String → Prop}
    (hP : ∀ {s : List Char} {t : Token}, Token.read? s = some t → t.key.toList ≠ [] → P t.key)
    {verify : Verifier} {header signature : Option String} {o : TraceOptions}
    (h : read? verify header signature = some o) : ∀ key ∈ o.ignored, P key := by
  obtain ⟨text, -, rfl⟩ := exists_of_read? h
  refine forall_ignored_foldl (by simp) ?_
  intro t ht hne
  obtain ⟨piece, -, hread⟩ := List.mem_filterMap.1 ht
  exact hP hread hne

/-- The keys that mean nothing start and end with a character that is not blank. -/
theorem solid_of_mem_ignored {verify : Verifier} {header signature : Option String}
    {o : TraceOptions} (h : read? verify header signature = some o) :
    ∀ key ∈ o.ignored, Text.Solid key.toList :=
  forall_ignored_of_read?
    (fun hread hne => Text.solid_of_trimmed hne (trimmed_key_of_read? hread)) h

end TraceOptions

/-! ## The text of an answer -/

namespace OptionsAnswer

theorem solid_triggerOutcome (t : TriggerOutcome) : Text.Solid t.name.toList := by
  cases t <;> exact Text.solid_of_all (by decide) (by decide)

theorem solid_authText {status : AuthStatus} {s : String} (h : authText? status = some s) :
    Text.Solid s.toList := by
  cases status with
  | notAuthenticated => simp [authText?] at h
  | ok =>
    obtain rfl := Option.some.inj h
    exact Text.solid_of_all (by decide) (by decide)
  | failure reason =>
    obtain rfl := Option.some.inj h
    cases reason <;> exact Text.solid_of_all (by decide) (by decide)

/-- Keys and values of an answer are solid, if the keys that it names are. -/
theorem solid_of_mem_pairs {α : Type} {o : TraceOptions} (v : Quota.Verdict α) (isNewTrace : Bool)
    (h : ∀ key ∈ o.ignored, Text.Solid key.toList) {pair : String × String}
    (hpair : pair ∈ (of o v isNewTrace).pairs) :
    Text.Solid pair.1.toList ∧ Text.Solid pair.2.toList := by
  rw [pairs, List.mem_append, List.mem_append] at hpair
  rcases hpair with (hpair | hpair) | hpair
  · obtain ⟨s, hs, rfl⟩ : ∃ s, authText? o.auth = some s ∧ ("auth", s) = pair := by
      simpa [of] using hpair
    have hkey : Text.Solid "auth".toList := Text.solid_of_all (by decide) (by decide)
    exact ⟨hkey, solid_authText hs⟩
  · obtain rfl := List.mem_singleton.1 hpair
    have hkey : Text.Solid "trigger-trace".toList := Text.solid_of_all (by decide) (by decide)
    exact ⟨hkey, solid_triggerOutcome _⟩
  · split at hpair
    · simp at hpair
    · next hne =>
      obtain rfl := List.mem_singleton.1 hpair
      have hkey : Text.Solid "ignored".toList := Text.solid_of_all (by decide) (by decide)
      have hkeys : ∀ p ∈ o.ignored.map String.toList, Text.Solid p := by simpa using h
      have hjoin : Text.Solid (Text.join [','] (o.ignored.map String.toList)) :=
        Text.Solid.join [','] (by simpa [of] using hne) hkeys
      exact ⟨hkey, by simpa [Text.joinWith, of] using hjoin⟩

/-- The text of every answer to parsed options starts and ends with a character that is not
blank. -/
theorem solid_text {α : Type} {o : TraceOptions} (v : Quota.Verdict α) (isNewTrace : Bool)
    (h : ∀ key ∈ o.ignored, Text.Solid key.toList) :
    Text.Solid (of o v isNewTrace).text.toList := by
  rw [text, Text.joinWith, String.toList_ofList]
  apply Text.Solid.join
  · simp [pairs]
  · intro p hp
    simp only [List.map_map, List.mem_map, Function.comp_apply] at hp
    obtain ⟨pair, hpair, rfl⟩ := hp
    obtain ⟨hkey, hvalue⟩ := solid_of_mem_pairs v isNewTrace h hpair
    simpa using hkey.append ['='] hvalue

/-- The spelling of a character that is not blank holds none that is. -/
theorem solid_sanitizeChar {c : Char} (h : Text.isBlank c = false) :
    Text.Solid (sanitizeChar c) := by
  apply Text.solid_of_trimmed
  · unfold sanitizeChar
    split
    · simp
    · split <;> simp
  · apply Text.trimmed_of_forall
    intro x hx
    unfold sanitizeChar at hx
    split at hx
    · have hx' : x = '#' := by simpa using hx
      exact hx' ▸ rfl
    · split at hx
      · have hx' : x = '.' := by simpa using hx
        exact hx' ▸ rfl
      · have hx' : x = c := by simpa using hx
        exact hx' ▸ h

/-- The answer to options is a member that reads back. -/
theorem wireMember_answer {α : Type} {o : TraceOptions} (v : Quota.Verdict α) (isNewTrace : Bool)
    (h : ∀ key ∈ o.ignored, Text.Solid key.toList) :
    TraceState.WireMember (TraceState.responseKey, sanitize (of o v isNewTrace).text) := by
  have hsolid : Text.Solid (sanitized (of o v isNewTrace).text.toList) :=
    (solid_text v isNewTrace h).flatMap fun c hc => solid_sanitizeChar hc
  have hkey : TraceState.responseKey.toList ≠ [] ∧ ',' ∉ TraceState.responseKey.toList ∧
      '=' ∉ TraceState.responseKey.toList ∧
      TraceState.responseKey.toList.all (fun c => !Text.isBlank c) = true := by decide
  have hvalue : (sanitize (of o v isNewTrace).text).toList =
      sanitized (of o v isNewTrace).text.toList := by
    rw [sanitize, String.toList_ofList]
  exact
    { key_ne_nil := hkey.1
      comma_key := hkey.2.1
      equals_key := hkey.2.2.1
      blank_key := by simpa using hkey.2.2.2
      value_ne_nil := hvalue ▸ hsolid.ne_nil
      comma_value := hvalue ▸ comma_not_mem_sanitized _
      trimmed_value := hvalue ▸ hsolid.trimmed }

end OptionsAnswer

/-! ## States with an answer -/

namespace TraceState

/-- A state keeps wire-safe when a safe member is set. -/
theorem WireSafe.insert {s : TraceState} (hs : WireSafe s) {key value : String}
    (h : WireMember (key, value)) : WireSafe (s.insert key value) := by
  have hsublist : (s.erase key).entries.Sublist s.entries := by
    rw [entries_erase]
    exact List.eraseP_sublist
  refine (hs.of_sublist hsublist).cons h ?_
  simp [keys, entries_erase_of_nodup hs.nodup]

/-- The states that read back from their text are the wire-safe ones, and so is every state that
was read. The answer to the options of a request keeps a state wire-safe, whatever the client put
into its options. -/
theorem wireFormat_reads_back {α : Type} :
    (∀ header, WireSafe (ofHeader header)) ∧
    (∀ s : TraceState, ofHeader s.text = s ↔ WireSafe s) ∧
    ∀ (parent : TraceState), WireSafe parent →
      ∀ (verify : Verifier) (header signature : Option String) (v : Quota.Verdict α)
        (isNewTrace : Bool) (r : SamplingResult) (additional : Attributes),
        let options := TraceOptions.read? verify header signature
        let answer := options.map fun o => (OptionsAnswer.of o v isNewTrace).text
        let state := (r.wrap additional answer).traceState parent
        WireSafe state ∧ ofHeader state.text = state := by
  refine ⟨wireSafe_ofHeader, ?_, ?_⟩
  · intro s
    constructor
    · intro h
      rw [← h]
      exact wireSafe_ofHeader s.text
    · exact ofHeader_text
  · intro parent hparent verify header signature v isNewTrace r additional options answer state
    have hstate : WireSafe state := by
      cases hread : TraceOptions.read? verify header signature with
      | none =>
        -- nothing was asked, so nothing is answered
        have hsame : state = parent := by
          simp [state, answer, options, hread, SamplingResult.wrap, SamplingResult.traceState]
        rw [hsame]
        exact hparent
      | some o =>
        have hinsert : state = parent.insert responseKey
            (OptionsAnswer.sanitize (OptionsAnswer.of o v isNewTrace).text) := by
          simp [state, answer, options, hread, SamplingResult.wrap, SamplingResult.traceState]
        rw [hinsert]
        exact hparent.insert
          (OptionsAnswer.wireMember_answer v isNewTrace (TraceOptions.solid_of_mem_ignored hread))
    exact ⟨hstate, ofHeader_text hstate⟩

/-- A client that puts a comma, blanks and an unreadable time into its options. -/
theorem wireFormat_reads_back_ignoredKeys :
    let parent := ofHeader "congo=t61=rc"
    let header := some " a,b =1;; é ö ;ts=soon"
    let options := TraceOptions.read? Verifier.presence header none
    let verdict : Quota.Verdict Float := .withoutSettings .regular
    let answer := options.map fun o => (OptionsAnswer.of o verdict true).text
    let state := (SamplingResult.notTraced.wrap {} answer).traceState parent
    WireSafe parent ∧
      state.text = "xtrace_options_response=trigger-trace####not-requested;" ++
        "ignored####a....b....é ö....ts,congo=t61=rc" ∧
      WireSafe state ∧ ofHeader state.text = state := by
  intro parent header options verdict answer state
  have hparent : WireSafe parent := wireSafe_ofHeader _
  have htext : state.text = "xtrace_options_response=trigger-trace####not-requested;" ++
      "ignored####a....b....é ö....ts,congo=t61=rc" := by decide +kernel
  have hstate := wireFormat_reads_back.2.2 parent hparent Verifier.presence header none verdict true
    SamplingResult.notTraced {}
  exact ⟨hparent, htext, hstate⟩

end TraceState

end TraceSampler
