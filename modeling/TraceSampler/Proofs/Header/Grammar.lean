import TraceSampler.Header.Exchange
import TraceSampler.Proofs.Header.TraceParent
import TraceSampler.Proofs.Text.Hex

/-!
# Which trace parent headers are accepted

The form of the header is a grammar: fields of hexadecimal digits in their places, with hyphens
between them. Beyond the form, an accepted header has no forbidden version, ends with the flags in
the first version, and identifies something. The digits stand in either case, and their case makes
a difference in one place only: the forbidden version is known by its two spellings in letters of
one case.

* `fields?_eq_some_iff`: the reader cuts exactly the headers of the grammar.
* `read_eq_ok_iff`: which headers are accepted, and what identity they convey.
* `SameDigits.toOption_read`: the case of the digits makes no difference for other versions.
* `isSome_span_extract_iff`: which requests continue a span.
* `isSome_span_extract_mixedCase`: the forbidden version in letters of both cases.
-/

namespace TraceSampler

namespace TraceParent

/-! ## The form of a header -/

/-- So many hexadecimal digits, in either case. -/
structure IsField (width : Nat) (s : List Char) : Prop where
  length : s.length = width
  digits : ∀ c ∈ s, c ∈ Text.Hex.digits

/-- The fields of a header stand in their places, with hyphens between them. -/
structure Written (s : List Char) (f : Fields) : Prop where
  text : s = f.version ++ '-' :: (f.trace ++ '-' :: (f.span ++ '-' :: (f.flags ++ f.tail)))
  version : IsField 2 f.version
  trace : IsField 32 f.trace
  span : IsField 16 f.span
  flags : IsField 2 f.flags
  /-- Nothing, or a hyphen and the rest of the line. -/
  tail : f.tail = [] ∨ ∃ rest, f.tail = '-' :: rest ∧ '\n' ∉ rest

theorem IsField.isDigit {width : Nat} {s : List Char} (h : IsField width s) :
    ∀ c ∈ s, Text.Hex.isDigit c = true :=
  fun c hc => Text.Hex.isDigit_iff_mem_digits.2 (h.digits c hc)

theorem takeHex?_eq_some_iff {width : Nat} {s digits rest : List Char} :
    takeHex? width s = some (digits, rest) ↔ s = digits ++ rest ∧ IsField width digits := by
  constructor
  · intro h
    unfold takeHex? at h
    simp only [Option.ite_none_right_eq_some, Bool.and_eq_true, beq_iff_eq, List.all_eq_true,
      Option.some.injEq, Prod.mk.injEq] at h
    obtain ⟨⟨hlength, hdigits⟩, rfl, rfl⟩ := h
    have hfield : IsField width (s.take width) :=
      ⟨hlength, fun c hc => Text.Hex.isDigit_iff_mem_digits.1 (hdigits c hc)⟩
    exact ⟨(List.take_append_drop width s).symm, hfield⟩
  · rintro ⟨rfl, hfield⟩
    exact takeHex?_append hfield.length hfield.isDigit rest

theorem dropHyphen?_eq_some_iff {s rest : List Char} :
    dropHyphen? s = some rest ↔ s = '-' :: rest := by
  unfold dropHyphen?
  split
  · simp [eq_comm]
  · next hother =>
    simp only [reduceCtorEq, false_iff]
    exact hother rest

theorem isTail_iff {s : List Char} :
    isTail s = true ↔ s = [] ∨ ∃ rest, s = '-' :: rest ∧ '\n' ∉ rest := by
  unfold isTail
  split
  · simp
  · simp
  · next hnil hhyphen =>
    simp only [Bool.false_eq_true, false_iff, not_or, not_exists, not_and]
    exact ⟨hnil, fun rest hrest => absurd hrest (hhyphen rest)⟩

/-- The reader cuts exactly the headers of the grammar, and cuts them where they were joined. -/
theorem fields?_eq_some_iff {s : List Char} {f : Fields} : fields? s = some f ↔ Written s f := by
  constructor
  · intro h
    simp only [fields?, Option.bind_eq_bind, Option.bind_eq_some_iff, Prod.exists,
      takeHex?_eq_some_iff, dropHyphen?_eq_some_iff, Option.ite_none_right_eq_some,
      isTail_iff, Option.some.injEq] at h
    obtain ⟨version, s₁, ⟨rfl, hversion⟩, s₂, rfl, trace, s₃, ⟨rfl, htrace⟩, s₄, rfl, span, s₅,
      ⟨rfl, hspan⟩, s₆, rfl, flags, tail, ⟨rfl, hflags⟩, htail, rfl⟩ := h
    exact ⟨rfl, hversion, htrace, hspan, hflags, htail⟩
  · intro h
    have hversion := takeHex?_append h.version.length h.version.isDigit
    have htrace := takeHex?_append h.trace.length h.trace.isDigit
    have hspan := takeHex?_append h.span.length h.span.isDigit
    have hflags := takeHex?_append h.flags.length h.flags.isDigit
    have htail : isTail f.tail = true := isTail_iff.2 h.tail
    rw [h.text]
    simp [fields?, hversion, dropHyphen?, htrace, hspan, hflags, htail]

/-! ## Numbers in a header -/

/-- The number of a run of digits is the one that reading them gives. -/
theorem readFrom_eq_some_number {width : Nat} {s : List Char} (h : IsField width s) :
    Text.Hex.readFrom 0 s = some (number s) ∧ number s < Text.Hex.room width ∧
      Text.Hex.fixed width (number s) = s.map Char.toLower := by
  obtain ⟨n, hroom, hread, hwritten⟩ := Text.Hex.exists_readFrom h.isDigit
  have hnumber : number s = n := by
    cases s with
    | nil => simpa [number, Text.Hex.read?, Text.Hex.readFrom] using hread
    | cons c r => simp [number, Text.Hex.read?, hread]
  rw [hnumber, ← h.length]
  exact ⟨hread, hroom, hwritten⟩

/-- Digits denote zero if they are all zeros. -/
theorem number_eq_zero_iff {width : Nat} {s : List Char} (h : IsField width s) :
    number s = 0 ↔ ∀ c ∈ s, c = '0' := by
  have hzero : Text.Hex.readFrom 0 s = some 0 ↔ ∀ c ∈ s, c = '0' := by
    rw [Text.Hex.readFrom_eq_zero_iff]
    simp
  rw [← hzero, (readFrom_eq_some_number h).1, Option.some.injEq]

theorem number_ne_zero_iff {width : Nat} {s : List Char} (h : IsField width s) :
    number s ≠ 0 ↔ ∃ c ∈ s, c ≠ '0' := by
  rw [Ne, number_eq_zero_iff h]
  simp

/-! ## What an accepted header conveys -/

/-- What an accepted header has beyond its form. -/
structure Conveys (f : Fields) : Prop where
  /-- The version is not the forbidden one in letters of one case. -/
  version : f.version ≠ ['f', 'f'] ∧ f.version ≠ ['F', 'F']
  /-- The first version ends with the flags. -/
  tail : f.version = ['0', '0'] → f.tail = []
  trace : ∃ c ∈ f.trace, c ≠ '0'
  span : ∃ c ∈ f.span, c ≠ '0'

/-- The identity that the fields of a header denote. -/
def Fields.identity (f : Fields) : TraceParent :=
  { traceId := BitVec.ofNat 128 (number f.trace)
    spanId := BitVec.ofNat 64 (number f.span)
    flags := BitVec.ofNat 8 (number f.flags) }

theorem isForbiddenVersion_eq_false_iff {version : List Char} :
    isForbiddenVersion version = false ↔ version ≠ ['f', 'f'] ∧ version ≠ ['F', 'F'] := by
  simp [isForbiddenVersion]

theorem not_tailInFirstVersion_iff {f : Fields} :
    (isFirstVersion f.version && !f.tail.isEmpty) = false ↔
      (f.version = ['0', '0'] → f.tail = []) := by
  simp [isFirstVersion]

/-- Which headers are accepted, and what identity they convey. -/
theorem read_eq_ok_iff {s : List Char} {p : TraceParent} :
    read s = .ok p ↔ ∃ f, Written s f ∧ Conveys f ∧ p = f.identity := by
  constructor
  · intro h
    unfold read at h
    split at h
    · cases h
    · next f hfields =>
      have hwritten : Written s f := fields?_eq_some_iff.1 hfields
      -- every check but the last ends the reading, so an accepted header passes them all
      split_ifs at h with hversion htail htrace hspan
      rw [Bool.not_eq_true] at hversion htail
      have hconveys : Conveys f :=
        { version := isForbiddenVersion_eq_false_iff.1 hversion
          tail := not_tailInFirstVersion_iff.1 htail
          trace := (number_ne_zero_iff hwritten.trace).1 htrace
          span := (number_ne_zero_iff hwritten.span).1 hspan }
      exact ⟨f, hwritten, hconveys, (Except.ok.inj h).symm⟩
  · rintro ⟨f, hwritten, hconveys, rfl⟩
    have hversion := isForbiddenVersion_eq_false_iff.2 hconveys.version
    have htail := not_tailInFirstVersion_iff.2 hconveys.tail
    have htrace := (number_ne_zero_iff hwritten.trace).2 hconveys.trace
    have hspan := (number_ne_zero_iff hwritten.span).2 hconveys.span
    rw [read, fields?_eq_some_iff.2 hwritten]
    simp [hversion, htail, htrace, hspan, Fields.identity]

theorem Written.unique {s : List Char} {f g : Fields} (hf : Written s f) (hg : Written s g) :
    f = g := by
  have hfields : some f = some g :=
    (fields?_eq_some_iff.2 hf).symm.trans (fields?_eq_some_iff.2 hg)
  exact Option.some.inj hfields

theorem toOption_read_eq_ok_iff {s : List Char} {p : TraceParent} :
    (read s).toOption = some p ↔ read s = .ok p := by
  cases read s with
  | error e => simp [Except.toOption]
  | ok q => simp [Except.toOption]

/-- What is read of a header whose fields are known. -/
theorem toOption_read_eq_some_iff {s : List Char} {f : Fields} (h : Written s f)
    {p : TraceParent} : (read s).toOption = some p ↔ Conveys f ∧ p = f.identity := by
  rw [toOption_read_eq_ok_iff, read_eq_ok_iff]
  constructor
  · rintro ⟨g, hg, hconveys, hp⟩
    obtain rfl := h.unique hg
    exact ⟨hconveys, hp⟩
  · rintro ⟨hconveys, hp⟩
    exact ⟨f, h, hconveys, hp⟩

theorem read_eq_error_of_fields? {s : List Char} (h : fields? s = none) :
    read s = .error .malformed := by
  rw [read, h]

/-! ## Digits in either case -/

open Text.Hex (lowerDigit)

/-- The fields with their digits in lower case. -/
def Fields.lowered (f : Fields) : Fields :=
  { version := f.version.map lowerDigit
    trace := f.trace.map lowerDigit
    span := f.span.map lowerDigit
    flags := f.flags.map lowerDigit
    tail := f.tail.map lowerDigit }

theorem takeHex?_map_lowerDigit (width : Nat) (s : List Char) :
    takeHex? width (s.map lowerDigit) =
      (takeHex? width s).map (Prod.map (List.map lowerDigit) (List.map lowerDigit)) := by
  have hdigits : ∀ t : List Char,
      (t.map lowerDigit).all Text.Hex.isDigit = t.all Text.Hex.isDigit := by
    intro t
    simp [List.all_map, Function.comp_def]
  unfold takeHex?
  simp only [← List.map_take, ← List.map_drop, List.length_map, hdigits]
  split
  · rfl
  · rfl

/-- A hyphen in front is found in either case. -/
theorem dropHyphen?_map_lowerDigit (s : List Char) :
    dropHyphen? (s.map lowerDigit) = (dropHyphen? s).map (List.map lowerDigit) := by
  have hhyphen : '-' ∉ Text.Hex.letters := by decide
  apply Option.ext
  intro rest
  simp only [dropHyphen?_eq_some_iff, Option.map_eq_some_iff, List.map_eq_cons_iff,
    Text.Hex.lowerDigit_eq_iff hhyphen]
  constructor
  · rintro ⟨c, r, rfl, rfl, rfl⟩
    exact ⟨r, rfl, rfl⟩
  · rintro ⟨r, rfl, rfl⟩
    exact ⟨'-', r, rfl, rfl, rfl⟩

theorem isTail_map_lowerDigit (s : List Char) : isTail (s.map lowerDigit) = isTail s := by
  have hhyphen : '-' ∉ Text.Hex.letters := by decide
  have hfeed : '\n' ∉ Text.Hex.letters := by decide
  rw [Bool.eq_iff_iff, isTail_iff, isTail_iff]
  constructor
  · rintro (hnil | ⟨rest, hrest, hline⟩)
    · exact Or.inl (List.map_eq_nil_iff.1 hnil)
    · obtain ⟨c, r, rfl, hc, rfl⟩ := List.map_eq_cons_iff.1 hrest
      obtain rfl := (Text.Hex.lowerDigit_eq_iff hhyphen).1 hc
      refine Or.inr ⟨r, rfl, fun hmem => hline (List.mem_map.2 ⟨'\n', hmem, ?_⟩)⟩
      exact (Text.Hex.lowerDigit_eq_iff hfeed).2 rfl
  · rintro (rfl | ⟨r, rfl, hline⟩)
    · exact Or.inl rfl
    · refine Or.inr ⟨r.map lowerDigit, ?_, ?_⟩
      · rw [List.map_cons, (Text.Hex.lowerDigit_eq_iff hhyphen).2 rfl]
      · intro hmem
        obtain ⟨c, hc, heq⟩ := List.mem_map.1 hmem
        obtain rfl := (Text.Hex.lowerDigit_eq_iff hfeed).1 heq
        exact hline hc

/-- A header in lower case is cut where the header itself is. -/
theorem fields?_map_lowerDigit (s : List Char) :
    fields? (s.map lowerDigit) = (fields? s).map Fields.lowered := by
  simp only [fields?, takeHex?_map_lowerDigit, dropHyphen?_map_lowerDigit, isTail_map_lowerDigit,
    Option.bind_eq_bind, Option.map_bind, Option.bind_map, Function.comp_def, Prod.map,
    apply_ite (Option.map Fields.lowered), Option.map_some, Option.map_none, Fields.lowered]

/-- The case of the digits makes no difference to the identity. -/
theorem identity_lowered (f : Fields) : f.lowered.identity = f.identity := by
  have hnumber : ∀ s : List Char, number (s.map lowerDigit) = number s := by
    intro s
    cases s with
    | nil => rfl
    | cons c r =>
      have hread := Text.Hex.readFrom_map_lowerDigit 0 (c :: r)
      rw [List.map_cons] at hread
      rw [number, number, List.map_cons, Text.Hex.read?, hread, Text.Hex.read?]
  simp [Fields.identity, Fields.lowered, hnumber]

/-- The version is the forbidden one in letters of either case. -/
def SpellsForbidden (f : Fields) : Prop := Text.asciiLower f.version = ['f', 'f']

instance (f : Fields) : Decidable (SpellsForbidden f) := inferInstanceAs (Decidable (_ = _))

theorem asciiLower_eq_map_lowerDigit {width : Nat} {s : List Char} (h : IsField width s) :
    Text.asciiLower s = s.map lowerDigit := by
  apply List.map_congr_left
  intro c hc
  exact (Text.Hex.lowerDigit_of_isDigit (h.isDigit c hc)).symm

theorem asciiLower_map_lowerDigit {width : Nat} {s : List Char} (h : IsField width s) :
    Text.asciiLower (s.map lowerDigit) = Text.asciiLower s := by
  rw [← asciiLower_eq_map_lowerDigit h, Text.asciiLower, Text.asciiLower, List.map_map]
  apply List.map_congr_left
  intro c hc
  exact Text.Hex.toLower_toLower_of_isDigit (h.isDigit c hc)

theorem exists_ne_zero_map_lowerDigit_iff {s : List Char} :
    (∃ c ∈ s.map lowerDigit, c ≠ '0') ↔ ∃ c ∈ s, c ≠ '0' := by
  have hzero : '0' ∉ Text.Hex.letters := by decide
  simp [Text.Hex.lowerDigit_eq_iff hzero]

theorem allowed_of_asciiLower_ne {version : List Char}
    (h : Text.asciiLower version ≠ ['f', 'f']) : version ≠ ['f', 'f'] ∧ version ≠ ['F', 'F'] := by
  constructor
  · rintro rfl
    exact h rfl
  · rintro rfl
    exact h rfl

theorem spellsForbidden_lowered_iff {s : List Char} {f : Fields} (hf : Written s f) :
    SpellsForbidden f.lowered ↔ SpellsForbidden f := by
  rw [SpellsForbidden, SpellsForbidden, Fields.lowered, asciiLower_map_lowerDigit hf.version]

/-- The checks of a header give the same in lower case, unless its version is the forbidden one. -/
theorem conveys_lowered_iff {s : List Char} {f : Fields} (hf : Written s f)
    (hversion : ¬ SpellsForbidden f) : Conveys f.lowered ↔ Conveys f := by
  have hlowered : ¬ SpellsForbidden f.lowered := by
    rw [spellsForbidden_lowered_iff hf]
    exact hversion
  have hzero : '0' ∉ Text.Hex.letters := by decide
  have hfirst : f.lowered.version = ['0', '0'] ↔ f.version = ['0', '0'] :=
    Text.Hex.map_lowerDigit_eq_iff (by simp [hzero])
  have htail : f.lowered.tail = [] ↔ f.tail = [] := List.map_eq_nil_iff
  constructor
  · intro h
    exact
      { version := allowed_of_asciiLower_ne hversion
        tail := fun hf => htail.1 (h.tail (hfirst.2 hf))
        trace := exists_ne_zero_map_lowerDigit_iff.1 h.trace
        span := exists_ne_zero_map_lowerDigit_iff.1 h.span }
  · intro h
    exact
      { version := allowed_of_asciiLower_ne hlowered
        tail := fun hf => htail.2 (h.tail (hfirst.1 hf))
        trace := exists_ne_zero_map_lowerDigit_iff.2 h.trace
        span := exists_ne_zero_map_lowerDigit_iff.2 h.span }

/-- Headers with the same fields in lower case convey the same identity or are both refused, unless
their version is the forbidden one. -/
theorem toOption_read_eq_of_lowered_eq {s t : List Char} {f g : Fields} (hf : Written s f)
    (hg : Written t g) (hlowered : g.lowered = f.lowered) (hversion : ¬ SpellsForbidden f) :
    (read s).toOption = (read t).toOption := by
  have hother : ¬ SpellsForbidden g := by
    rw [← spellsForbidden_lowered_iff hg, hlowered, spellsForbidden_lowered_iff hf]
    exact hversion
  have hconveys : Conveys f ↔ Conveys g := by
    rw [← conveys_lowered_iff hf hversion, ← hlowered, conveys_lowered_iff hg hother]
  have hidentity : f.identity = g.identity := by
    rw [← identity_lowered f, ← hlowered, identity_lowered g]
  apply Option.ext
  intro p
  rw [toOption_read_eq_some_iff hf, toOption_read_eq_some_iff hg, hconveys, hidentity]

/-- Two headers that differ at most in the case of their digits. -/
def SameDigits (s t : List Char) : Prop := s.map lowerDigit = t.map lowerDigit

/-- Two headers with the same digits convey the same identity or are both refused, unless their
version is the forbidden one and one of its spellings is known. -/
theorem SameDigits.toOption_read {s t : List Char} (h : SameDigits s t) :
    (read s).toOption = (read t).toOption ∨
      (∃ f, Written s f ∧ SpellsForbidden f) ∧
        ((read s).toOption = none ∨ (read t).toOption = none) := by
  have hfields : (fields? s).map Fields.lowered = (fields? t).map Fields.lowered := by
    rw [← fields?_map_lowerDigit, ← fields?_map_lowerDigit, h]
  cases hs : fields? s with
  | none =>
    have ht : fields? t = none := by simpa [hs] using hfields.symm
    rw [read_eq_error_of_fields? hs, read_eq_error_of_fields? ht]
    exact Or.inl rfl
  | some f =>
    obtain ⟨g, ht, hlowered⟩ : ∃ g, fields? t = some g ∧ g.lowered = f.lowered := by
      simpa [hs] using hfields.symm
    have hf : Written s f := fields?_eq_some_iff.1 hs
    have hg : Written t g := fields?_eq_some_iff.1 ht
    by_cases hforbidden : SpellsForbidden f
    · -- accepted headers still agree, and one that is refused is the exception
      cases hp : (read s).toOption with
      | none => exact Or.inr ⟨⟨f, hf, hforbidden⟩, Or.inl rfl⟩
      | some p =>
        cases hq : (read t).toOption with
        | none => exact Or.inr ⟨⟨f, hf, hforbidden⟩, Or.inr rfl⟩
        | some q =>
          have hpf : p = f.identity := ((toOption_read_eq_some_iff hf).1 hp).2
          have hqg : q = g.identity := ((toOption_read_eq_some_iff hg).1 hq).2
          rw [hpf, hqg, ← identity_lowered f, ← hlowered, identity_lowered g]
          exact Or.inl rfl
    · exact Or.inl (toOption_read_eq_of_lowered_eq hf hg hlowered hforbidden)

/-- Trimming takes the same from both. -/
theorem SameDigits.trim {s t : List Char} (h : SameDigits s t) :
    SameDigits (Text.trim s) (Text.trim t) := by
  rw [SameDigits, ← Text.Hex.trim_map_lowerDigit, h, Text.Hex.trim_map_lowerDigit]

end TraceParent

/-! ## The span that a request continues -/

/-- What identifies a span, without the trace state beside it. -/
def SpanContext.identity (s : SpanContext) : TraceParent :=
  { traceId := s.traceId, spanId := s.spanId, flags := s.flags }

namespace RequestContext

open TraceParent (Written Conveys SpellsForbidden SameDigits)

theorem span_extract_of_get?_eq_none (verify : Verifier) {c : Carrier}
    (h : c.get? traceParentHeader = none) : (extract verify c).span = none := by
  simp [extract, span?, traceParent?, h]

/-- A request continues the span that its trace parent conveys. -/
theorem identity_span_extract (verify : Verifier) {c : Carrier} {value : String}
    (h : c.get? traceParentHeader = some value) :
    (extract verify c).span.map SpanContext.identity =
      (TraceParent.read (Text.trim value.toList)).toOption := by
  simp only [extract, span?, traceParent?, h, Option.map_some]
  cases TraceParent.read (Text.trim value.toList) with
  | error e => rfl
  | ok p => rfl

/-- A request continues a span if its trace parent has the form of such a header and conveys an
identity. Two headers that differ at most in the case of their digits convey the same identity or
are both refused, unless their version is the forbidden one and one of its spellings is known. -/
theorem isSome_span_extract_iff (verify : Verifier) :
    (∀ c : Carrier, (extract verify c).span.isSome = true ↔
      ∃ value f, c.get? traceParentHeader = some value ∧ Written (Text.trim value.toList) f ∧
        Conveys f) ∧
    ∀ (c d : Carrier) (v w : String), c.get? traceParentHeader = some v →
      d.get? traceParentHeader = some w → SameDigits v.toList w.toList →
      (extract verify c).span.map SpanContext.identity =
          (extract verify d).span.map SpanContext.identity ∨
        (∃ f, Written (Text.trim v.toList) f ∧ SpellsForbidden f) ∧
          ((extract verify c).span = none ∨ (extract verify d).span = none) := by
  constructor
  · intro c
    cases hget : c.get? traceParentHeader with
    | none => simp [span_extract_of_get?_eq_none verify hget]
    | some value =>
      have hidentity := identity_span_extract verify hget
      rw [← Option.isSome_map (f := SpanContext.identity), hidentity, Option.isSome_iff_exists]
      constructor
      · rintro ⟨p, hp⟩
        obtain ⟨f, hwritten, hconveys, -⟩ :=
          TraceParent.read_eq_ok_iff.1 (TraceParent.toOption_read_eq_ok_iff.1 hp)
        exact ⟨value, f, rfl, hwritten, hconveys⟩
      · rintro ⟨v, f, hv, hwritten, hconveys⟩
        obtain rfl := Option.some.inj hv
        exact ⟨f.identity, (TraceParent.toOption_read_eq_some_iff hwritten).2 ⟨hconveys, rfl⟩⟩
  · intro c d v w hv hw hsame
    have hc := identity_span_extract verify hv
    have hd := identity_span_extract verify hw
    rw [hc, hd]
    rcases hsame.trim.toOption_read with heq | ⟨hspells, hnone⟩
    · exact Or.inl heq
    · refine Or.inr ⟨hspells, ?_⟩
      rw [← hc, ← hd, Option.map_eq_none_iff, Option.map_eq_none_iff] at hnone
      exact hnone

/-- Capitals and small letters convey the same identity. -/
theorem isSome_span_extract_iff_capitals :
    let v := "00-80F198EE56343BA864FE8B2A57D3EFF7-00F067AA0BA902B7-0B "
    let w := "00-80f198ee56343ba864fe8b2a57d3eff7-00f067aa0ba902b7-0b "
    let c := Carrier.map [("Traceparent", v)]
    let d := Carrier.document (.object [("traceparent", .text w)])
    (c.get? traceParentHeader = some v ∧ d.get? traceParentHeader = some w ∧
      SameDigits v.toList w.toList ∧ (extract .presence c).span.isSome = true) ∧
    ((extract .presence c).span.isSome = true ↔
      ∃ value f, c.get? traceParentHeader = some value ∧ Written (Text.trim value.toList) f ∧
        Conveys f) ∧
    ((extract .presence c).span.map SpanContext.identity =
        (extract .presence d).span.map SpanContext.identity ∨
      (∃ f, Written (Text.trim v.toList) f ∧ SpellsForbidden f) ∧
        ((extract .presence c).span = none ∨ (extract .presence d).span = none)) := by
  intro v w c d
  have hv : c.get? traceParentHeader = some v := by decide +kernel
  have hw : d.get? traceParentHeader = some w := by decide +kernel
  have hsame : SameDigits v.toList w.toList := by unfold SameDigits; decide +kernel
  have haccepted : (extract .presence c).span.isSome = true := by decide +kernel
  exact ⟨⟨hv, hw, hsame, haccepted⟩, (isSome_span_extract_iff .presence).1 c,
    (isSome_span_extract_iff .presence).2 c d v w hv hw hsame⟩

/-- In letters of both cases the forbidden version is not known: the header is accepted, and the
same header in capitals is refused. -/
theorem isSome_span_extract_mixedCase :
    let v := "fF-80f198ee56343ba864fe8b2a57d3eff7-00f067aa0ba902b7-01"
    let w := "FF-80f198ee56343ba864fe8b2a57d3eff7-00f067aa0ba902b7-01"
    let c := Carrier.map [("traceparent", v)]
    let d := Carrier.map [("traceparent", w)]
    ¬ ((extract .presence c).span.isSome = true ↔
      ∃ value f, c.get? traceParentHeader = some value ∧ Written (Text.trim value.toList) f ∧
        Conveys f ∧ ¬ SpellsForbidden f) ∧
    SameDigits v.toList w.toList ∧
      (extract .presence c).span.map SpanContext.identity ≠
        (extract .presence d).span.map SpanContext.identity := by
  intro v w c d
  refine ⟨?_, by unfold SameDigits; decide +kernel, by decide +kernel⟩
  intro hclaimed
  have haccepted : (extract .presence c).span.isSome = true := by decide +kernel
  obtain ⟨value, f, hget, hwritten, -, hallowed⟩ := hclaimed.1 haccepted
  have hvalue : c.get? traceParentHeader = some v := by decide +kernel
  obtain rfl : v = value := Option.some.inj (hvalue.symm.trans hget)
  have hspells : ∀ g ∈ TraceParent.fields? (Text.trim v.toList), SpellsForbidden g := by
    decide +kernel
  exact hallowed (hspells f (TraceParent.fields?_eq_some_iff.2 hwritten))

end RequestContext

end TraceSampler
