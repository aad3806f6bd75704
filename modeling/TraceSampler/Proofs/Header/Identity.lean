import Mathlib.Algebra.Group.Nat.Defs
import TraceSampler.Proofs.Header.Grammar

/-!
# Identities through the trace parent header

A span is written in the first version of the header, every number in the full width of its field.
So a header that a span was written to conveys its identity, and a header of the first version is
what the span that it conveys would be written as, up to the case of its digits.

* `Written.fixed_identity`: the numbers of a header are written as its fields, in lower case.
* `traceParent_of_written`: writing the span of a header of the first version.
* `span_extract_traceParent`: the two directions, through the headers of a request.
-/

namespace TraceSampler

namespace TraceParent

variable {s : List Char} {f : Fields}

/-- A number of a header keeps its value in the bits of its kind. -/
theorem toNat_ofNat_number {width bits : Nat} (hfits : Text.Hex.room width = 2 ^ bits)
    {digits : List Char} (h : IsField width digits) :
    (BitVec.ofNat bits (number digits)).toNat = number digits := by
  have hroom : number digits < 2 ^ bits := by
    rw [← hfits]
    exact (readFrom_eq_some_number h).2.1
  rw [BitVec.toNat_ofNat, Nat.mod_eq_of_lt hroom]

/-- The numbers of a header are written as its fields, in lower case. -/
theorem Written.fixed_identity (h : Written s f) :
    Text.Hex.fixed 32 f.identity.traceId.toNat = f.trace.map Char.toLower ∧
      Text.Hex.fixed 16 f.identity.spanId.toNat = f.span.map Char.toLower ∧
      Text.Hex.fixed 2 f.identity.flags.toNat = f.flags.map Char.toLower := by
  have htrace : f.identity.traceId.toNat = number f.trace := toNat_ofNat_number (by decide) h.trace
  have hspan : f.identity.spanId.toNat = number f.span := toNat_ofNat_number (by decide) h.span
  have hflags : f.identity.flags.toNat = number f.flags := toNat_ofNat_number (by decide) h.flags
  rw [htrace, hspan, hflags]
  exact ⟨(readFrom_eq_some_number h.trace).2.2, (readFrom_eq_some_number h.span).2.2,
    (readFrom_eq_some_number h.flags).2.2⟩

/-- The version is what a header starts with. -/
theorem Written.version_eq (h : Written s f) {version : List Char} (hlength : version.length = 2)
    (hstart : version <+: s) : f.version = version := by
  have hversion : f.version <+: s := ⟨_, h.text.symm⟩
  have hshort : f.version.length = version.length := h.version.length.trans hlength.symm
  have hwithin : f.version <+: version :=
    List.prefix_of_prefix_length_le hversion hstart (Nat.le_of_eq hshort)
  exact hwithin.eq_of_length hshort

/-- A header of the first version that is accepted: nothing follows its flags. -/
theorem Written.text_of_first (h : Written s f) (hconveys : Conveys f)
    (hfirst : ['0', '0'] <+: s) :
    s = ['0', '0'] ++ '-' :: (f.trace ++ '-' :: (f.span ++ '-' :: f.flags)) := by
  have hversion : f.version = ['0', '0'] := h.version_eq rfl hfirst
  have htail : f.tail = [] := hconveys.tail hversion
  have htext := h.text
  rw [hversion, htail, List.append_nil] at htext
  exact htext

/-- There are digits and hyphens in such a header, and nothing else. -/
theorem Written.ascii_of_first (h : Written s f) (hconveys : Conveys f)
    (hfirst : ['0', '0'] <+: s) : ∀ c ∈ s, c.toNat < 0x80 := by
  intro c hc
  have hdigit : ∀ {width : Nat} {digits : List Char}, IsField width digits → c ∈ digits →
      c.toNat < 0x80 :=
    fun hfield hmem => Text.Hex.ascii_of_isDigit (hfield.isDigit c hmem)
  rw [h.text_of_first hconveys hfirst] at hc
  simp only [List.mem_append, List.mem_cons, List.not_mem_nil, or_false] at hc
  rcases hc with (rfl | rfl) | rfl | hc | rfl | hc | rfl | hc
  · decide
  · decide
  · decide
  · exact hdigit h.trace hc
  · decide
  · exact hdigit h.span hc
  · decide
  · exact hdigit h.flags hc

end TraceParent

namespace SpanContext

open TraceParent (Fields Written Conveys)

/-- The span of a header of the first version is written as the header, in lower case. -/
theorem traceParent_of_written {s : List Char} {f : Fields} (h : Written s f)
    (hconveys : Conveys f) (hfirst : ['0', '0'] <+: s) {span : SpanContext}
    (hspan : span.identity = f.identity) :
    span.traceParent.toList = s.map Char.toLower := by
  have htrace : span.traceId = f.identity.traceId := congrArg TraceParent.traceId hspan
  have hspanId : span.spanId = f.identity.spanId := congrArg TraceParent.spanId hspan
  have hflags : span.flags = f.identity.flags := congrArg TraceParent.flags hspan
  obtain ⟨hwtrace, hwspan, hwflags⟩ := h.fixed_identity
  have hzero : '0'.toLower = '0' := by decide
  have hhyphen : '-'.toLower = '-' := by decide
  rw [toList_traceParent, htrace, hspanId, hflags, hwtrace, hwspan, hwflags,
    h.text_of_first hconveys hfirst]
  simp only [List.map_append, List.map_cons, List.map_nil, List.append_nil, hzero, hhyphen]

end SpanContext

namespace RequestContext

/-- What identifies a span is read back from the header that it was written to, and a header of the
first version that is accepted is, in lower case, what its span would be written as. -/
theorem span_extract_traceParent (verify : Verifier) (c : Carrier) :
    (∀ s : SpanContext, s.traceId ≠ 0 → s.spanId ≠ 0 →
      c.get? traceParentHeader = some s.traceParent →
        (extract verify c).span.map SpanContext.identity = some s.identity) ∧
    ∀ (value : String) (s : SpanContext), c.get? traceParentHeader = some value →
      ['0', '0'] <+: Text.trim value.toList → (extract verify c).span = some s →
        s.traceParent = Unicode.lowered (Text.strip value) := by
  constructor
  · intro s htrace hspan hget
    have hvalid : s.isValid := by simpa [SpanContext.isValid] using ⟨htrace, hspan⟩
    rw [identity_span_extract verify hget, SpanContext.read_traceParent hvalid]
    rfl
  · intro value s hget hfirst hspan
    have hread := identity_span_extract verify hget
    rw [hspan, Option.map_some] at hread
    obtain ⟨f, hwritten, hconveys, hidentity⟩ := TraceParent.read_eq_ok_iff.1
      (TraceParent.toOption_read_eq_ok_iff.1 hread.symm)
    have hascii := hwritten.ascii_of_first hconveys hfirst
    have htext := SpanContext.traceParent_of_written hwritten hconveys hfirst hidentity
    rw [Unicode.lowered, Text.strip, String.toList_ofList, Unicode.lowercase_ascii hascii, ← htext,
      String.ofList_toList]

/-- Identifiers with leading zeros, and a header in capitals between blanks. -/
theorem span_extract_traceParent_padded :
    let s : SpanContext := { traceId := 0xabc, spanId := 0x12, flags := 0xff }
    let c := Carrier.map [("traceparent", s.traceParent)]
    let value := " 00-80F198EE56343BA864FE8B2A57D3EFF7-00F067AA0BA902B7-0A\t"
    let d := Carrier.map [("TraceParent", value)]
    let t : SpanContext :=
      { traceId := 0x80f198ee56343ba864fe8b2a57d3eff7
        spanId := 0x00f067aa0ba902b7
        flags := 0x0a
        isRemote := true }
    (s.traceId ≠ 0 ∧ s.spanId ≠ 0 ∧ c.get? traceParentHeader = some s.traceParent ∧
      (extract .presence c).span.map SpanContext.identity = some s.identity) ∧
    d.get? traceParentHeader = some value ∧ ['0', '0'] <+: Text.trim value.toList ∧
      (extract .presence d).span = some t ∧
      t.traceParent = Unicode.lowered (Text.strip value) := by
  intro s c value d t
  have htrace : s.traceId ≠ 0 := by decide
  have hspan : s.spanId ≠ 0 := by decide
  have hget : c.get? traceParentHeader = some s.traceParent := by decide +kernel
  have hvalue : d.get? traceParentHeader = some value := by decide +kernel
  have hfirst : ['0', '0'] <+: Text.trim value.toList := by decide +kernel
  have hread : (extract .presence d).span = some t := by decide +kernel
  exact ⟨⟨htrace, hspan, hget, (span_extract_traceParent .presence c).1 s htrace hspan hget⟩,
    hvalue, hfirst, hread, (span_extract_traceParent .presence d).2 value t hvalue hfirst hread⟩

end RequestContext

end TraceSampler
