import TraceSampler.Header.TraceParent
import TraceSampler.Proofs.Text

/-!
# The trace parent header of a span

Every field of the header is written in a fixed width with a hyphen behind it, so the reader cuts
exactly where the writer joined.

* `fields?_traceParent`: the fields of a written header.
* `read_traceParent`: a valid span is read back from its header.
-/

namespace TraceSampler

namespace TraceParent

/-- So many digits in front of a text are taken off exactly. -/
theorem takeHex?_append {width : Nat} {digits : List Char} (hlength : digits.length = width)
    (hdigits : ∀ c ∈ digits, Text.Hex.isDigit c = true) (rest : List Char) :
    takeHex? width (digits ++ rest) = some (digits, rest) := by
  have htake : (digits ++ rest).take width = digits := by simp [← hlength]
  have hdrop : (digits ++ rest).drop width = rest := by simp [← hlength]
  have hall : digits.all Text.Hex.isDigit = true := List.all_eq_true.2 hdigits
  simp [takeHex?, htake, hdrop, hlength, hall]

theorem takeHex?_fixed (width n : Nat) (rest : List Char) :
    takeHex? width (Text.Hex.fixed width n ++ rest) = some (Text.Hex.fixed width n, rest) :=
  takeHex?_append (Text.Hex.length_fixed width n) (fun _ h => Text.Hex.isDigit_of_mem_fixed h) rest

/-- Written digits denote the number, where it fits their width. -/
theorem number_fixed {width n : Nat} (hw : 0 < width) (h : n < Text.Hex.room width) :
    number (Text.Hex.fixed width n) = n := by
  rw [number, Text.Hex.read_fixed hw h, Option.getD_some]

end TraceParent

namespace SpanContext

theorem toList_traceParent (s : SpanContext) :
    s.traceParent.toList = ['0', '0'] ++ '-' :: (Text.Hex.fixed 32 s.traceId.toNat ++
      '-' :: (Text.Hex.fixed 16 s.spanId.toNat ++
        '-' :: (Text.Hex.fixed 2 s.flags.toNat ++ []))) := by
  simp [traceParent, textWithFlags, traceHex, spanHex]

/-- A written header holds digits and hyphens only, so there is nothing to trim. -/
theorem trim_traceParent (s : SpanContext) :
    Text.trim s.traceParent.toList = s.traceParent.toList := by
  apply Text.trim_eq_self
  apply Text.trimmed_of_forall
  intro c hc
  rw [toList_traceParent] at hc
  simp only [List.append_nil, List.mem_append, List.mem_cons, List.not_mem_nil, or_false] at hc
  have hdigit : ∀ {width n : Nat}, c ∈ Text.Hex.fixed width n → Text.isBlank c = false :=
    fun h => Text.Hex.isBlank_of_isDigit (Text.Hex.isDigit_of_mem_fixed h)
  rcases hc with (rfl | rfl) | rfl | hc | rfl | hc | rfl | hc
  · rfl
  · rfl
  · rfl
  · exact hdigit hc
  · rfl
  · exact hdigit hc
  · rfl
  · exact hdigit hc

/-- The fields of a written header. -/
theorem fields?_traceParent (s : SpanContext) :
    TraceParent.fields? s.traceParent.toList = some
      { version := ['0', '0']
        trace := Text.Hex.fixed 32 s.traceId.toNat
        span := Text.Hex.fixed 16 s.spanId.toNat
        flags := Text.Hex.fixed 2 s.flags.toNat
        tail := [] } := by
  have hversion (rest : List Char) :
      TraceParent.takeHex? 2 (['0', '0'] ++ rest) = some (['0', '0'], rest) :=
    TraceParent.takeHex?_fixed 2 0 rest
  rw [toList_traceParent]
  simp only [TraceParent.fields?, hversion, TraceParent.dropHyphen?, TraceParent.takeHex?_fixed,
    Option.bind_eq_bind, Option.bind_some]
  rfl

/-- A valid span is read back from its header. -/
theorem read_traceParent {s : SpanContext} (h : s.isValid) :
    TraceParent.read (Text.trim s.traceParent.toList) =
      .ok { traceId := s.traceId, spanId := s.spanId, flags := s.flags } := by
  have hids : s.traceId ≠ 0 ∧ s.spanId ≠ 0 := by simpa [isValid] using h
  have htrace : TraceParent.number (Text.Hex.fixed 32 s.traceId.toNat) = s.traceId.toNat :=
    TraceParent.number_fixed (by decide) s.traceId.isLt
  have hspan : TraceParent.number (Text.Hex.fixed 16 s.spanId.toNat) = s.spanId.toNat :=
    TraceParent.number_fixed (by decide) s.spanId.isLt
  have hflags : TraceParent.number (Text.Hex.fixed 2 s.flags.toNat) = s.flags.toNat :=
    TraceParent.number_fixed (by decide) s.flags.isLt
  have hforbidden : TraceParent.isForbiddenVersion ['0', '0'] = false := by decide
  have htraceId : s.traceId.toNat ≠ 0 := fun e => hids.1 (BitVec.eq_of_toNat_eq e)
  have hspanId : s.spanId.toNat ≠ 0 := fun e => hids.2 (BitVec.eq_of_toNat_eq e)
  rw [trim_traceParent, TraceParent.read, fields?_traceParent]
  simp [hforbidden, htrace, hspan, hflags, htraceId, hspanId]

end SpanContext

end TraceSampler
