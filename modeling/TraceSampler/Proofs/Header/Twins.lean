import Mathlib.Data.List.Nodup
import TraceSampler.Header.Exchange
import TraceSampler.Header.Reply
import TraceSampler.Proofs.Header.Carrier

/-!
# Headers under names in another case

A carrier finds a header in any case of its name, but it writes one under the name in lower case,
and then takes the place of an entry under exactly that name only. An entry under the name in
another case is a twin: it is left as it is, and the carrier then holds the header twice.

Both what is passed on with a request and what a response is given are lists of headers that are
written one after the other, so what holds of such a list holds of the two.

* `stored_writeAll`: what a carrier holds after some headers are written to it.
* `Stored.noStaleTwin_iff`: when none of the headers is left behind with an older value.
* `RequestContext.inject_eq_writeAll`, `SpanContext.respond_eq_writeAll`: the headers of a request
  and of a response.
* `noStaleTwin_inject_respond_iff`: when they leave nothing older behind.
-/

namespace TraceSampler

namespace Carrier

/-- The value under exactly this name. -/
def value? (c : Carrier) (name : String) : Option Json.Value :=
  match c with
  | .map headers => (headers.lookup name).map Json.Value.text
  | .document (.object members) => members.lookup name
  | .document _ => none

/-- Writes one header after the other. -/
def writeAll (c : Carrier) (headers : List (String × String)) : Carrier :=
  headers.foldl (fun c h => c.set h.1 h.2) c

/-- The headers are stored under their names in lower case, and nothing else is changed. -/
structure Stored (headers : List (String × String)) (before after : Carrier) : Prop where
  written : ∀ h ∈ headers, after.value? (Unicode.lowered h.1) = some (.text h.2)
  kept : ∀ name, (∀ h ∈ headers, name ≠ Unicode.lowered h.1) →
    after.value? name = before.value? name

/-- Whatever is stored under the name of a header, in any case, is its new value, and what is not
stored under the name of one is unchanged. -/
structure NoStaleTwin (headers : List (String × String)) (before after : Carrier) : Prop where
  renewed : ∀ h ∈ headers, ∀ name v, Text.sameIgnoringCase name h.1 = true →
    after.value? name = some v → v = .text h.2
  unchanged : ∀ name, (∀ h ∈ headers, Text.sameIgnoringCase name h.1 = false) →
    after.value? name = before.value? name

/-- The carrier holds something else than a header under its name, spelled in other than lower
case. -/
def HasTwin (headers : List (String × String)) (c : Carrier) : Prop :=
  ∃ h ∈ headers, ∃ name v, Text.sameIgnoringCase name h.1 = true ∧ name ≠ Unicode.lowered h.1 ∧
    c.value? name = some v ∧ v ≠ .text h.2

/-! ## Names -/

theorem sameIgnoringCase_iff {a b : String} :
    Text.sameIgnoringCase a b = true ↔ Text.asciiLower a.toList = Text.asciiLower b.toList :=
  beq_iff_eq

/-- Names that cannot be taken for each other: lower case changes ASCII letters only, and no two of
them are the same up to their case. -/
structure Separate (names : List String) : Prop where
  ascii : ∀ name ∈ names, Text.sameIgnoringCase (Unicode.lowered name) name = true
  distinct : (names.map fun name => Text.asciiLower name.toList).Nodup

namespace Separate

theorem sublist {names all : List String} (h : Separate all) (hsub : names.Sublist all) :
    Separate names :=
  ⟨fun name hname => h.ascii name (hsub.subset hname), h.distinct.sublist (hsub.map _)⟩

variable {headers : List (String × String)} (h : Separate (headers.map Prod.fst))

include h

theorem asciiLower_lowered {x : String × String} (hx : x ∈ headers) :
    Text.asciiLower (Unicode.lowered x.1).toList = Text.asciiLower x.1.toList :=
  sameIgnoringCase_iff.1 (h.ascii x.1 (List.mem_map_of_mem hx))

/-- A name that is the one of a header up to its case is not that of another in lower case. -/
theorem eq_of_same {name : String} {a b : String × String} (ha : a ∈ headers) (hb : b ∈ headers)
    (hsame : Text.sameIgnoringCase name a.1 = true) (hlowered : name = Unicode.lowered b.1) :
    a = b := by
  have hdistinct : (headers.map fun x => Text.asciiLower x.1.toList).Nodup := by
    simpa only [List.map_map, Function.comp_def] using h.distinct
  have hfold : Text.asciiLower a.1.toList = Text.asciiLower b.1.toList := by
    rw [← sameIgnoringCase_iff.1 hsame, hlowered, h.asciiLower_lowered hb]
  exact List.inj_on_of_nodup_map hdistinct ha hb hfold

end Separate

/-! ## Writing headers -/

theorem value?_set_self {c : Carrier} (hc : c.takesHeaders) (name value : String) :
    (c.set name value).value? (Unicode.lowered name) = some (.text value) := by
  cases c with
  | map headers => rw [set, value?, lookup_put_self, Option.map_some]
  | document v =>
    cases v with
    | object members => exact lookup_insertMember_self _ _ members
    | _ => simp [takesHeaders] at hc

theorem value?_set_of_ne {name other : String} (h : other ≠ Unicode.lowered name) (c : Carrier)
    (value : String) : (c.set name value).value? other = c.value? other := by
  cases c with
  | map headers => rw [set, value?, value?, lookup_put_of_ne h]
  | document v =>
    cases v with
    | object members => exact lookup_insertMember_of_ne h _ members
    | _ => rfl

theorem value?_writeAll_of_ne {name : String} {headers : List (String × String)}
    (h : ∀ x ∈ headers, name ≠ Unicode.lowered x.1) (c : Carrier) :
    (c.writeAll headers).value? name = c.value? name := by
  induction headers generalizing c with
  | nil => rfl
  | cons x r ih =>
    obtain ⟨hx, hr⟩ := List.forall_mem_cons.1 h
    exact (ih hr (c.set x.1 x.2)).trans (value?_set_of_ne hx c x.2)

/-- Headers whose names are separate do not overwrite each other. -/
theorem stored_writeAll {headers : List (String × String)} (h : Separate (headers.map Prod.fst))
    {c : Carrier} (hc : c.takesHeaders) : Stored headers c (c.writeAll headers) := by
  refine ⟨?_, fun name hname => value?_writeAll_of_ne hname c⟩
  induction headers generalizing c with
  | nil => exact fun x hx => absurd hx List.not_mem_nil
  | cons x r ih =>
    have hrest : Separate (r.map Prod.fst) := h.sublist (List.sublist_cons_self _ _)
    have hset : (c.set x.1 x.2).takesHeaders := by rwa [takesHeaders_set]
    refine List.forall_mem_cons.2 ⟨?_, ih hrest hset⟩
    have hlater : ∀ y ∈ r, Unicode.lowered x.1 ≠ Unicode.lowered y.1 := by
      intro y hy hlowered
      have hsame : Text.asciiLower x.1.toList = Text.asciiLower y.1.toList := by
        rw [← h.asciiLower_lowered List.mem_cons_self, hlowered,
          h.asciiLower_lowered (List.mem_cons_of_mem x hy)]
      have hagain : Text.asciiLower y.1.toList ∈
          (r.map Prod.fst).map fun name => Text.asciiLower name.toList :=
        List.mem_map_of_mem (List.mem_map_of_mem hy)
      rw [← hsame] at hagain
      exact (List.nodup_cons.1 h.distinct).1 hagain
    exact (value?_writeAll_of_ne hlater (c.set x.1 x.2)).trans (value?_set_self hc x.1 x.2)

/-- Where headers are stored under their names in lower case, they are stored twice with two values
just if the carrier had a twin of one of them. -/
theorem Stored.noStaleTwin_iff {headers : List (String × String)} {before after : Carrier}
    (h : Stored headers before after) (hsep : Separate (headers.map Prod.fst)) :
    NoStaleTwin headers before after ↔ ¬ HasTwin headers before := by
  -- a name in another case is no name that is written, so what it holds is left
  have htwin : ∀ x ∈ headers, ∀ name, Text.sameIgnoringCase name x.1 = true →
      name ≠ Unicode.lowered x.1 → after.value? name = before.value? name := by
    intro x hx name hsame hne
    refine h.kept name fun y hy hlowered => hne ?_
    rw [hlowered, hsep.eq_of_same hx hy hsame hlowered]
  constructor
  · rintro hclean ⟨x, hx, name, v, hsame, hne, hentry, hv⟩
    rw [← htwin x hx name hsame hne] at hentry
    exact hv (hclean.renewed x hx name v hsame hentry)
  · intro hnone
    refine ⟨?_, ?_⟩
    · intro x hx name v hsame hentry
      by_cases hname : name = Unicode.lowered x.1
      · rw [hname, h.written x hx] at hentry
        exact (Option.some.inj hentry).symm
      · rw [htwin x hx name hsame hname] at hentry
        by_contra hv
        exact hnone ⟨x, hx, name, v, hsame, hname, hentry, hv⟩
    · intro name hother
      refine h.kept name fun x hx hlowered => ?_
      have hsame : Text.sameIgnoringCase name x.1 = true := by
        rw [sameIgnoringCase_iff, hlowered, hsep.asciiLower_lowered hx]
      rw [hother x hx] at hsame
      exact Bool.noConfusion hsame

end Carrier

/-! ## Requests and responses -/

open Carrier

/-- The headers that a span and the options of a request are passed on in. -/
def RequestContext.passedOn (r : RequestContext) (s : SpanContext) : List (String × String) :=
  if s.isValid then
    (traceStateHeader, (s.state.outbound (TraceState.vendorValue s.spanId s.isSampled)).text) ::
      ((r.optionsText.map (optionsHeader, ·)).toList ++
        (r.signature.map (signatureHeader, ·)).toList)
  else []

/-- The headers of the response to a request that is served by a span. -/
def SpanContext.answered (s : SpanContext) : List (String × String) :=
  if s.isValid then
    (traceReplyHeader, s.replyText) :: (s.optionsReply?.map (optionsReplyHeader, ·)).toList
  else []

theorem RequestContext.inject_eq_writeAll (r : RequestContext) (s : SpanContext) (c : Carrier) :
    inject r s c = c.writeAll (passedOn r s) := by
  unfold inject passedOn
  split
  · cases r.optionsText <;> cases r.signature <;> rfl
  · rfl

theorem SpanContext.respond_eq_writeAll (s : SpanContext) (c : Carrier) :
    s.respond c = c.writeAll s.answered := by
  unfold respond answered
  split
  · cases s.optionsReply? <;> rfl
  · rfl

theorem RequestContext.separate_passedOn (r : RequestContext) (s : SpanContext) :
    Separate ((passedOn r s).map Prod.fst) := by
  have hall : Separate [traceStateHeader, optionsHeader, signatureHeader] :=
    ⟨by decide +kernel, by decide +kernel⟩
  refine hall.sublist ?_
  unfold passedOn
  split
  · cases r.optionsText <;> cases r.signature <;> simp
  · exact List.nil_sublist _

theorem SpanContext.separate_answered (s : SpanContext) :
    Separate (s.answered.map Prod.fst) := by
  have hall : Separate [traceReplyHeader, optionsReplyHeader] :=
    ⟨by decide +kernel, by decide +kernel⟩
  refine hall.sublist ?_
  unfold answered
  split
  · cases s.optionsReply? <;> simp
  · exact List.nil_sublist _

/-- The headers of a request that is passed on, and those of a response, are stored under their
names in lower case, and nothing else changes in the carrier. So none of them is left behind with
an older value, unless the carrier held one under its name in another case. -/
theorem noStaleTwin_inject_respond_iff (r : RequestContext) (s : SpanContext) {c : Carrier}
    (hc : c.takesHeaders) :
    (Stored (r.passedOn s) c (r.inject s c) ∧
      (NoStaleTwin (r.passedOn s) c (r.inject s c) ↔ ¬ HasTwin (r.passedOn s) c)) ∧
    Stored s.answered c (s.respond c) ∧
      (NoStaleTwin s.answered c (s.respond c) ↔ ¬ HasTwin s.answered c) := by
  have hrequest : Stored (r.passedOn s) c (r.inject s c) := by
    rw [r.inject_eq_writeAll]
    exact stored_writeAll (r.separate_passedOn s) hc
  have hresponse : Stored s.answered c (s.respond c) := by
    rw [s.respond_eq_writeAll]
    exact stored_writeAll s.separate_answered hc
  exact ⟨⟨hrequest, hrequest.noStaleTwin_iff (r.separate_passedOn s)⟩,
    hresponse, hresponse.noStaleTwin_iff s.separate_answered⟩

/-- An entry that is replaced, and one of another name that stays. -/
theorem noStaleTwin_inject_respond_iff_replaced :
    let c : Carrier := .map [("tracestate", "old=1"), ("Host", "a.example")]
    let r : RequestContext := { optionsText := some "trigger-trace" }
    let s : SpanContext := { traceId := 1, spanId := 2, flags := 1 }
    c.takesHeaders = true ∧ s.isValid = true ∧
      r.passedOn s = [("tracestate", "sw=0000000000000002-01"),
        ("x-trace-options", "trigger-trace")] ∧
      (Stored (r.passedOn s) c (r.inject s c) ∧
        (NoStaleTwin (r.passedOn s) c (r.inject s c) ↔ ¬ HasTwin (r.passedOn s) c)) ∧
      Stored s.answered c (s.respond c) ∧
        (NoStaleTwin s.answered c (s.respond c) ↔ ¬ HasTwin s.answered c) :=
  ⟨rfl, rfl, by decide +kernel, noStaleTwin_inject_respond_iff _ _ rfl⟩

/-- A map that came with a header in capitals keeps its old value beside the new one, and so does an
object. -/
theorem noStaleTwin_inject_respond_capitals :
    let c : Carrier := .map [("TraceState", "foo=bar")]
    let answer : Carrier := .document (.object [("X-Trace", .text "old")])
    let s : SpanContext := { traceId := 1, spanId := 2, flags := 1 }
    c.takesHeaders = true ∧ answer.takesHeaders = true ∧ s.isValid = true ∧
      ¬ NoStaleTwin (({} : RequestContext).passedOn s) c (({} : RequestContext).inject s c) ∧
      ¬ NoStaleTwin s.answered answer (s.respond answer) := by
  intro c answer s
  refine ⟨rfl, rfl, rfl, ?_, ?_⟩
  · intro h
    have hold : Json.Value.text "foo=bar" = .text "sw=0000000000000002-01" :=
      h.renewed ("tracestate", "sw=0000000000000002-01") (by decide +kernel) "TraceState" _
        (by decide +kernel) rfl
    exact absurd (Json.Value.text.inj hold) (by decide)
  · intro h
    have hold : Json.Value.text "old" = .text s.replyText :=
      h.renewed ("X-Trace", s.replyText) (by decide +kernel) "X-Trace" _ (by decide +kernel) rfl
    exact absurd (Json.Value.text.inj hold) (by decide +kernel)

end TraceSampler
