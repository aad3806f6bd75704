import TraceSampler.Proofs.Request.Answer

/-!
# Spelling characters out

A character that must not stand in a text is spelled as four marks, and reading takes every four
marks in a row for the character. Marks that stood in the text before get into the way of that, by
themselves or as neighbours of a character that is spelled. In the answer to trace options only the
keys that the client chose can hold such marks.

* `spelled_unspelled`: what was read can be spelled again, if the character stood nowhere.
* `unspelled_spelled_eq_self_iff`: what was spelled reads back where no four marks stand in a row
  and none stands right before the character.
* `desanitized_sanitized_eq_self_iff`: the same for both characters that answers are spelled
  without.
* `sanitize_readsBack_iff`: what is spelled that way, and which texts read back as they were.
* `text_eq`: where the client's keys stand in an answer.
* `desanitize_sanitize_text_eq_iff`: when the answer to the options of a header reads back.
-/

namespace TraceSampler

namespace Text

/-- The text with every `d` spelled as four marks `x`. -/
def spelled (d x : Char) (s : List Char) : List Char :=
  s.flatMap fun c => if c = d then [x, x, x, x] else [c]

/-- The text with every four marks `x` in a row read as `d`, from the left. -/
def unspelled (d x : Char) (s : List Char) : List Char := replace [x, x, x, x] [d] s

variable {d x : Char}

theorem spelled_cons_self (s : List Char) :
    spelled d x (d :: s) = x :: x :: x :: x :: spelled d x s := by
  simp [spelled]

theorem spelled_cons_of_ne {c : Char} (h : c ≠ d) (s : List Char) :
    spelled d x (c :: s) = c :: spelled d x s := by
  simp [spelled, h]

theorem unspelled_nil : unspelled d x [] = [] := by
  rw [unspelled, replace]

theorem unspelled_marks (s : List Char) :
    unspelled d x (x :: x :: x :: x :: s) = d :: unspelled d x s := by
  simp [unspelled, replace]

/-- Where less than four marks stand at the start, the first character is read as it is. -/
theorem unspelled_cons {c : Char} {s : List Char} (h : ¬ [x, x, x, x] <+: c :: s) :
    unspelled d x (c :: s) = c :: unspelled d x s := by
  have hprefix : ([x, x, x, x] : List Char).isPrefixOf (c :: s) = false := by
    rw [← Bool.not_eq_true, List.isPrefixOf_iff_prefix]
    exact h
  rw [unspelled, replace, hprefix]
  rfl

/-- A text is read mark by mark: four marks at its start at once, and any other character by
itself. -/
theorem marks_induction (x : Char) {P : List Char → Prop} (nil : P [])
    (marks : ∀ s, P s → P (x :: x :: x :: x :: s))
    (cons : ∀ c s, ¬ [x, x, x, x] <+: c :: s → P s → P (c :: s)) (s : List Char) : P s := by
  induction s using replace.induct [x, x, x, x] with
  | case1 => exact nil
  | case2 c r hmark => simp at hmark
  | case3 c r y m hmark hmarks ih =>
    obtain ⟨rfl, rfl⟩ := List.cons.inj hmark
    obtain ⟨t, ht⟩ := List.isPrefixOf_iff_prefix.1 hmarks
    obtain ⟨rfl, rfl⟩ := List.cons.inj ht
    exact marks t ih
  | case4 c r y m hmark hmarks ih =>
    exact cons c r (fun h => hmarks (List.isPrefixOf_iff_prefix.2 h)) ih

/-- Reading brings in no other character. -/
theorem mem_unspelled {c : Char} {s : List Char} (h : c ∈ unspelled d x s) : c = d ∨ c ∈ s := by
  induction s using marks_induction x with
  | nil => simp [unspelled_nil] at h
  | marks s ih =>
    rw [unspelled_marks, List.mem_cons] at h
    rcases h with rfl | h
    · exact Or.inl rfl
    · exact (ih h).imp_right fun hmem => by simp [hmem]
  | cons y s hless ih =>
    rw [unspelled_cons hless, List.mem_cons] at h
    rcases h with rfl | h
    · exact Or.inr List.mem_cons_self
    · exact (ih h).imp_right (List.mem_cons_of_mem y)

/-- What was read can be spelled again, if the character stood nowhere. -/
theorem spelled_unspelled {s : List Char} (h : d ∉ s) : spelled d x (unspelled d x s) = s := by
  induction s using marks_induction x with
  | nil => rw [unspelled_nil, spelled, List.flatMap_nil]
  | marks s ih =>
    have hrest : d ∉ s := fun hmem => h (by simp [hmem])
    rw [unspelled_marks, spelled_cons_self, ih hrest]
  | cons c s hless ih =>
    have hc : c ≠ d := fun e => h (by simp [e])
    have hrest : d ∉ s := fun hmem => h (List.mem_cons_of_mem c hmem)
    rw [unspelled_cons hless, spelled_cons_of_ne hc, ih hrest]

/-! ## Marks in a row -/

/-- Marks that stand at the start of a text still do when it is spelled. -/
theorem replicate_isPrefix_spelled (h : x ≠ d) {n : Nat} {s : List Char}
    (hs : List.replicate n x <+: s) : List.replicate n x <+: spelled d x s := by
  obtain ⟨t, rfl⟩ := hs
  have hmarks : spelled d x (List.replicate n x ++ t) = List.replicate n x ++ spelled d x t := by
    induction n with
    | zero => rfl
    | succ n ih =>
      rw [List.replicate_succ, List.cons_append, spelled_cons_of_ne h, ih, List.cons_append]
  rw [hmarks]
  exact List.prefix_append _ _

/-- Marks at the start of a spelled text stood there before, or one of them stood right before the
character. The mark in front makes up for a text that starts with the character itself. -/
theorem of_replicate_isPrefix_spelled (h : x ≠ d) {n : Nat} {s : List Char}
    (hs : List.replicate n x <+: spelled d x s) :
    List.replicate n x <+: s ∨ [x, d] <:+: x :: s := by
  induction n generalizing s with
  | zero => exact Or.inl List.nil_prefix
  | succ n ih =>
    cases s with
    | nil => simp [spelled, List.replicate_succ] at hs
    | cons c r =>
      by_cases hc : c = d
      · subst hc
        exact Or.inr ⟨[], r, rfl⟩
      · rw [spelled_cons_of_ne hc, List.replicate_succ, List.cons_prefix_cons] at hs
        obtain ⟨rfl, hr⟩ := hs
        rcases ih hr with hr | hr
        · left
          rw [List.replicate_succ, List.cons_prefix_cons]
          exact ⟨rfl, hr⟩
        · exact Or.inr (List.infix_cons hr)

/-- Four marks are met at the start of what was spelled only if the text is ambiguous there or
further on. -/
theorem isInfix_of_marks_isPrefix (h : x ≠ d) {c : Char} {r : List Char}
    (hmarks : [x, x, x, x] <+: c :: spelled d x r) :
    [x, x, x, x] <:+: c :: r ∨ [x, d] <:+: c :: r := by
  obtain ⟨rfl, hr⟩ := List.cons_prefix_cons.1 hmarks
  rcases of_replicate_isPrefix_spelled (n := 3) h hr with hr | hpair
  · exact Or.inl (List.cons_prefix_cons.2 ⟨rfl, hr⟩).isInfix
  · exact Or.inr hpair

/-- Where the text is ambiguous at its start, four marks are met there when it is spelled. -/
theorem marks_isPrefix_of_isPrefix (h : x ≠ d) {c : Char} {r : List Char}
    (hbad : [x, x, x, x] <+: c :: r ∨ [x, d] <+: c :: r) :
    [x, x, x, x] <+: c :: spelled d x r := by
  rcases hbad with hfour | hpair
  · obtain ⟨rfl, hr⟩ := List.cons_prefix_cons.1 hfour
    exact List.cons_prefix_cons.2 ⟨rfl, replicate_isPrefix_spelled (n := 3) h hr⟩
  · obtain ⟨rfl, t, rfl⟩ := List.cons_prefix_cons.1 hpair
    exact ⟨x :: spelled d x t, by simp [spelled_cons_self]⟩

/-- What was spelled reads back where no four marks stand in a row and none stands right before the
character. -/
theorem unspelled_spelled_eq_self_iff (h : x ≠ d) (s : List Char) :
    unspelled d x (spelled d x s) = s ↔ ¬ [x, x, x, x] <:+: s ∧ ¬ [x, d] <:+: s := by
  induction s with
  | nil => simp [spelled, unspelled_nil]
  | cons c r ih =>
    by_cases hc : c = d
    · subst hc
      rw [spelled_cons_self, unspelled_marks]
      simp [List.infix_cons_iff, List.cons_prefix_cons, h, ih]
    · rw [spelled_cons_of_ne hc]
      by_cases hmarks : [x, x, x, x] <+: c :: spelled d x r
      · -- the marks at the start are taken for `d`, which does not stand there
        have hbad := isInfix_of_marks_isPrefix h hmarks
        obtain ⟨t, ht⟩ := hmarks
        rw [← ht]
        constructor
        · intro heq
          obtain ⟨hd, -⟩ := List.cons.inj ((unspelled_marks t).symm.trans heq)
          exact absurd hd.symm hc
        · rintro ⟨hfour, hpair⟩
          exact (hbad.elim hfour hpair).elim
      · have hgood := mt (marks_isPrefix_of_isPrefix h) hmarks
        rw [not_or] at hgood
        rw [unspelled_cons hmarks, List.cons.injEq, List.infix_cons_iff, List.infix_cons_iff]
        simp [hgood, ih]

/-! ## Pieces without spelled characters -/

/-- A piece that holds neither the character nor its mark is found where it stood. -/
theorem isPrefix_spelled_iff {p s : List Char} (hd : d ∉ p) (hx : x ∉ p) :
    p <+: spelled d x s ↔ p <+: s := by
  induction p generalizing s with
  | nil => simp
  | cons a p ih =>
    rw [List.mem_cons, not_or] at hd hx
    cases s with
    | nil => rfl
    | cons c r =>
      by_cases hc : c = d
      · subst hc
        simp [spelled_cons_self, List.cons_prefix_cons, Ne.symm hx.1, Ne.symm hd.1]
      · rw [spelled_cons_of_ne hc, List.cons_prefix_cons, List.cons_prefix_cons, ih hd.2 hx.2]

theorem isInfix_spelled_iff {a : Char} {p s : List Char} (hd : d ∉ a :: p) (hx : x ∉ a :: p) :
    a :: p <:+: spelled d x s ↔ a :: p <:+: s := by
  induction s with
  | nil => rfl
  | cons c r ih =>
    by_cases hc : c = d
    · subst hc
      rw [List.mem_cons, not_or] at hd hx
      simp [spelled_cons_self, List.infix_cons_iff, List.cons_prefix_cons, Ne.symm hd.1,
        Ne.symm hx.1, ih]
    · have hprefix := isPrefix_spelled_iff (s := c :: r) hd hx
      rw [spelled_cons_of_ne hc] at hprefix ⊢
      rw [List.infix_cons_iff, List.infix_cons_iff, hprefix, ih]

/-- A piece is looked for in vain where its first character does not stand. -/
theorem isInfix_append_iff {a : Char} {p front s : List Char} (h : a ∉ front) :
    a :: p <:+: front ++ s ↔ a :: p <:+: s := by
  induction front with
  | nil => rfl
  | cons c r ih =>
    rw [List.mem_cons, not_or] at h
    rw [List.cons_append, List.infix_cons_iff, List.cons_prefix_cons, ih h.2]
    simp [h.1]

end Text

/-! ## Equals signs and commas -/

namespace OptionsAnswer

open Text

theorem sanitized_eq (s : List Char) : sanitized s = spelled '=' '#' (spelled ',' '.' s) := by
  rw [sanitized, spelled, spelled, List.flatMap_assoc]
  congr 1
  funext c
  by_cases hcomma : c = ','
  · subst hcomma
    rfl
  · simp [sanitizeChar, hcomma]

theorem desanitized_eq (s : List Char) :
    desanitized s = unspelled ',' '.' (unspelled '=' '#' s) := rfl

/-- A text reads back as it was unless it holds marks that are taken for a character, or that are
taken together with one. -/
theorem desanitized_sanitized_eq_self_iff (s : List Char) :
    desanitized (sanitized s) = s ↔
      ∀ marks ∈ ["####", "#=", "....", ".,"], ¬ marks.toList <:+: s := by
  have hequals : ('#' : Char) ≠ '=' := by decide
  have hcomma : ('.' : Char) ≠ ',' := by decide
  have hboth : desanitized (sanitized s) = s ↔
      unspelled '=' '#' (spelled '=' '#' (spelled ',' '.' s)) = spelled ',' '.' s ∧
        unspelled ',' '.' (spelled ',' '.' s) = s := by
    rw [sanitized_eq, desanitized_eq]
    constructor
    · intro h
      -- no comma is left to be taken for one that was read, so the first step can be undone
      have hnone : ',' ∉ unspelled '=' '#' (spelled '=' '#' (spelled ',' '.' s)) := by
        intro hmem
        rcases mem_unspelled hmem with hmem | hmem
        · exact absurd hmem (by decide)
        · exact comma_not_mem_sanitized s (sanitized_eq s ▸ hmem)
      have hfirst := spelled_unspelled (x := '.') hnone
      rw [h] at hfirst
      exact ⟨hfirst.symm, by rw [← hfirst] at h; exact h⟩
    · rintro ⟨hfirst, hsecond⟩
      rw [hfirst, hsecond]
  rw [hboth, unspelled_spelled_eq_self_iff hequals, unspelled_spelled_eq_self_iff hcomma,
    isInfix_spelled_iff (by decide) (by decide), isInfix_spelled_iff (by decide) (by decide)]
  simp [and_assoc]

theorem desanitize_sanitize_eq_self_iff (s : String) :
    desanitize (sanitize s) = s ↔
      ∀ marks ∈ ["####", "#=", "....", ".,"], ¬ marks.toList <:+: s.toList := by
  rw [desanitize, sanitize, String.toList_ofList, ← String.toList_inj, String.toList_ofList,
    desanitized_sanitized_eq_self_iff]

/-- What is spelled without equals signs and commas holds none, and it reads back as it was just if
the text held no four hash signs or points in a row, no hash sign right before an equals sign and no
point right before a comma. -/
theorem sanitize_readsBack_iff (s : String) :
    '=' ∉ (sanitize s).toList ∧ ',' ∉ (sanitize s).toList ∧
      (desanitize (sanitize s) = s ↔
        ¬ "####".toList <:+: s.toList ∧ ¬ "....".toList <:+: s.toList ∧
          ¬ "#=".toList <:+: s.toList ∧ ¬ ".,".toList <:+: s.toList) := by
  have hchars : (sanitize s).toList = sanitized s.toList := String.toList_ofList
  rw [hchars, desanitize_sanitize_eq_self_iff]
  refine ⟨eq_not_mem_sanitized _, comma_not_mem_sanitized _, ?_⟩
  simp only [List.forall_mem_cons]
  constructor
  · rintro ⟨hhashes, hequals, hpoints, hcomma, -⟩
    exact ⟨hhashes, hpoints, hequals, hcomma⟩
  · rintro ⟨hhashes, hpoints, hequals, hcomma⟩
    exact ⟨hhashes, hequals, hpoints, hcomma, by simp⟩

/-- Without four marks in a row, a text may still read back as another. -/
example : desanitize (sanitize "#=") = "=#" := by decide +kernel

end OptionsAnswer

/-! ## The text of an answer -/

/-- The key of a token ends before the first equals sign. -/
theorem TraceOptions.equals_not_mem_key {s : List Char} {t : Token} (h : Token.read? s = some t) :
    '=' ∉ t.key.toList := by
  rw [Token.read?] at h
  split at h
  · simp at h
  · split at h
    · next hcut =>
      obtain rfl := Option.some.inj h
      have hkey := (Text.splitFirst?_eq_some_iff.1 hcut).2
      simpa using fun hmem => hkey (Text.mem_of_mem_trim hmem)
    · next hcut =>
      obtain rfl := Option.some.inj h
      simpa using Text.splitFirst?_eq_none_iff.1 hcut

namespace OptionsAnswer

/-- The pairs of an answer before the one with the keys that meant nothing. -/
def fixedPairs (a : OptionsAnswer) : List (String × String) :=
  (a.auth.map fun s => ("auth", s)).toList ++ [("trigger-trace", a.trigger.name)]

def pairText (pair : String × String) : List Char := pair.1.toList ++ '=' :: pair.2.toList

/-- What stands in an answer before the client's keys. -/
def preamble (a : OptionsAnswer) : List Char :=
  Text.join [';'] (a.fixedPairs.map pairText) ++
    if a.ignored.isEmpty then [] else ";ignored=".toList

/-- The client's keys stand at the end of an answer. -/
theorem text_eq (a : OptionsAnswer) :
    a.text.toList = a.preamble ++ (Text.joinWith "," a.ignored).toList := by
  have hpair : ∀ pair : String × String, (pair.1 ++ "=" ++ pair.2).toList = pairText pair := by
    intro pair
    simp [pairText]
  have htext : a.text.toList = Text.join [';'] (a.pairs.map pairText) := by
    simp [text, Text.joinWith, Function.comp_def, hpair]
  rw [htext, preamble, pairs]
  by_cases hnone : a.ignored = []
  · simp [hnone, fixedPairs, Text.joinWith, Text.join]
  · have hfixed : a.fixedPairs.map pairText ≠ [] := by simp [fixedPairs]
    have hlast := Text.join_concat [';']
      (pairText ("ignored", Text.joinWith "," a.ignored)) hfixed
    simp [hnone, fixedPairs, pairText] at hlast ⊢
    simp [hlast]

/-- A character that no mark starts with. -/
def isPlain (c : Char) : Bool := c != '#' && c != '.'

theorem isPlain_of_mem_fixedPairs {α : Type} {o : TraceOptions} {v : Quota.Verdict α}
    {isNewTrace : Bool} {pair : String × String} (h : pair ∈ (of o v isNewTrace).fixedPairs) :
    (pairText pair).all isPlain = true := by
  have hauth : ∀ s, authText? o.auth = some s → (pairText ("auth", s)).all isPlain = true := by
    intro s hs
    cases hstatus : o.auth with
    | notAuthenticated => simp [hstatus, authText?] at hs
    | ok =>
      obtain rfl : "ok" = s := by simpa [hstatus, authText?] using hs
      decide
    | failure reason =>
      obtain rfl : reason.reason = s := by simpa [hstatus, authText?] using hs
      cases reason <;> decide
  have houtcome : ∀ t : TriggerOutcome,
      (pairText ("trigger-trace", t.name)).all isPlain = true := by
    intro t
    cases t <;> decide
  rcases List.mem_append.1 h with h | h
  · obtain ⟨s, hs, rfl⟩ : ∃ s, authText? o.auth = some s ∧ ("auth", s) = pair := by
      simpa [of] using h
    exact hauth s hs
  · obtain rfl := List.mem_singleton.1 h
    exact houtcome _

/-- No mark starts before the client's keys. -/
theorem isPlain_of_mem_preamble {α : Type} {o : TraceOptions} {v : Quota.Verdict α}
    {isNewTrace : Bool} {c : Char} (h : c ∈ (of o v isNewTrace).preamble) : isPlain c = true := by
  rcases List.mem_append.1 h with h | h
  · rcases Text.mem_join h with h | ⟨p, hp, hc⟩
    · obtain rfl := List.mem_singleton.1 h
      decide
    · obtain ⟨pair, hpair, rfl⟩ := List.mem_map.1 hp
      exact List.all_eq_true.1 (isPlain_of_mem_fixedPairs hpair) c hc
  · split at h
    · simp at h
    · have hword : ";ignored=".toList.all isPlain = true := by decide
      exact List.all_eq_true.1 hword c h

/-- The answer to the options of a header reads back unless the client's keys hold marks that are
taken for a character. No equals sign stands in these keys, nor a mark before an equals sign. -/
theorem desanitize_sanitize_text_eq_iff {α : Type} {verify : Verifier}
    {header signature : Option String} {o : TraceOptions}
    (hread : TraceOptions.read? verify header signature = some o) (v : Quota.Verdict α)
    (isNewTrace : Bool) :
    desanitize (sanitize (of o v isNewTrace).text) = (of o v isNewTrace).text ↔
      ∀ marks ∈ ["####", "....", ".,"],
        ¬ marks.toList <:+: (Text.joinWith "," o.ignored).toList := by
  have hkeys : ∀ key ∈ o.ignored, '=' ∉ key.toList :=
    TraceOptions.forall_ignored_of_read? (fun h _ => TraceOptions.equals_not_mem_key h) hread
  have hequals : ¬ "#=".toList <:+: (Text.joinWith "," o.ignored).toList := by
    intro hpair
    have hmem : '=' ∈ (Text.joinWith "," o.ignored).toList := hpair.subset (by decide)
    rw [Text.joinWith, String.toList_ofList] at hmem
    rcases Text.mem_join hmem with hmem | ⟨p, hp, hmem⟩
    · exact absurd hmem (by decide)
    · obtain ⟨key, hkey, rfl⟩ := List.mem_map.1 hp
      exact hkeys key hkey hmem
  have hashes : '#' ∉ (of o v isNewTrace).preamble :=
    fun h => absurd (isPlain_of_mem_preamble h) (by decide)
  have hpoints : '.' ∉ (of o v isNewTrace).preamble :=
    fun h => absurd (isPlain_of_mem_preamble h) (by decide)
  -- every mark starts with a character that stands behind the preamble only
  have hmarks : ∀ marks ∈ ["####", "#=", "....", ".,"],
      (marks.toList <:+: (of o v isNewTrace).text.toList ↔
        marks.toList <:+: (Text.joinWith "," o.ignored).toList) := by
    rw [text_eq]
    simp only [List.forall_mem_cons]
    exact ⟨Text.isInfix_append_iff hashes, Text.isInfix_append_iff hashes,
      Text.isInfix_append_iff hpoints, Text.isInfix_append_iff hpoints, by simp⟩
  rw [desanitize_sanitize_eq_self_iff]
  constructor
  · intro h marks hmem
    have hall : marks ∈ ["####", "#=", "....", ".,"] := by
      simp only [List.mem_cons, List.not_mem_nil, or_false] at hmem ⊢
      tauto
    exact mt (hmarks marks hall).2 (h marks hall)
  · intro h marks hmem
    rw [hmarks marks hmem]
    by_cases heq : marks = "#="
    · exact heq ▸ hequals
    · simp only [List.mem_cons, List.not_mem_nil, or_false, heq, false_or] at hmem
      exact h marks (by simpa using hmem)

end OptionsAnswer

end TraceSampler
