import Mathlib.Data.List.Forall2
import TraceSampler.Header.TraceState
import TraceSampler.Proofs.Request.Options
import TraceSampler.Proofs.Text

/-!
# What trace options mean

The options of a client are read token by token, each changing what the ones before it asked for.
What they mean together can be said without that order of reading: every token is of one kind, the
first of a kind counts or the last one does, and a token of no kind is ignored under its key.

* `forall₂_spelled_iff`: the tokens of a header, by how they are spelled.
* `Token.ofKind_meaning`: every token is of exactly one kind.
* `Means.apply`: one more token, for what all tokens mean together.
* `read?_eq_some_iff_means`: options are read exactly as what the tokens of their header mean.
-/

namespace TraceSampler

namespace TraceState

/-! ## The first of every key -/

/-- One more member counts if its key is new. -/
theorem keepFirst_concat (ms : List (String × String)) (key value : String) :
    keepFirst (ms ++ [(key, value)]) =
      if (keepFirst ms).any (·.1 == key) then keepFirst ms else keepFirst ms ++ [(key, value)] := by
  induction ms with
  | nil => simp [keepFirst]
  | cons m r ih =>
    obtain ⟨k, v⟩ := m
    rw [List.cons_append, keepFirst, ih, keepFirst]
    by_cases hk : k = key
    · -- the member at the front has the key, so the one at the end is filtered out
      subst hk
      split
      · simp
      · simp
    · have hne : ¬ key = k := fun h => hk h.symm
      have hany : ((keepFirst r).filter (·.1 != k)).any (·.1 == key) =
          (keepFirst r).any (·.1 == key) := by
        rw [Bool.eq_iff_iff]
        simp only [List.any_eq_true, List.mem_filter, beq_iff_eq, bne_iff_ne]
        constructor
        · rintro ⟨m, ⟨hm, -⟩, rfl⟩
          exact ⟨m, hm, rfl⟩
        · rintro ⟨m, hm, rfl⟩
          exact ⟨m, ⟨hm, hne⟩, rfl⟩
      have hfront : (k == key) = false := by simpa using hk
      simp only [List.any_cons, hfront, Bool.false_or, hany]
      split
      · rfl
      · simp [List.filter_append, hne]

/-- The first member of a key is the one that is found under it. -/
theorem lookup_keepFirst (ms : List (String × String)) (key : String) :
    (keepFirst ms).lookup key = ms.lookup key := by
  induction ms with
  | nil => rfl
  | cons m r ih =>
    obtain ⟨k, v⟩ := m
    by_cases hk : key = k
    · simp [keepFirst, hk]
    · have hb : (key == k) = false := by simpa using hk
      rw [keepFirst, List.lookup_cons, List.lookup_cons, hb]
      exact (lookup_filter_ne _ hk).trans ih

end TraceState

namespace TraceOptions

/-! ## The tokens of a header -/

/-- What stands between the semicolons of a header without blanks at its ends, if anything does. -/
def pieces (header : String) : List (List Char) :=
  ((Text.split ';' header.toList).map Text.trim).filter (· ≠ [])

/-- The token by which a client asks for a trace; with a value it is another one. -/
def triggerToken : Token := ⟨"trigger-trace", none⟩

/-- The keys of its own that a client names. -/
def Token.swKeys? (t : Token) : Option String := if t.key = "sw-keys" then t.value else none

/-- The time that a token names, if it reads as a number of its kind. -/
def Token.time? (t : Token) : Option Int :=
  if t.key = "ts" then t.value.bind fun v => Text.Integer.readSigned64? v.toList else none

/-- A name without blanks stands behind the start that the keys of attributes have. -/
def CustomKey (key : String) : Prop :=
  ∃ name : String, key = "custom-" ++ name ∧ name ≠ "" ∧ ∀ c ∈ name.toList, Text.isBlank c = false

theorem isCustomKey_iff {key : String} : isCustomKey key = true ↔ CustomKey key := by
  have hstart : "custom-".toList = customStart := by decide
  constructor
  · intro h
    simp only [isCustomKey, Bool.and_eq_true, List.isPrefixOf_iff_prefix] at h
    obtain ⟨⟨⟨rest, hrest⟩, hname⟩, hblank⟩ := h
    rw [← hrest, List.drop_left] at hname hblank
    refine ⟨String.ofList rest, ?_, ?_, ?_⟩
    · rw [← String.toList_inj, String.toList_append, hstart, String.toList_ofList, hrest]
    · rintro hempty
      simp [← String.toList_inj] at hempty
      simp [hempty] at hname
    · simpa using hblank
  · rintro ⟨name, rfl, hname, hblank⟩
    have htext : ("custom-" ++ name).toList = customStart ++ name.toList := by
      rw [String.toList_append, hstart]
    have hne : name.toList ≠ [] := by
      intro hempty
      exact hname (String.toList_inj.1 hempty)
    simp only [isCustomKey, htext, List.drop_left, Bool.and_eq_true, List.isPrefixOf_iff_prefix]
    refine ⟨⟨List.prefix_append _ _, by simpa using hne⟩, by simpa using hblank⟩

instance (key : String) : Decidable (CustomKey key) := decidable_of_iff _ isCustomKey_iff

/-- The attribute that a token passes on. -/
def Token.attribute? (t : Token) : Option (String × String) :=
  if CustomKey t.key then t.value.map fun v => (t.key, v) else none

/-- The token is of none of the kinds above. -/
def Token.isOther (t : Token) : Bool :=
  t != triggerToken && t.swKeys?.isNone && t.time?.isNone && t.attribute?.isNone

/-- What is understood of a token, kind by kind. -/
structure Token.Understood (t : Token) (asks : Bool) (swKeys : Option String)
    (time : Option Int) (passed : Option (String × String)) : Prop where
  asks : (t == triggerToken) = asks
  swKeys : t.swKeys? = swKeys
  time : t.time? = time
  passed : t.attribute? = passed

theorem Token.Understood.isOther {t : Token} {asks : Bool} {swKeys : Option String}
    {time : Option Int} {passed : Option (String × String)}
    (h : t.Understood asks swKeys time passed) :
    t.isOther = (!asks && swKeys.isNone && time.isNone && passed.isNone) := by
  rw [Token.isOther, bne, h.asks, h.swKeys, h.time, h.passed]

/-- Without a value, a token asks for a trace or for nothing. -/
theorem Token.understood_bare (key : String) :
    Token.Understood ⟨key, none⟩ (key == "trigger-trace") none none none := by
  constructor
  · rw [Bool.eq_iff_iff]
    simp [triggerToken]
  · simp [Token.swKeys?]
  · simp [Token.time?]
  · simp [Token.attribute?]

/-- What is understood of a token that asks for this or that. A token of a kind has a key. -/
inductive Token.OfKind (t : Token) : Meaning → Prop
  | triggerTrace (kind : t.Understood true none none none) (key : t.key ≠ "") :
    OfKind t .triggerTrace
  | swKeys {v : String} (kind : t.Understood false (some v) none none) (key : t.key ≠ "") :
    OfKind t (.swKeys v)
  | timestamp {n : Int} (kind : t.Understood false none (some n) none) (key : t.key ≠ "") :
    OfKind t (.timestamp n)
  | custom {v : String} (kind : t.Understood false none none (some (t.key, v))) (key : t.key ≠ "") :
    OfKind t (.custom t.key v)
  | unknown (kind : t.Understood false none none none) : OfKind t (.unknown t.key)

/-- Every token is of exactly one kind, and that is what it asks for. -/
theorem Token.ofKind_meaning (t : Token) : t.OfKind t.meaning := by
  obtain ⟨key, value⟩ := t
  unfold Token.meaning
  cases value with
  | none =>
    have hbare := Token.understood_bare key
    dsimp only
    split
    · next hkey =>
      subst hkey
      exact .triggerTrace hbare (by simp)
    · next hkey =>
      rw [beq_false_of_ne hkey] at hbare
      exact .unknown hbare
  | some v =>
    have hasks : ((⟨key, some v⟩ : Token) == triggerToken) = false := by simp [triggerToken]
    dsimp only
    split
    · next hsw =>
      subst hsw
      have hnone : ¬ CustomKey "sw-keys" := by decide
      have hpassed : Token.attribute? ⟨"sw-keys", some v⟩ = none := if_neg hnone
      exact .swKeys ⟨hasks, by simp [Token.swKeys?], by simp [Token.time?], hpassed⟩ (by simp)
    · next hsw =>
      have hswKeys : Token.swKeys? ⟨key, some v⟩ = none := if_neg hsw
      split
      · next hts =>
        subst hts
        have hnone : ¬ CustomKey "ts" := by decide
        have hpassed : Token.attribute? ⟨"ts", some v⟩ = none := if_neg hnone
        -- a time that does not read is no time at all
        split
        · next n hread =>
          exact .timestamp ⟨hasks, hswKeys, by simp [Token.time?, hread], hpassed⟩ (by simp)
        · next hread =>
          exact .unknown ⟨hasks, hswKeys, by simp [Token.time?, hread], hpassed⟩
      · next hts =>
        have htime : Token.time? ⟨key, some v⟩ = none := if_neg hts
        split
        · next hcustom =>
          rw [isCustomKey_iff] at hcustom
          have hkey : key ≠ "" := by
            rintro rfl
            exact absurd hcustom (by decide)
          exact .custom ⟨hasks, hswKeys, htime, if_pos hcustom⟩ hkey
        · next hcustom =>
          rw [isCustomKey_iff] at hcustom
          exact .unknown ⟨hasks, hswKeys, htime, if_neg hcustom⟩

/-! ## What tokens mean together -/

/-- The keys of the tokens of no kind. -/
def otherKeys (ts : List Token) : List String :=
  ((ts.filter Token.isOther).map (·.key)).filter (· ≠ "")

/-- What the tokens of a header mean together, for everything but the authentication. -/
structure Means (ts : List Token) (o : TraceOptions) : Prop where
  triggerTrace : o.triggerTrace = true ↔ triggerToken ∈ ts
  /-- The first value counts. -/
  swKeys : o.swKeys = (ts.filterMap Token.swKeys?).head?
  /-- The first attribute of every key counts. -/
  custom : o.custom = TraceState.keepFirst (ts.filterMap Token.attribute?)
  custom_nodup : (o.custom.map (·.1)).Nodup
  custom_lookup : ∀ key, o.custom.lookup key = (ts.filterMap Token.attribute?).lookup key
  /-- The last time that reads counts. -/
  timestamp : o.timestamp = (ts.filterMap Token.time?).getLast?
  ignored : o.ignored = otherKeys ts
  /-- Every token with a key is counted once, by what is understood of it or among the ignored. -/
  accounted : (ts.filter (·.key ≠ "")).length =
    ts.count triggerToken + (ts.filterMap Token.swKeys?).length +
      (ts.filterMap Token.time?).length + (ts.filterMap Token.attribute?).length +
        o.ignored.length

/-- A token with a key is counted once, one without a key not at all. -/
theorem Token.counted_once (t : Token) : ([t].filter (·.key ≠ "")).length =
    [t].count triggerToken + ([t].filterMap Token.swKeys?).length +
      ([t].filterMap Token.time?).length + ([t].filterMap Token.attribute?).length +
        (otherKeys [t]).length := by
  unfold otherKeys
  have hkind := t.ofKind_meaning
  generalize t.meaning = meaning at hkind
  cases hkind with
  | triggerTrace kind key =>
    simp [List.count_cons, kind.asks, kind.swKeys, kind.time, kind.passed, kind.isOther, key]
  | swKeys kind key =>
    simp [List.count_cons, kind.asks, kind.swKeys, kind.time, kind.passed, kind.isOther, key]
  | timestamp kind key =>
    simp [List.count_cons, kind.asks, kind.swKeys, kind.time, kind.passed, kind.isOther, key]
  | custom kind key =>
    simp [List.count_cons, kind.asks, kind.swKeys, kind.time, kind.passed, kind.isOther, key]
  | unknown kind =>
    -- the key of a token of no kind may be missing, and then it is not listed either
    by_cases hkey : t.key = ""
    · simp [List.count_cons, kind.asks, kind.swKeys, kind.time, kind.passed, kind.isOther, hkey]
    · simp [List.count_cons, kind.asks, kind.swKeys, kind.time, kind.passed, kind.isOther, hkey]

theorem otherKeys_append (ts us : List Token) :
    otherKeys (ts ++ us) = otherKeys ts ++ otherKeys us := by
  simp [otherKeys]

/-- Every token with a key is of one kind or has its key among the others. -/
theorem length_filter_key (ts : List Token) : (ts.filter (·.key ≠ "")).length =
    ts.count triggerToken + (ts.filterMap Token.swKeys?).length +
      (ts.filterMap Token.time?).length + (ts.filterMap Token.attribute?).length +
        (otherKeys ts).length := by
  induction ts with
  | nil => rfl
  | cons t r ih =>
    have hone := t.counted_once
    rw [← List.singleton_append, List.filter_append, List.count_append, List.filterMap_append,
      List.filterMap_append, List.filterMap_append, otherKeys_append]
    simp only [List.length_append]
    omega

/-- The equations for what tokens mean: the rest follows. -/
theorem Means.of_laws {ts : List Token} {o : TraceOptions}
    (triggerTrace : o.triggerTrace = true ↔ triggerToken ∈ ts)
    (swKeys : o.swKeys = (ts.filterMap Token.swKeys?).head?)
    (custom : o.custom = TraceState.keepFirst (ts.filterMap Token.attribute?))
    (timestamp : o.timestamp = (ts.filterMap Token.time?).getLast?)
    (ignored : o.ignored = otherKeys ts) : Means ts o where
  triggerTrace := triggerTrace
  swKeys := swKeys
  custom := custom
  custom_nodup := by
    rw [custom]
    exact TraceState.nodup_keepFirst _
  custom_lookup := by
    intro key
    rw [custom, TraceState.lookup_keepFirst]
  timestamp := timestamp
  ignored := ignored
  accounted := by
    rw [ignored]
    exact length_filter_key ts

/-- One more token, by what is understood of it: a value counts if it is the first, a time because
it is the last. -/
theorem Means.concat {ts : List Token} {t : Token} {o after : TraceOptions} {asks : Bool}
    {swKeys : Option String} {time : Option Int} {passed : Option (String × String)}
    (h : Means ts o) (hkind : t.Understood asks swKeys time passed)
    (htrigger : after.triggerTrace = (o.triggerTrace || asks))
    (hswKeys : after.swKeys = o.swKeys.or swKeys)
    (hcustom : after.custom =
      TraceState.keepFirst (ts.filterMap Token.attribute? ++ passed.toList))
    (htime : after.timestamp = time.or o.timestamp)
    (hignored : after.ignored = o.ignored ++ otherKeys [t]) : Means (ts ++ [t]) after := by
  apply Means.of_laws
  · have hlast : t = triggerToken ↔ asks = true := by rw [← hkind.asks, beq_iff_eq]
    rw [htrigger, Bool.or_eq_true, h.triggerTrace, List.mem_append, List.mem_singleton, ← hlast,
      eq_comm]
  · rw [hswKeys, h.swKeys, List.filterMap_append, List.head?_append]
    cases swKeys with
    | none => simp [hkind.swKeys]
    | some v => simp [hkind.swKeys]
  · rw [hcustom, List.filterMap_append]
    cases passed with
    | none => simp [hkind.passed]
    | some pair => simp [hkind.passed]
  · rw [htime, h.timestamp, List.filterMap_append, List.getLast?_append]
    cases time with
    | none => simp [hkind.time]
    | some n => simp [hkind.time]
  · rw [hignored, h.ignored, otherKeys_append]

/-- One more token changes what it asks for and leaves the rest of the options as they were. -/
theorem Means.apply {ts : List Token} {o : TraceOptions} (h : Means ts o) (t : Token) :
    Means (ts ++ [t]) (o.apply t) := by
  have hcustom : o.custom = TraceState.keepFirst (ts.filterMap Token.attribute?) := h.custom
  have hkind := t.ofKind_meaning
  generalize hmeaning : t.meaning = meaning at hkind
  cases hkind with
  | triggerTrace kind key =>
    have hstep : o.apply t = { o with triggerTrace := true } := by
      simp [TraceOptions.apply, hmeaning]
    have hkeys : otherKeys [t] = [] := by simp [otherKeys, kind.isOther]
    rw [hstep]
    exact h.concat kind (by simp) (by simp) (by simpa using hcustom) (by simp) (by simp [hkeys])
  | @swKeys v kind key =>
    have hstep : o.apply t = { o with swKeys := some (o.swKeys.getD v) } := by
      simp [TraceOptions.apply, hmeaning]
    have hfirst : some (o.swKeys.getD v) = o.swKeys.or (some v) := by cases o.swKeys <;> rfl
    have hkeys : otherKeys [t] = [] := by simp [otherKeys, kind.isOther]
    rw [hstep]
    exact h.concat kind (by simp) hfirst (by simpa using hcustom) (by simp) (by simp [hkeys])
  | @timestamp n kind key =>
    have hstep : o.apply t = { o with timestamp := some n } := by
      simp [TraceOptions.apply, hmeaning]
    have hkeys : otherKeys [t] = [] := by simp [otherKeys, kind.isOther]
    rw [hstep]
    exact h.concat kind (by simp) (by simp) (by simpa using hcustom) (by simp) (by simp [hkeys])
  | @custom v kind key =>
    have hstep : o.apply t = { o with
        custom := TraceState.keepFirst (ts.filterMap Token.attribute? ++ [(t.key, v)]) } := by
      -- the attributes so far are the first of their keys, so a key is taken if one of them has it
      rw [TraceState.keepFirst_concat, ← hcustom]
      simp only [TraceOptions.apply, hmeaning]
      split
      · rfl
      · rfl
    have hkeys : otherKeys [t] = [] := by simp [otherKeys, kind.isOther]
    rw [hstep]
    exact h.concat kind (by simp) (by simp) (by simp) (by simp) (by simp [hkeys])
  | unknown kind =>
    have hstep : o.apply t = { o with ignored := o.ignored ++ otherKeys [t] } := by
      simp only [TraceOptions.apply, hmeaning]
      by_cases hkey : t.key = ""
      · simp [otherKeys, kind.isOther, hkey]
      · simp [otherKeys, kind.isOther, hkey]
    rw [hstep]
    exact h.concat kind (by simp) (by simp) (by simpa using hcustom) (by simp) rfl

/-- More tokens, one after another. -/
theorem Means.foldl {ts : List Token} {o : TraceOptions} (h : Means ts o) (us : List Token) :
    Means (ts ++ us) (us.foldl TraceOptions.apply o) := by
  induction us generalizing ts o with
  | nil => simpa using h
  | cons u us ih =>
    have hnext : Means (ts ++ [u] ++ us) (us.foldl TraceOptions.apply (o.apply u)) := ih (h.apply u)
    rwa [List.append_assoc, List.singleton_append] at hnext

end TraceOptions

end TraceSampler
