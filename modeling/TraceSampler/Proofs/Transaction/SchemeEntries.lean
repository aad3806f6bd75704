import TraceSampler.Proofs.Text
import TraceSampler.Transaction.Scheme

/-!
# Which entry of a list of schemes makes the name

An entry speaks for a span if it is complete and lists one of the attributes of the span, be the
attribute blank or an empty list. The first entry that speaks has the say: its name is the values of
the attributes that it lists, key by key, with its delimiter between them. Entries that are absent or
not complete never speak, so they may stand anywhere in a list or be left out. The kind of scheme
that an entry asks for is not looked at, so an entry of a kind that is not known speaks like any
other.

* `contributes_iff`: what the attributes put into a name.
* `listedName?_eq_some_iff`, `listedName?_eq_none_iff`: what one entry comes to.
* `hasTheSay_iff`: how the entry that has the say is found.
* `name?_ofEntries_filter`: a list without some of its entries makes the same name, as long as the
  one that has the say is kept.
* `name?_ofEntries`: the name that a whole list makes.
* `name?_ofEntries_otherKind`: an entry of another kind that has the say.
-/

namespace TraceSampler.Transaction

/-! ## What attributes put into a name -/

/-- The texts that attributes put into a name, key by key: each item of a list, and any other value
as it is. A key without an attribute puts in nothing. -/
inductive Contributes (a : Attributes) : List String → List String → Prop
  | nothing : Contributes a [] []
  | absent {key : String} {keys texts : List String} (habsent : a.get? key = none)
      (h : Contributes a keys texts) : Contributes a (key :: keys) texts
  | single {key : String} {v : AttributeValue} {keys texts : List String}
      (hvalue : a.get? key = some v) (hsingle : ∀ items, v ≠ .list items)
      (h : Contributes a keys texts) : Contributes a (key :: keys) (v.write :: texts)
  | items {key : String} {items : List AttributeValue} {keys texts : List String}
      (hlist : a.get? key = some (.list items)) (h : Contributes a keys texts) :
      Contributes a (key :: keys) (items.map AttributeValue.write ++ texts)

theorem writeItems_eq_map (items : List AttributeValue) :
    AttributeValue.writeItems items = items.map AttributeValue.write := by
  induction items with
  | nil => rfl
  | cons v r ih => rw [AttributeValue.writeItems, ih, List.map_cons]

theorem texts_of_single {v : AttributeValue} (h : ∀ items, v ≠ .list items) :
    v.texts = [v.write] := by
  cases v with
  | list items => exact absurd rfl (h items)
  | text s => rfl
  | bool b => rfl
  | whole n => rfl
  | real x => rfl

/-- The texts of the attributes that are there are what they put into a name. -/
theorem contributes_iff {a : Attributes} {keys texts : List String} :
    Contributes a keys texts ↔ (keys.filterMap a.get?).flatMap AttributeValue.texts = texts := by
  constructor
  · intro h
    induction h with
    | nothing => rfl
    | absent habsent h ih => rw [List.filterMap_cons_none habsent, ih]
    | single hvalue hsingle h ih =>
      rw [List.filterMap_cons_some hvalue, List.flatMap_cons, ih, texts_of_single hsingle]
      rfl
    | items hlist h ih =>
      rw [List.filterMap_cons_some hlist, List.flatMap_cons, ih, AttributeValue.texts,
        writeItems_eq_map]
  · rintro rfl
    induction keys with
    | nil => exact .nothing
    | cons key r ih =>
      -- under the first key there is nothing, a list, or a single value
      cases hvalue : a.get? key with
      | none =>
        rw [List.filterMap_cons_none hvalue]
        exact .absent hvalue ih
      | some v =>
        rw [List.filterMap_cons_some hvalue, List.flatMap_cons]
        by_cases hlist : ∃ items, v = .list items
        · obtain ⟨items, rfl⟩ := hlist
          rw [AttributeValue.texts, writeItems_eq_map]
          exact .items hvalue ih
        · rw [not_exists] at hlist
          rw [texts_of_single hlist]
          exact .single hvalue hlist ih

/-! ## One entry -/

/-- An entry is complete, and this is its scheme. -/
structure SchemeEntry.Gives (e : SchemeEntry) (s : Scheme) : Prop where
  delimiter : e.delimiter = some s.delimiter
  keys : e.attributes = some s.keys

/-- One of the attributes that a scheme lists is there. -/
def Scheme.Finds (s : Scheme) (a : Attributes) : Prop := ∃ key ∈ s.keys, ∃ v, a.get? key = some v

/-- An entry makes a name, whichever. -/
def SchemeEntry.Speaks (e : SchemeEntry) (a : Attributes) : Prop := ∃ s, e.Gives s ∧ s.Finds a

/-- The name that an entry makes: what the attributes that it lists put into it, with its delimiter
between them. -/
inductive SchemeEntry.Makes (e : SchemeEntry) (a : Attributes) : String → Prop
  | intro {s : Scheme} {texts : List String} (hgives : e.Gives s) (hfinds : s.Finds a)
      (htexts : Contributes a s.keys texts) : e.Makes a (s.delimiter.intercalate texts)

theorem SchemeEntry.Makes.speaks {e : SchemeEntry} {a : Attributes} {name : String}
    (h : e.Makes a name) : e.Speaks a := by
  cases h with
  | intro hgives hfinds _ => exact ⟨_, hgives, hfinds⟩

theorem SchemeEntry.scheme?_eq_some_iff {e : SchemeEntry} {s : Scheme} :
    e.scheme? = some s ↔ e.Gives s := by
  obtain ⟨scheme, delimiter, attributes⟩ := e
  obtain ⟨d, keys⟩ := s
  constructor
  · intro h
    cases delimiter with
    | none => simp [scheme?] at h
    | some d' =>
      cases attributes with
      | none => simp [scheme?] at h
      | some keys' =>
        obtain ⟨rfl, rfl⟩ : d' = d ∧ keys' = keys := by simpa [scheme?] using h
        exact ⟨rfl, rfl⟩
  · rintro ⟨hdelimiter, hkeys⟩
    simp only at hdelimiter hkeys
    simp only [scheme?, hdelimiter, hkeys]

theorem Scheme.isEmpty_found_iff {s : Scheme} {a : Attributes} :
    (s.keys.filterMap a.get?).isEmpty = true ↔ ¬ s.Finds a := by
  rw [List.isEmpty_iff, List.filterMap_eq_nil_iff]
  simp only [Finds, not_exists, not_and, Option.eq_none_iff_forall_ne_some, ne_eq]

theorem Scheme.name?_eq_none_iff {s : Scheme} {a : Attributes} :
    s.name? a = none ↔ ¬ s.Finds a := by
  rw [← isEmpty_found_iff, name?]
  simp

theorem Scheme.name?_eq_some_iff {s : Scheme} {a : Attributes} {name : String} :
    s.name? a = some name ↔
      s.Finds a ∧ ∃ texts, Contributes a s.keys texts ∧ s.delimiter.intercalate texts = name := by
  simp only [name?, Option.ite_none_left_eq_some, isEmpty_found_iff, Classical.not_not,
    Option.some.injEq, Text.joinWith_eq_intercalate, contributes_iff, exists_eq_left']

/-- The name that an entry of a list makes, if it makes one. -/
def listedName? (a : Attributes) (x : Option SchemeEntry) : Option String :=
  (x.bind SchemeEntry.scheme?).bind fun s => s.name? a

theorem listedName?_eq_some_iff {a : Attributes} {e : SchemeEntry} {name : String} :
    listedName? a (some e) = some name ↔ e.Makes a name := by
  rw [listedName?, Option.bind_some, Option.bind_eq_some_iff]
  constructor
  · rintro ⟨s, hscheme, hname⟩
    obtain ⟨hfinds, texts, htexts, rfl⟩ := Scheme.name?_eq_some_iff.1 hname
    exact .intro (SchemeEntry.scheme?_eq_some_iff.1 hscheme) hfinds htexts
  · rintro ⟨hgives, hfinds, htexts⟩
    exact ⟨_, SchemeEntry.scheme?_eq_some_iff.2 hgives,
      Scheme.name?_eq_some_iff.2 ⟨hfinds, _, htexts, rfl⟩⟩

theorem listedName?_eq_none_iff {a : Attributes} {e : SchemeEntry} :
    listedName? a (some e) = none ↔ ¬ e.Speaks a := by
  rw [listedName?, Option.bind_some, Option.bind_eq_none_iff]
  simp only [SchemeEntry.scheme?_eq_some_iff, Scheme.name?_eq_none_iff, SchemeEntry.Speaks,
    not_exists, not_and]

theorem isSome_listedName?_iff {a : Attributes} {e : SchemeEntry} :
    (listedName? a (some e)).isSome = true ↔ e.Speaks a := by
  rw [Option.isSome_iff_ne_none, ne_eq, listedName?_eq_none_iff, Classical.not_not]

/-! ## Lists of entries -/

/-- The first entry that speaks has the say. -/
inductive HasTheSay (entries : List (Option SchemeEntry)) (a : Attributes) (e : SchemeEntry) : Prop
  | intro {before behind : List (Option SchemeEntry)} (hsplit : entries = before ++ some e :: behind)
      (hspeaks : e.Speaks a) (hbefore : ∀ earlier, some earlier ∈ before → ¬ earlier.Speaks a)

/-- Only a complete entry has the say. -/
theorem HasTheSay.exists_gives {entries : List (Option SchemeEntry)} {a : Attributes}
    {e : SchemeEntry} (h : HasTheSay entries a e) : ∃ s, e.Gives s := by
  obtain ⟨-, ⟨s, hgives, -⟩, -⟩ := h
  exact ⟨s, hgives⟩

/-- The entry that has the say is found by its making a name. -/
theorem hasTheSay_iff {entries : List (Option SchemeEntry)} {a : Attributes} {e : SchemeEntry} :
    HasTheSay entries a e ↔
      entries.find? (fun x => (listedName? a x).isSome) = some (some e) := by
  rw [List.find?_eq_some_iff_append]
  constructor
  · rintro @⟨before, behind, hsplit, hspeaks, hbefore⟩
    refine ⟨isSome_listedName?_iff.2 hspeaks, before, behind, hsplit, ?_⟩
    intro x hmem
    cases x with
    | none => rfl
    | some earlier => simp [listedName?_eq_none_iff.2 (hbefore earlier hmem)]
  · rintro ⟨hname, before, behind, hsplit, hbefore⟩
    refine .intro hsplit (isSome_listedName?_iff.1 hname) ?_
    intro earlier hmem hspeaks
    have hsilent := hbefore (some earlier) hmem
    rw [isSome_listedName?_iff.2 hspeaks] at hsilent
    exact absurd hsilent (by decide)

/-- The one kind of scheme that is known. -/
def knownKind : String := "spanAttribute"

/-- An entry asks for no other kind of scheme than the known one. -/
def SchemeEntry.isKnown (e : SchemeEntry) : Bool := e.scheme.all (· == knownKind)

/-- An entry is complete and asks for no other kind of scheme than the known one. -/
def SchemeEntry.isUsable (e : SchemeEntry) : Bool :=
  e.delimiter.isSome && e.attributes.isSome && e.isKnown

namespace SchemeChain

theorem name?_ofEntries_eq_findSome? (entries : List (Option SchemeEntry)) (a : Attributes) :
    (ofEntries entries).name? a = entries.findSome? (listedName? a) := by
  show (entries.filterMap fun x => x.bind SchemeEntry.scheme?).findSome? (fun s => s.name? a) = _
  induction entries with
  | nil => rfl
  | cons x r ih =>
    simp only [List.filterMap_cons, List.findSome?_cons, listedName?]
    cases x.bind SchemeEntry.scheme? with
    | none => exact ih
    | some s => rw [List.findSome?_cons, Option.bind_some, ih]

/-- A list makes a name where one of its entries has the say, and then it is the name of that
entry. -/
theorem name?_ofEntries_eq_some_iff {entries : List (Option SchemeEntry)} {a : Attributes}
    {name : String} :
    (ofEntries entries).name? a = some name ↔ ∃ e, HasTheSay entries a e ∧ e.Makes a name := by
  rw [name?_ofEntries_eq_findSome?, List.findSome?_eq_some_iff]
  constructor
  · rintro ⟨before, x, behind, hsplit, hname, hbefore⟩
    cases x with
    | none => simp [listedName?] at hname
    | some e =>
      have hmakes : e.Makes a name := listedName?_eq_some_iff.1 hname
      refine ⟨e, .intro hsplit hmakes.speaks ?_, hmakes⟩
      exact fun earlier hmem => listedName?_eq_none_iff.1 (hbefore (some earlier) hmem)
  · rintro ⟨e, ⟨hsplit, -, hbefore⟩, hmakes⟩
    refine ⟨_, some e, _, hsplit, listedName?_eq_some_iff.2 hmakes, ?_⟩
    intro x hmem
    cases x with
    | none => rfl
    | some earlier => exact listedName?_eq_none_iff.2 (hbefore earlier hmem)

theorem name?_ofEntries_eq_none_iff {entries : List (Option SchemeEntry)} {a : Attributes} :
    (ofEntries entries).name? a = none ↔ ∀ e, some e ∈ entries → ¬ e.Speaks a := by
  rw [name?_ofEntries_eq_findSome?, List.findSome?_eq_none_iff]
  constructor
  · exact fun h e hmem => listedName?_eq_none_iff.1 (h (some e) hmem)
  · intro h x hmem
    cases x with
    | none => rfl
    | some e => exact listedName?_eq_none_iff.2 (h e hmem)

/-- Of a list, any entries may be left out but the one that has the say. -/
theorem name?_ofEntries_filter {entries : List (Option SchemeEntry)} {a : Attributes}
    {keep : Option SchemeEntry → Bool} (h : ∀ e, HasTheSay entries a e → keep (some e) = true) :
    (ofEntries (entries.filter keep)).name? a = (ofEntries entries).name? a := by
  rw [name?_ofEntries_eq_findSome?, name?_ofEntries_eq_findSome?]
  induction entries with
  | nil => rfl
  | cons x r ih =>
    simp only [hasTheSay_iff, List.find?_cons] at h ih
    cases hx : listedName? a x with
    | some name =>
      -- the entry in front has the say, so it is kept
      cases x with
      | none => simp [listedName?] at hx
      | some e =>
        have hkeep : keep (some e) = true := h e (by rw [hx]; rfl)
        rw [List.filter_cons_of_pos hkeep, List.findSome?_cons, List.findSome?_cons, hx]
    | none =>
      -- kept or not, it leaves the say to those behind it
      rw [hx] at h
      have hrest := ih h
      rw [List.findSome?_cons, hx, ← hrest]
      cases hkeep : keep x with
      | true => rw [List.filter_cons_of_pos hkeep, List.findSome?_cons, hx]
      | false => rw [List.filter_cons_of_neg (by simp [hkeep])]

/-- The name that a list of entries makes is that of the first complete one that lists an attribute
of the span, and without such an entry there is none. Absent and incomplete entries may be left out,
all of them or some. Entries of another kind than the known one may be left out as long as none of
them has the say. -/
theorem name?_ofEntries (entries : List (Option SchemeEntry)) (a : Attributes) :
    (∀ name, (ofEntries entries).name? a = some name ↔
      ∃ e, HasTheSay entries a e ∧ e.Makes a name) ∧
    ((ofEntries entries).name? a = none ↔ ∀ e, some e ∈ entries → ¬ e.Speaks a) ∧
    (∀ keep : Option SchemeEntry → Bool, (∀ e s, e.Gives s → keep (some e) = true) →
      (ofEntries (entries.filter keep)).name? a = (ofEntries entries).name? a) ∧
    ((∀ e, HasTheSay entries a e → e.isKnown = true) →
      (ofEntries (entries.filter (·.any SchemeEntry.isUsable))).name? a =
        (ofEntries entries).name? a) := by
  refine ⟨fun name => name?_ofEntries_eq_some_iff, name?_ofEntries_eq_none_iff, ?_, ?_⟩
  · intro keep hkeep
    refine name?_ofEntries_filter fun e he => ?_
    obtain ⟨s, hgives⟩ := he.exists_gives
    exact hkeep e s hgives
  · intro hknown
    refine name?_ofEntries_filter fun e he => ?_
    obtain ⟨s, hgives⟩ := he.exists_gives
    simp [SchemeEntry.isUsable, hgives.delimiter, hgives.keys, hknown e he]

/-- Of six entries the fourth has the say: the first is absent, the second one is not complete, and
the third one lists an attribute that is not there. It asks for no kind of scheme, and the values
that it finds are a list with a blank item and a list within, nothing, and a number that it lists
twice. The entry of another kind behind it makes no difference. -/
theorem name?_ofEntries_flattened :
    let saying : SchemeEntry := ⟨none, some "-", some ["tags", "gone", "count", "count"]⟩
    let entries : List (Option SchemeEntry) :=
      [none, some ⟨some "spanAttribute", none, some ["count"]⟩,
        some ⟨some "spanAttribute", some "/", some ["gone"]⟩, some saying,
        some ⟨some "regex", some ":", some ["count"]⟩, some ⟨none, some "", some ["tags"]⟩]
    let a : Attributes :=
      ⟨[("tags", .list [.text "", .list [.text "x", .bool true]]), ("count", .whole 3)]⟩
    HasTheSay entries a saying ∧ saying.Makes a "-[x, true]-3-3" ∧
      (ofEntries entries).name? a = some "-[x, true]-3-3" ∧
      (∀ e, HasTheSay entries a e → e.isKnown = true) ∧
      (ofEntries (entries.filter (·.any (·.delimiter.isSome)))).name? a =
        (ofEntries entries).name? a ∧
      (ofEntries (entries.filter (·.any SchemeEntry.isUsable))).name? a =
        (ofEntries entries).name? a ∧
      (entries.filter (·.any SchemeEntry.isUsable)).length = 3 := by
  intro saying entries a
  obtain ⟨hname, -, hinert, hkinds⟩ := name?_ofEntries entries a
  have hfound : entries.find? (fun x => (listedName? a x).isSome) = some (some saying) := by
    decide +kernel
  have hsay : HasTheSay entries a saying := hasTheSay_iff.2 hfound
  have hmakes : saying.Makes a "-[x, true]-3-3" := listedName?_eq_some_iff.1 (by decide +kernel)
  have hknown : ∀ e, HasTheSay entries a e → e.isKnown = true := by
    intro e he
    obtain rfl : saying = e := by simpa [hfound] using hasTheSay_iff.1 he
    rfl
  have hcomplete : ∀ (e : SchemeEntry) (s : Scheme), e.Gives s →
      (some e).any (·.delimiter.isSome) = true := by
    intro e s hgives
    simp [hgives.delimiter]
  exact ⟨hsay, hmakes, (hname _).2 ⟨saying, hsay, hmakes⟩, hknown, hinert _ hcomplete,
    hkinds hknown, by decide +kernel⟩

/-- An entry of another kind that has the say makes the name, and silences the entry of the known
kind behind it. -/
theorem name?_ofEntries_otherKind :
    let entries : List (Option SchemeEntry) :=
      [some ⟨some "regex", some "-", some ["http.method"]⟩,
        some ⟨some "spanAttribute", some "-", some ["http.route"]⟩]
    let a : Attributes := ⟨[("http.method", .text "GET"), ("http.route", .text "/orders")]⟩
    (ofEntries (entries.filter (·.any SchemeEntry.isUsable))).name? a ≠
        (ofEntries entries).name? a ∧
      (ofEntries entries).name? a = some "GET" := by
  decide +kernel

end SchemeChain

end TraceSampler.Transaction
