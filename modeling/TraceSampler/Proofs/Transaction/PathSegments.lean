import TraceSampler.Proofs.Text
import TraceSampler.Proofs.Text.Integer
import TraceSampler.Proofs.Transaction.PathNames

/-!
# Names made from the segments of a path

A path is named by its segments alone. How many slashes stand between them, before the first and
behind the last, makes no difference; nor does it whether the name is made or was kept from before.
A token of the pattern picks the segment with its number, counted from one, and a token without a
number, or with one that the path has no segment for, picks none. Where none is picked at all, the
first two segments make the name.

* `spelledBy_iff`: the segments of a path are those that spell it.
* `selectSegment?_eq_some_iff`, `picks_iff`: what a token picks, and what a whole pattern does.
* `nameOfPath_eq`: the name of a path, by its segments and those picked.
* `run_pathName_spelledBy`: paths spelled by the same segments are named alike, at any time.
-/

namespace TraceSampler.Transaction

/-! ## Segments -/

/-- Something stands there, and no slash in it. -/
structure IsSegment (part : String) : Prop where
  nonempty : part ≠ ""
  slash : '/' ∉ part.toList

/-- A path is spelled by segments: they stand in it in their order, with one slash or more between
two of them, and with any number of slashes at both ends. -/
inductive SpelledBy : List String → List Char → Prop
  | nothing : SpelledBy [] []
  | slash {parts : List String} {path : List Char} (h : SpelledBy parts path) :
      SpelledBy parts ('/' :: path)
  | last {part : String} (hpart : IsSegment part) : SpelledBy [part] part.toList
  | before {part : String} {parts : List String} {path : List Char} (hpart : IsSegment part)
      (h : SpelledBy parts path) : SpelledBy (part :: parts) (part.toList ++ '/' :: path)

/-- The segments that spell a path are the pieces between its slashes that are not empty. -/
theorem SpelledBy.segments_eq {parts : List String} {path : List Char} (h : SpelledBy parts path) :
    ((Text.split '/' path).filter fun s => !s.isEmpty).map String.ofList = parts := by
  have hkept : ∀ {part : String}, IsSegment part → ∀ rest : List (List Char),
      (part.toList :: rest).filter (fun s => !s.isEmpty) =
        part.toList :: rest.filter fun s => !s.isEmpty := by
    intro part hpart rest
    exact List.filter_cons_of_pos (by simpa using hpart.nonempty)
  induction h with
  | nothing => rfl
  | slash h ih =>
    simp only [Text.split, if_true]
    exact ih
  | last hpart =>
    rw [Text.split_eq_singleton hpart.slash, hkept hpart, List.filter_nil, List.map_singleton,
      String.ofList_toList]
  | before hpart h ih =>
    rw [Text.split_append hpart.slash, hkept hpart, List.map_cons, ih, String.ofList_toList]

/-- Every path is spelled by some segments. -/
theorem exists_spelledBy (path : List Char) : ∃ parts, SpelledBy parts path := by
  -- the path is cut at its first slash, and what is behind it is shorter
  induction hlength : path.length using Nat.strongRecOn generalizing path with
  | ind n ih =>
    subst hlength
    cases hcut : Text.splitFirst? '/' path with
    | none =>
      have hslash : '/' ∉ path := Text.splitFirst?_eq_none_iff.1 hcut
      cases path with
      | nil => exact ⟨[], .nothing⟩
      | cons c r =>
        have hpart : IsSegment (String.ofList (c :: r)) := ⟨by simp, by simpa using hslash⟩
        have hspelled := SpelledBy.last hpart
        rw [String.toList_ofList] at hspelled
        exact ⟨[String.ofList (c :: r)], hspelled⟩
    | some cut =>
      obtain ⟨front, behind⟩ := cut
      obtain ⟨rfl, hslash⟩ := Text.splitFirst?_eq_some_iff.1 hcut
      obtain ⟨parts, hbehind⟩ := ih behind.length (by simp; omega) behind rfl
      cases front with
      | nil => exact ⟨parts, .slash hbehind⟩
      | cons c r =>
        have hpart : IsSegment (String.ofList (c :: r)) := ⟨by simp, by simpa using hslash⟩
        refine ⟨String.ofList (c :: r) :: parts, ?_⟩
        have hspelled := SpelledBy.before hpart hbehind
        rwa [String.toList_ofList] at hspelled

/-- The segments of a path are those that spell it. -/
theorem spelledBy_iff {parts : List String} {path : String} :
    SpelledBy parts path.toList ↔ segments path = parts := by
  constructor
  · exact SpelledBy.segments_eq
  · rintro rfl
    obtain ⟨parts, hparts⟩ := exists_spelledBy path.toList
    have hsegments : segments path = parts := hparts.segments_eq
    rwa [hsegments]

theorem SpelledBy.isSegment_of_mem {parts : List String} {path : List Char}
    (h : SpelledBy parts path) {part : String} (hmem : part ∈ parts) : IsSegment part := by
  induction h with
  | nothing => exact absurd hmem List.not_mem_nil
  | slash h ih => exact ih hmem
  | last hpart => exact List.mem_singleton.1 hmem ▸ hpart
  | before hpart h ih =>
    rcases List.mem_cons.1 hmem with rfl | hmem
    · exact hpart
    · exact ih hmem

/-! ## Tokens -/

/-- A token names a number: it is the letter `p` with a numeral of 64 bits behind it, which a plus
sign may precede. -/
def Names (token : String) (k : Nat) : Prop :=
  ∃ digits, (token.toList = 'p' :: digits ∨ token.toList = 'p' :: '+' :: digits) ∧
    Text.Integer.Numeral digits k ∧ k < 2 ^ 64

/-- The token names a number, and the part is the one with that number, counted from one. -/
def Selects (parts : List String) (token part : String) : Prop :=
  ∃ k, Names token k ∧ 1 ≤ k ∧ parts[k - 1]? = some part

theorem names_iff {token : String} {k : Nat} :
    Names token k ↔ ∃ s, token.toList = 'p' :: s ∧ Text.Integer.readUnsigned64? s = some k := by
  simp only [Text.Integer.readUnsigned64?_eq_some_iff]
  constructor
  · rintro ⟨digits, htoken | htoken, hnumeral, hk⟩
    · exact ⟨digits, htoken, .inl hnumeral, hk⟩
    · exact ⟨'+' :: digits, htoken, .inr ⟨digits, rfl, hnumeral⟩, hk⟩
  · rintro ⟨s, htoken, hnumeral | ⟨digits, rfl, hnumeral⟩, hk⟩
    · exact ⟨s, .inl htoken, hnumeral, hk⟩
    · exact ⟨digits, .inr htoken, hnumeral, hk⟩

/-- What a token with the letter in front names is what is behind the letter. -/
theorem names_iff_of_toList {token : String} {s : List Char} {k : Nat}
    (h : token.toList = 'p' :: s) : Names token k ↔ Text.Integer.readUnsigned64? s = some k := by
  rw [names_iff]
  constructor
  · rintro ⟨s', hs', hread⟩
    obtain rfl : s = s' := List.tail_eq_of_cons_eq (h.symm.trans hs')
    exact hread
  · exact fun hread => ⟨s, h, hread⟩

/-- A token picks the segment that it selects. -/
theorem selectSegment?_eq_some_iff {parts : List String} {token part : String} :
    selectSegment? parts token = some part ↔ Selects parts token part := by
  unfold selectSegment? Selects
  split
  · next s hs =>
    simp only [names_iff_of_toList hs]
    split
    · next n hread =>
      constructor
      · exact fun hpart => ⟨n + 1, hread, Nat.le_add_left 1 n, hpart⟩
      · rintro ⟨k, hread', -, hpart⟩
        obtain rfl : n + 1 = k := Option.some.inj (hread.symm.trans hread')
        exact hpart
    · next hread =>
      -- no number is there, or zero, and segments are counted from one
      refine iff_of_false (Option.some_ne_none part).symm ?_
      rintro ⟨k, hread', hk, -⟩
      obtain ⟨n, rfl⟩ : ∃ n, k = n + 1 := ⟨k - 1, by omega⟩
      exact hread n hread'
  · next hs =>
    refine iff_of_false (Option.some_ne_none part).symm ?_
    rintro ⟨k, hnames, -⟩
    obtain ⟨s, hs', -⟩ := names_iff.1 hnames
    exact hs s hs'

/-- What the tokens of a pattern pick of the segments of a path, in the order of the tokens. -/
inductive Picks (parts : List String) : List String → List String → Prop
  | none : Picks parts [] []
  | hit {token part : String} {pattern picked : List String} (hselects : Selects parts token part)
      (h : Picks parts pattern picked) : Picks parts (token :: pattern) (part :: picked)
  | miss {token : String} {pattern picked : List String}
      (hbeyond : ∀ k, Names token k → k = 0 ∨ parts.length < k) (h : Picks parts pattern picked) :
      Picks parts (token :: pattern) picked

/-- A token selects nothing if and only if it names no number of a segment. -/
theorem selectSegment?_eq_none_iff {parts : List String} {token : String} :
    selectSegment? parts token = none ↔ ∀ k, Names token k → k = 0 ∨ parts.length < k := by
  simp only [Option.eq_none_iff_forall_ne_some, ne_eq, selectSegment?_eq_some_iff]
  constructor
  · intro h k hnames
    rcases Nat.lt_or_ge (k - 1) parts.length with hk | hk
    · have hzero : ¬ 1 ≤ k := by
        intro hpos
        exact h parts[k - 1] ⟨k, hnames, hpos, List.getElem?_eq_getElem hk⟩
      omega
    · omega
  · rintro h part ⟨k, hnames, hk, hpart⟩
    obtain ⟨hlt, -⟩ := List.getElem?_eq_some_iff.1 hpart
    have hbeyond := h k hnames
    omega

/-- Every token of a pattern picks what it selects. -/
theorem picks_iff {parts pattern picked : List String} :
    Picks parts pattern picked ↔ pattern.filterMap (selectSegment? parts) = picked := by
  constructor
  · intro h
    induction h with
    | none => rfl
    | hit hselects h ih => rw [List.filterMap_cons_some (selectSegment?_eq_some_iff.2 hselects), ih]
    | miss hbeyond h ih => rw [List.filterMap_cons_none (selectSegment?_eq_none_iff.2 hbeyond), ih]
  · rintro rfl
    induction pattern with
    | nil => exact .none
    | cons token r ih =>
      cases hselect : selectSegment? parts token with
      | some part =>
        rw [List.filterMap_cons_some hselect]
        exact .hit (selectSegment?_eq_some_iff.1 hselect) ih
      | none =>
        rw [List.filterMap_cons_none hselect]
        exact .miss (selectSegment?_eq_none_iff.1 hselect) ih

/-! ## Names -/

/-- The name that the segments of a path make, of which some were picked. -/
def nameOfSegments (parts picked : List String) : String :=
  if picked = [] then "/" ++ "/".intercalate (parts.take 2) else ".".intercalate picked

/-- Segments leave a text behind, however they are joined. -/
theorem intercalate_ne_empty {sep : String} {parts : List String} (hne : parts ≠ [])
    (h : ∀ part ∈ parts, IsSegment part) : sep.intercalate parts ≠ "" := by
  obtain ⟨part, r, rfl⟩ := List.exists_cons_of_ne_nil hne
  have hpart : part ≠ "" := (h part List.mem_cons_self).nonempty
  cases r with
  | nil => simpa using hpart
  | cons q qs =>
    intro hempty
    have hchars := congrArg String.toList hempty
    rw [String.toList_intercalate, List.map_cons, List.map_cons, List.intercalate_cons_cons,
      String.toList_empty, List.append_eq_nil_iff, List.append_eq_nil_iff] at hchars
    exact hpart (String.toList_eq_nil_iff.1 hchars.1.1)

/-- What is picked are segments. -/
theorem Picks.mem {parts pattern picked : List String} (h : Picks parts pattern picked) :
    ∀ part ∈ picked, part ∈ parts := by
  intro part hmem
  induction h with
  | none => exact absurd hmem List.not_mem_nil
  | hit hselects h ih =>
    rcases List.mem_cons.1 hmem with rfl | hmem
    · obtain ⟨k, -, -, hpart⟩ := hselects
      exact List.mem_of_getElem? hpart
    · exact ih hmem
  | miss hbeyond h ih => exact ih hmem

/-- The name of a path, by its segments and those that are picked. -/
theorem nameOfPath_eq {pattern : Option (List String)} {path : String} {parts picked : List String}
    (hpath : SpelledBy parts path.toList) (hpicks : Picks parts (pattern.getD []) picked) :
    nameOfPath pattern path = nameOfSegments parts picked := by
  have hcustom : (pattern.map fun p => nameByPattern p parts).getD "" = ".".intercalate picked := by
    rw [← picks_iff.1 hpicks]
    cases pattern with
    | none => rfl
    | some tokens => exact Text.joinWith_eq_intercalate "." _
  unfold nameOfPath nameOfSegments
  simp only [spelledBy_iff.1 hpath, hcustom]
  -- a joined name is empty only if nothing was picked, since no segment is
  by_cases hnone : picked = []
  · subst hnone
    exact congrArg ("/" ++ ·) (Text.joinWith_eq_intercalate "/" _)
  · have htext : ".".intercalate picked ≠ "" :=
      intercalate_ne_empty hnone fun part hmem => hpath.isSegment_of_mem (hpicks.mem part hmem)
    rw [if_neg hnone, if_neg (by simpa using htext)]

/-! ## Runs -/

namespace Namer

/-- Two requests that differ at most in the path. -/
structure DifferInPath (r r' : NameRequest) : Prop where
  traceId : r.traceId = r'.traceId
  span : r.span = r'.span
  attributes : ∀ key, key ≠ "url.path" → r.attributes.get? key = r'.attributes.get? key

/-- The domain in front of a name is not taken from the path. -/
theorem DifferInPath.qualified_eq {r r' : NameRequest} (h : DifferInPath r r') (c : NamingConfig)
    (name : String) : c.qualified name r.attributes = c.qualified name r'.attributes := by
  have htext : ∀ key, key ≠ "url.path" →
      r.attributes.nonemptyText? key = r'.attributes.nonemptyText? key := by
    intro key hkey
    simp only [Attributes.nonemptyText?, Attributes.text?, h.attributes key hkey]
  have hdomain : domain? r.attributes = domain? r'.attributes := by
    simp only [domain?, htext "http.host" (by decide), htext "server.address" (by decide)]
  simp only [NamingConfig.qualified, prefixed, hdomain]

/-- Without a cache, paths of the same name are as good as each other. -/
theorem DifferInPath.nameBy_eq {c : NamingConfig} {n : Namer} {r r' : NameRequest}
    {path path' : String} (h : DifferInPath r r') (hr : c.source? r = some (.path path))
    (hr' : c.source? r' = some (.path path'))
    (hname : nameOfPath c.pattern path = nameOfPath c.pattern path') :
    n.nameBy (pathNameAnew c) c r = n.nameBy (pathNameAnew c) c r' := by
  have hderive : ∀ m : Namer,
      m.deriveBy (pathNameAnew c) c r = m.deriveBy (pathNameAnew c) c r' := by
    intro m
    simp only [deriveBy, hr, hr', sourceNameBy, pathNameAnew, hname, h.qualified_eq]
  simp only [nameBy, h.traceId, hderive]

/-- The names kept for paths are right after any run that starts without any. -/
theorem remembers_run (c : NamingConfig) {n : Namer} (hnew : n.pathNames.entries = [])
    (events : List Event) :
    (run c n events).1.pathNames.Remembers (nameOfPath c.pattern) := by
  have hstart : SameButPaths c n n :=
    ⟨rfl, rfl, rfl, ExpiringCache.Remembers.of_entries_eq_nil hnew⟩
  exact (run_simulates (step c) (fun _ _ e h => h.step e) hstart events).2.kept

/-- The name of a path depends on its segments alone, at any time in a run. The tokens of the
pattern pick segments, each the one with its number or none, in one way only; the name is made of
those picked, or else of the first two. Requests that differ in their paths, and only in how the
same segments are spelled in them, are named alike. -/
theorem run_pathName_spelledBy (c : NamingConfig) (n : Namer) (events : List Event)
    (hnew : n.pathNames.entries = []) (parts : List String) :
    let found := (run c n events).1
    (∃ picked, Picks parts (c.pattern.getD []) picked ∧
      (∀ other, Picks parts (c.pattern.getD []) other → other = picked) ∧
      ∀ path : String, SpelledBy parts path.toList →
        (found.pathName c path).2 = nameOfSegments parts picked) ∧
    ∀ (r r' : NameRequest) (path path' : String), DifferInPath r r' →
      c.source? r = some (.path path) → c.source? r' = some (.path path') →
      SpelledBy parts path.toList → SpelledBy parts path'.toList →
      (found.name c r).2 = (found.name c r').2 := by
  intro found
  have hsame : SameButPaths c found found := ⟨rfl, rfl, rfl, remembers_run c hnew events⟩
  obtain ⟨picked, hpicks⟩ : ∃ picked, Picks parts (c.pattern.getD []) picked :=
    ⟨_, picks_iff.2 rfl⟩
  refine ⟨⟨picked, hpicks, ?_, ?_⟩, ?_⟩
  · intro other hother
    exact (picks_iff.1 hother).symm.trans (picks_iff.1 hpicks)
  · intro path hpath
    rw [(hsame.pathName path).1]
    exact nameOfPath_eq hpath hpicks
  · intro r r' path path' hdiffer hr hr' hpath hpath'
    have hname : nameOfPath c.pattern path = nameOfPath c.pattern path' := by
      rw [nameOfPath_eq hpath hpicks, nameOfPath_eq hpath' hpicks]
    rw [(hsame.name r).1, (hsame.name r').1, hdiffer.nameBy_eq hr hr' hname]

/-- Tokens that pick nothing are passed over: they number no segment, number one beyond the path, or
are blank. The name is the same for the path that it was made from and is kept for, and for one
that has more slashes. -/
theorem run_pathName_spelledBy_slashes :
    let c : NamingConfig :=
      { pattern := some ["p2", "p0", "p+1", "p99999999999999999999", "", "p-1", "p02"] }
    let n := following none
    let events := [Event.name (pathNamed "/shop/cart"), .advance 1, .name (pathNamed "/")]
    let found := (run c n events).1
    n.pathNames.entries = [] ∧
      (run c n events).2 = [.name "cart.shop.cart", .nothing, .name "/"] ∧
      (found.pathNames.get "/shop/cart" found.now).2 = some "cart.shop.cart" ∧
      (found.pathNames.get "shop//cart/" found.now).2 = none ∧
      (found.pathName c "shop//cart/").2 = "cart.shop.cart" ∧
      (∃ picked, Picks ["shop", "cart"] (c.pattern.getD []) picked ∧
        (∀ other, Picks ["shop", "cart"] (c.pattern.getD []) other → other = picked) ∧
        ∀ path : String, SpelledBy ["shop", "cart"] path.toList →
          (found.pathName c path).2 = nameOfSegments ["shop", "cart"] picked) ∧
      ∀ (r r' : NameRequest) (path path' : String), DifferInPath r r' →
        c.source? r = some (.path path) → c.source? r' = some (.path path') →
        SpelledBy ["shop", "cart"] path.toList → SpelledBy ["shop", "cart"] path'.toList →
        (found.name c r).2 = (found.name c r').2 :=
  ⟨rfl, by decide +kernel, by decide +kernel, by decide +kernel, by decide +kernel,
    run_pathName_spelledBy _ _ _ rfl _⟩

end Namer

end TraceSampler.Transaction
