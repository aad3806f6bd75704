/-!
# Text as lists of characters

The header formats are all built from the same few moves: trim blank characters, split at a
delimiter, join again, replace a marker. They are defined here on `List Char`, so that each is a
structural recursion with its own small laws; `String` is the type in which text is kept.

* `join_split`: splitting at a delimiter loses nothing.
* `not_mem_of_mem_split`: no piece of a split holds the delimiter.
* `splitFirst?_eq_some_iff`: cutting at the first delimiter is exact.
-/

namespace TraceSampler.Text

/-- The characters with the Unicode property `White_Space`. -/
def isBlank (c : Char) : Bool :=
  let n := c.toNat
  (9 ≤ n && n ≤ 13) || n == 0x20 || n == 0x85 || n == 0xA0 || n == 0x1680 ||
    (0x2000 ≤ n && n ≤ 0x200A) || n == 0x2028 || n == 0x2029 || n == 0x202F || n == 0x205F ||
    n == 0x3000

def trimStart (s : List Char) : List Char := s.dropWhile isBlank

def trimEnd (s : List Char) : List Char := (s.reverse.dropWhile isBlank).reverse

/-- The text without the blank characters at its two ends. -/
def trim (s : List Char) : List Char := trimEnd (trimStart s)

/-- The pieces between the occurrences of `d`; there is always at least one. -/
def split (d : Char) : List Char → List (List Char)
  | [] => [[]]
  | c :: r =>
    if c = d then [] :: split d r
    else
      match split d r with
      | [] => [[c]]
      | p :: ps => (c :: p) :: ps

/-- The text before and after the first `d`, if there is one. -/
def splitFirst? (d : Char) : List Char → Option (List Char × List Char)
  | [] => none
  | c :: r => if c = d then some ([], r) else (splitFirst? d r).map fun (a, b) => (c :: a, b)

/-- The pieces with `sep` between neighbours. -/
def join (sep : List Char) : List (List Char) → List Char
  | [] => []
  | [p] => p
  | p :: q :: ps => p ++ sep ++ join sep (q :: ps)

/-- Replaces the occurrences of `mark` that a scan from the left meets, none overlapping the one
before it. An empty mark is found nowhere. -/
def replace (mark new : List Char) (s : List Char) : List Char :=
  match s with
  | [] => []
  | c :: r =>
    match mark with
    | [] => c :: r
    | _ :: m =>
      if mark.isPrefixOf (c :: r) then new ++ replace mark new (r.drop m.length)
      else c :: replace mark new r
termination_by s.length
decreasing_by all_goals simp only [List.length_cons, List.length_drop]; omega

/-- Lower case for the letters `A` to `Z` and nothing else. -/
def asciiLower (s : List Char) : List Char := s.map Char.toLower

/-- Two texts that differ at most in the case of the letters `A` to `Z`. -/
def sameIgnoringCase (a b : String) : Bool := asciiLower a.toList == asciiLower b.toList

/-- Every character is blank. -/
def isBlankText (s : String) : Bool := s.toList.all isBlank

/-- `trim` on strings. -/
def strip (s : String) : String := String.ofList (trim s.toList)

/-- `join` on strings. -/
def joinWith (sep : String) (parts : List String) : String :=
  String.ofList (join sep.toList (parts.map String.toList))

/-! ## Splitting and joining -/

theorem split_ne_nil (d : Char) (s : List Char) : split d s ≠ [] := by
  induction s with
  | nil => simp [split]
  | cons c r ih =>
    unfold split
    split
    · simp
    · split <;> simp

/-- A character other than the delimiter extends the first piece. -/
theorem split_cons_of_ne {d c : Char} (h : c ≠ d) (s : List Char) :
    ∃ p ps, split d s = p :: ps ∧ split d (c :: s) = (c :: p) :: ps := by
  obtain ⟨p, ps, hs⟩ := List.exists_cons_of_ne_nil (split_ne_nil d s)
  exact ⟨p, ps, hs, by simp [split, h, hs]⟩

theorem join_cons (sep p : List Char) {ps : List (List Char)} (h : ps ≠ []) :
    join sep (p :: ps) = p ++ sep ++ join sep ps := by
  cases ps with
  | nil => exact absurd rfl h
  | cons q qs => rfl

/-- Splitting at a delimiter loses nothing. -/
theorem join_split (d : Char) (s : List Char) : join [d] (split d s) = s := by
  induction s with
  | nil => rfl
  | cons c r ih =>
    by_cases h : c = d
    · subst h
      simp [split, join_cons _ _ (split_ne_nil c r), ih]
    · obtain ⟨p, ps, hr, hc⟩ := split_cons_of_ne h r
      rw [hc]
      rw [hr] at ih
      cases ps with
      | nil => simpa [join] using ih
      | cons q qs => simpa [join] using ih

/-- No piece of a split holds the delimiter. -/
theorem not_mem_of_mem_split {d : Char} {s p : List Char} (h : p ∈ split d s) : d ∉ p := by
  induction s generalizing p with
  | nil => simp_all [split]
  | cons c r ih =>
    by_cases hc : c = d
    · subst hc
      simp only [split, ↓reduceIte, List.mem_cons] at h
      rcases h with rfl | h
      · simp
      · exact ih h
    · obtain ⟨q, qs, hr, hcs⟩ := split_cons_of_ne hc r
      rw [hcs, List.mem_cons] at h
      rcases h with rfl | h
      · have := ih (p := q) (by simp [hr])
        simp [this, Ne.symm hc]
      · exact ih (by simp [hr, h])

/-- A text without the delimiter is a single piece. -/
theorem split_eq_singleton {d : Char} {s : List Char} (h : d ∉ s) : split d s = [s] := by
  induction s with
  | nil => rfl
  | cons c r ih =>
    simp only [List.mem_cons, not_or] at h
    simp [split, Ne.symm h.1, ih h.2]

/-- A piece without the delimiter, then the delimiter, then the rest. -/
theorem split_append {d : Char} {p : List Char} (h : d ∉ p) (s : List Char) :
    split d (p ++ d :: s) = p :: split d s := by
  induction p with
  | nil => simp [split]
  | cons c r ih =>
    simp only [List.mem_cons, not_or] at h
    simp [split, Ne.symm h.1, ih h.2]

/-- Joined pieces are split apart again, when there is one and none holds the delimiter. -/
theorem split_join {d : Char} {ps : List (List Char)} (hne : ps ≠ []) (h : ∀ p ∈ ps, d ∉ p) :
    split d (join [d] ps) = ps := by
  induction ps with
  | nil => exact absurd rfl hne
  | cons p ps ih =>
    cases ps with
    | nil => exact split_eq_singleton (h p (by simp))
    | cons q qs =>
      have hq := ih (by simp) fun x hx => h x (List.mem_cons_of_mem _ hx)
      simp only [join, List.append_assoc, List.singleton_append]
      rw [split_append (h p (by simp)), hq]

/-- The cut is at the first delimiter: none stands in the first part. -/
theorem splitFirst?_eq_some_iff {d : Char} {s a b : List Char} :
    splitFirst? d s = some (a, b) ↔ s = a ++ d :: b ∧ d ∉ a := by
  induction s generalizing a with
  | nil => simp [splitFirst?]
  | cons c r ih =>
    by_cases hc : c = d
    · subst hc
      cases a with
      | nil => simp [splitFirst?]
      | cons x xs => simp [splitFirst?]; intro h; simp [h]
    · cases a with
      | nil => simp [splitFirst?, hc]
      | cons x xs =>
        simp only [splitFirst?, hc, ↓reduceIte, Option.map_eq_some_iff, Prod.exists, Prod.mk.injEq,
          List.cons.injEq, List.cons_append, List.mem_cons, not_or]
        constructor
        · rintro ⟨a', b', h, ⟨rfl, rfl⟩, rfl⟩
          obtain ⟨h1, h2⟩ := ih.1 h
          exact ⟨⟨rfl, h1⟩, fun e => hc e.symm, h2⟩
        · rintro ⟨⟨rfl, h1⟩, _, h2⟩
          exact ⟨xs, b, ih.2 ⟨h1, h2⟩, ⟨rfl, rfl⟩, rfl⟩

theorem splitFirst?_eq_none_iff {d : Char} {s : List Char} : splitFirst? d s = none ↔ d ∉ s := by
  induction s with
  | nil => simp [splitFirst?]
  | cons c r ih =>
    by_cases hc : c = d
    · simp [splitFirst?, hc]
    · simp [splitFirst?, hc, ih, Ne.symm hc]

end TraceSampler.Text
