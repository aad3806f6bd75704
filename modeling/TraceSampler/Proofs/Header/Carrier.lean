import TraceSampler.Header.Carrier

/-!
# Reading back what was written to a carrier

A header is written under its name in lower case and looked for in any case, so two names must be
`Apart` for a write under the one to leave the other alone.

* `get?_set_self`: a carrier that takes headers reads back what was set.
* `get?_set_of_apart`: other headers read as before.
-/

namespace TraceSampler.Carrier

/-- Maps and objects take headers; other documents hold none and take none. -/
def takesHeaders : Carrier → Bool
  | .map _ => true
  | .document (.object _) => true
  | .document _ => false

/-- A header written under `name` is not one that is looked for as `other`. -/
def Apart (name other : String) : Prop :=
  Unicode.lowered other ≠ Unicode.lowered name ∧
    Text.sameIgnoringCase (Unicode.lowered name) other = false

instance (name other : String) : Decidable (Apart name other) :=
  inferInstanceAs (Decidable (_ ∧ _))

/-! ## Ordered members -/

theorem lookup_insertMember_self (key : String) (v : Json.Value)
    (members : List (String × Json.Value)) :
    (Json.insertMember key v members).lookup key = some v := by
  induction members with
  | nil => simp [Json.insertMember]
  | cons m r ih =>
    obtain ⟨k, w⟩ := m
    rw [Json.insertMember]
    split
    · simp
    · next hk =>
      split
      · simp
      · have hb : (key == k) = false := by simp [hk]
        rw [List.lookup_cons, hb]
        exact ih

theorem lookup_insertMember_of_ne {key other : String} (h : other ≠ key) (v : Json.Value)
    (members : List (String × Json.Value)) :
    (Json.insertMember key v members).lookup other = members.lookup other := by
  have hb : (other == key) = false := by simp [h]
  induction members with
  | nil => simp [Json.insertMember, List.lookup_cons, hb]
  | cons m r ih =>
    obtain ⟨k, w⟩ := m
    rw [Json.insertMember]
    split
    · next hk =>
      subst hk
      simp [List.lookup_cons, hb]
    · split
      · rw [List.lookup_cons, hb]
      · rw [List.lookup_cons, List.lookup_cons, ih]

/-! ## Searching past a write -/

/-- A search that does not accept the written name finds what it found before. -/
theorem find?_put_of_not {α : Type} (name : String) (p : String × α → Bool)
    (hp : ∀ v, p (name, v) = false) (value : α) (headers : List (String × α)) :
    (put name value headers).find? p = headers.find? p := by
  induction headers with
  | nil => simp [put, hp]
  | cons h r ih =>
    obtain ⟨k, v⟩ := h
    by_cases hk : k = name
    · subst hk
      simp [put, hp]
    · simp [put, hk, List.find?_cons, ih]

theorem find?_insertMember_of_not (name : String) (p : String × Json.Value → Bool)
    (hp : ∀ v, p (name, v) = false) (value : Json.Value) (members : List (String × Json.Value)) :
    (Json.insertMember name value members).find? p = members.find? p := by
  induction members with
  | nil => simp [Json.insertMember, hp]
  | cons m r ih =>
    obtain ⟨k, w⟩ := m
    rw [Json.insertMember]
    split
    · next hk =>
      subst hk
      simp [hp]
    · split
      · rw [List.find?_cons, hp]
      · rw [List.find?_cons, List.find?_cons, ih]

/-- A write that is apart leaves what a map finds. -/
theorem find?_put_of_apart {α : Type} {name other : String} (h : Apart name other) (value : α)
    (headers : List (String × α)) :
    find? (put (Unicode.lowered name) value headers) other = find? headers other := by
  rw [find?, find?, lookup_put_of_ne h.1,
    find?_put_of_not (Unicode.lowered name) (fun x => Text.sameIgnoringCase x.1 other) fun _ => h.2]

/-- A write that is apart leaves what an object finds. -/
theorem find?_insertMember_of_apart {name other : String} (h : Apart name other)
    (value : Json.Value) (members : List (String × Json.Value)) :
    find? (Json.insertMember (Unicode.lowered name) value members) other = find? members other := by
  rw [find?, find?, lookup_insertMember_of_ne h.1,
    find?_insertMember_of_not (Unicode.lowered name) (fun x => Text.sameIgnoringCase x.1 other)
      fun _ => h.2]

/-! ## Headers -/

@[simp] theorem takesHeaders_set (c : Carrier) (name value : String) :
    (c.set name value).takesHeaders = c.takesHeaders := by
  cases c with
  | map headers => rfl
  | document v => cases v <;> rfl

/-- A carrier that takes headers reads back what was set. -/
theorem get?_set_self {c : Carrier} (h : c.takesHeaders) (name value : String) :
    (c.set name value).get? name = some value := by
  cases c with
  | map headers => simp [set, get?, find?, lookup_put_self]
  | document v =>
    cases v with
    | object members => simp [set, get?, find?, lookup_insertMember_self]
    | _ => simp [takesHeaders] at h

/-- Headers under other names read as before. -/
theorem get?_set_of_apart {name other : String} (h : Apart name other) (c : Carrier)
    (value : String) : (c.set name value).get? other = c.get? other := by
  cases c with
  | map headers => exact find?_put_of_apart h value headers
  | document v =>
    cases v with
    | object members =>
      rw [set, get?, get?, find?_insertMember_of_apart h]
    | _ => rfl

end TraceSampler.Carrier
