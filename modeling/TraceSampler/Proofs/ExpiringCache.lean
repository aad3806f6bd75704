import TraceSampler.ExpiringCache

/-!
# Caches of a function

Where every value is put under the key that it was made from, a cache is a part of the graph of a
function: entries come and go, by age and for want of room, but none of them is ever wrong.

* `exists_mem_of_get`: what is read is the value of an entry under the very key.
* `mem_entries_get`, `mem_entries_put`: where the entries come from.
* `Remembers.get`, `Remembers.put`, `Remembers.clear`: a cache of a function stays one.
-/

namespace TraceSampler.ExpiringCache

variable {κ ν : Type} [DecidableEq κ] {c : ExpiringCache κ ν} {key : κ} {now : Int}

/-! ## Entries -/

theorem mem_of_find? {e : CacheEntry κ ν} (h : c.find? key = some e) :
    e ∈ c.entries ∧ e.key = key := by
  unfold find? at h
  have hkey : e.key = key := by simpa using List.find?_some h
  exact ⟨List.mem_of_find?_eq_some h, hkey⟩

/-- What is read is the value of an entry under the very key. -/
theorem exists_mem_of_get {v : ν} (h : (c.get key now).2 = some v) :
    ∃ e ∈ c.entries, e.key = key ∧ e.value = v := by
  unfold get at h
  split at h
  · simp at h
  · next e hfind =>
    obtain ⟨hmem, hkey⟩ := mem_of_find? hfind
    split at h
    · simp at h
    · exact ⟨e, hmem, hkey, Option.some.inj h⟩

/-- A read makes no entry, though it may give one a later time. -/
theorem mem_entries_get {x : CacheEntry κ ν} (h : x ∈ (c.get key now).1.entries) :
    ∃ e ∈ c.entries, e.key = x.key ∧ e.value = x.value := by
  unfold get at h
  split at h
  · exact ⟨x, h, rfl, rfl⟩
  · next e hfind =>
    split at h
    · -- the entry was found expired, so the others are left
      exact ⟨x, (List.mem_filter.1 h).1, rfl, rfl⟩
    · rcases List.mem_cons.1 h with rfl | h
      · exact ⟨e, (mem_of_find? hfind).1, rfl, rfl⟩
      · exact ⟨x, (List.mem_filter.1 h).1, rfl, rfl⟩

theorem mem_entries_put {v : ν} {x : CacheEntry κ ν} (h : x ∈ (c.put key v now).entries) :
    x = ⟨key, v, now⟩ ∨ x ∈ c.entries := by
  have hmem : x ∈ (⟨key, v, now⟩ : CacheEntry κ ν) :: c.others key := List.mem_of_mem_take h
  rcases List.mem_cons.1 hmem with hnew | hold
  · exact Or.inl hnew
  · exact Or.inr (List.mem_filter.1 hold).1

/-! ## Caches of a function -/

/-- Every entry has the value that the function gives for its key. -/
def Remembers (f : κ → ν) (c : ExpiringCache κ ν) : Prop := ∀ e ∈ c.entries, e.value = f e.key

namespace Remembers

variable {f : κ → ν}

omit [DecidableEq κ] in
theorem of_entries_eq_nil (h : c.entries = []) : c.Remembers f := by
  intro e he
  rw [h] at he
  exact absurd he List.not_mem_nil

omit [DecidableEq κ] in
theorem clear (c : ExpiringCache κ ν) : c.clear.Remembers f := of_entries_eq_nil rfl

/-- A value that is read is the one that the function gives. -/
theorem eq_of_get (h : c.Remembers f) {v : ν} (hget : (c.get key now).2 = some v) : v = f key := by
  obtain ⟨e, he, rfl, rfl⟩ := exists_mem_of_get hget
  exact h e he

theorem get (h : c.Remembers f) (key : κ) (now : Int) : (c.get key now).1.Remembers f := by
  intro x hx
  obtain ⟨e, he, hkey, hvalue⟩ := mem_entries_get hx
  rw [← hkey, ← hvalue]
  exact h e he

theorem put (h : c.Remembers f) (key : κ) (now : Int) : (c.put key (f key) now).Remembers f := by
  intro x hx
  rcases mem_entries_put hx with rfl | hold
  · rfl
  · exact h x hold

end Remembers

end TraceSampler.ExpiringCache
