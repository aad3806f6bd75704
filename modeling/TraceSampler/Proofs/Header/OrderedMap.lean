import TraceSampler.Header.TraceState
import TraceSampler.Run

/-!
# A trace state as an ordered map

Setting a member and taking one out look no further than the first member under the key. They make
the state an ordered map all the same, because no key is held twice: a parsed state starts so, and
every edit keeps it so.

* `remove_eq`: what is taken out is what was read.
* `nodup_keys_edit`, `nodup_keys_run`: no edit, and so no run of edits, brings in a key twice.
* `setsMember_insert`, `takesOut_remove`: what an edit does to a state that holds no key twice.
* `run_edit_orderedMap`: so it does to every state that edits of a parsed state lead to.
-/

namespace TraceSampler.TraceState

/-! ## Edits -/

/-- What is done to the members of a state. -/
inductive Edit
  | insert (key value : String)
  | remove (key : String)

/-- The state after an edit, and the value that was taken out. -/
def edit (s : TraceState) : Edit → TraceState × Option String
  | .insert key value => (s.insert key value, none)
  | .remove key => s.remove key

/-- A state with a member set. -/
structure SetsMember (s : TraceState) (key value : String) (after : TraceState) : Prop where
  first : after.entries.head? = some (key, value)
  read : after.get? key = some value
  others : ∀ other, other ≠ key → after.get? other = s.get? other
  /-- Behind the first member stand those of the other keys, in their order. -/
  order : after.entries.tail = s.entries.filter (·.1 != key)

/-- A state with a member taken out, and what was taken. -/
structure TakesOut (s : TraceState) (key : String) (after : TraceState) (taken : Option String) :
    Prop where
  taken : taken = s.get? key
  gone : after.get? key = none
  others : ∀ other, other ≠ key → after.get? other = s.get? other
  /-- The members of the other keys are left, in their order. -/
  order : after.entries = s.entries.filter (·.1 != key)
  length : s.entries.length = after.entries.length + if key ∈ s.keys then 1 else 0

/-! ## Taking out -/

/-- The member at the first place of a key is the one that is read under it. -/
theorem bind_findIdx? (entries : List (String × String)) (key : String) :
    (entries.findIdx? (·.1 == key)).bind (fun i => entries[i]?.map (·.2)) =
      entries.lookup key := by
  induction entries with
  | nil => rfl
  | cons e r ih =>
    obtain ⟨k, v⟩ := e
    by_cases hk : k = key
    · simp [List.findIdx?_cons, hk]
    · have hb : (key == k) = false := by simp [Ne.symm hk]
      rw [List.lookup_cons, hb, ← ih]
      cases hfind : r.findIdx? (·.1 == key) with
      | none => simp [List.findIdx?_cons, hk, hfind]
      | some i => simp [List.findIdx?_cons, hk, hfind]

/-- What is taken out is what was read. -/
theorem remove_eq (s : TraceState) (key : String) : s.remove key = (s.erase key, s.get? key) := by
  have htaken : (s.remove key).2 = s.get? key := by
    rw [get?, ← bind_findIdx?, remove]
    cases s.entries.findIdx? (·.1 == key) with
    | none => rfl
    | some i => rfl
  exact Prod.ext rfl htaken

/-- Whether a state gets shorter, by its keys. -/
theorem length_erase (s : TraceState) (key : String) :
    s.entries.length = (s.erase key).entries.length + if key ∈ s.keys then 1 else 0 := by
  rw [entries_erase]
  split
  · next hmem =>
    obtain ⟨m, hm, rfl⟩ := List.mem_map.1 hmem
    have hpos : 0 < s.entries.length := List.length_pos_of_mem hm
    rw [List.length_eraseP_of_mem hm (by simp)]
    omega
  · next hmem =>
    have hnone : ∀ m ∈ s.entries, ¬ (m.1 == key) = true := by
      intro m hm heq
      exact hmem (List.mem_map.2 ⟨m, hm, by simpa using heq⟩)
    rw [List.eraseP_of_forall_not hnone, Nat.add_zero]

/-! ## No key is held twice -/

theorem nodup_keys_erase {s : TraceState} (h : s.keys.Nodup) (key : String) :
    (s.erase key).keys.Nodup := by
  rw [keys, entries_erase]
  exact (List.eraseP_sublist.map _).nodup h

theorem nodup_keys_insert {s : TraceState} (h : s.keys.Nodup) (key value : String) :
    (s.insert key value).keys.Nodup := by
  have hnew : key ∉ (s.erase key).keys := by simp [keys, entries_erase_of_nodup h]
  exact List.nodup_cons.2 ⟨hnew, nodup_keys_erase h key⟩

theorem nodup_keys_edit {s : TraceState} (h : s.keys.Nodup) (e : Edit) :
    (s.edit e).1.keys.Nodup := by
  cases e with
  | insert key value => exact nodup_keys_insert h key value
  | remove key => exact nodup_keys_erase h key

theorem nodup_keys_run {s : TraceState} (h : s.keys.Nodup) (edits : List Edit) :
    (run edit s edits).1.keys.Nodup := by
  have hstep : ∀ (s : TraceState) (e : Edit), s.keys.Nodup → (s.edit e).1.keys.Nodup ∧ True :=
    fun _ e hs => ⟨nodup_keys_edit hs e, trivial⟩
  exact (run_safe (P := fun s => s.keys.Nodup) (Q := fun _ => True) edit hstep h edits).1

/-! ## What edits do -/

theorem setsMember_insert {s : TraceState} (h : s.keys.Nodup) (key value : String) :
    SetsMember s key value (s.insert key value) where
  first := rfl
  read := get?_insert_self s key value
  others _ hne := get?_insert_of_ne s hne value
  order := by rw [insert, List.tail_cons, entries_erase_of_nodup h]

theorem takesOut_remove {s : TraceState} (h : s.keys.Nodup) (key : String) :
    TakesOut s key (s.remove key).1 (s.remove key).2 where
  taken := by rw [remove_eq]
  gone := get?_erase_self h key
  others _ hne := get?_erase_of_ne s hne
  order := by rw [remove_eq, entries_erase_of_nodup h]
  length := length_erase s key

/-- Whatever was parsed, set and taken out before, a state is an ordered map: no key is held twice,
setting a member puts it first and leaves the others as they are, and taking one out gives what was
read under its key and leaves the others as they are. -/
theorem run_edit_orderedMap (header : String) (edits : List Edit) :
    let s := (run edit (ofHeader header) edits).1
    s.keys.Nodup ∧
      (∀ key value, SetsMember s key value (s.insert key value)) ∧
      ∀ key, TakesOut s key (s.remove key).1 (s.remove key).2 := by
  intro s
  have hnodup : s.keys.Nodup := nodup_keys_run (nodup_keys_ofHeader header) edits
  exact ⟨hnodup, setsMember_insert hnodup, takesOut_remove hnodup⟩

end TraceSampler.TraceState
