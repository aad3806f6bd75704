import Mathlib.Data.Finset.Card
import TraceSampler.Proofs.ExpiringCache

/-!
# What a cache keeps

A cache has its entries from the most to the least recently used, and gives up the last ones when
room is needed. So an entry lasts as long as only few other keys are used: all that can come in
front of it are entries under those keys, one for each, and the entry is out of reach of the end
while they are fewer than fit.

* `KeptBehind.length_le_card`, `KeptBehind.take`: how far from the front an entry can be, and when it
  is not given up.
* `KeptBehind.get_self`, `KeptBehind.get_of_ne`: what a read of an entry, or of another, does to it.
* `keptBehind_put_self`, `KeptBehind.put_of_ne`: what a put does to it.
-/

namespace TraceSampler.ExpiringCache

variable {κ ν : Type} [DecidableEq κ]

/-! ## The order of entries -/

/-- An entry is kept, and all that stands in front of it are entries under the given keys, one for
each at most. -/
def KeptBehind (used : Finset κ) (e : CacheEntry κ ν) (entries : List (CacheEntry κ ν)) : Prop :=
  ∃ front back, entries = front ++ e :: back ∧ (front.map CacheEntry.key).Nodup ∧
    ∀ x ∈ front, x.key ∈ used

namespace KeptBehind

variable {used used' : Finset κ} {e x : CacheEntry κ ν} {entries : List (CacheEntry κ ν)} {key : κ}

omit [DecidableEq κ] in
theorem head (e : CacheEntry κ ν) (entries : List (CacheEntry κ ν)) :
    KeptBehind ∅ e (e :: entries) :=
  ⟨[], entries, rfl, List.nodup_nil, fun _ hx => absurd hx List.not_mem_nil⟩

omit [DecidableEq κ] in
theorem mono (h : KeptBehind used e entries) (hsub : used ⊆ used') :
    KeptBehind used' e entries := by
  rcases h with ⟨front, back, hentries, hnodup, hused⟩
  exact ⟨front, back, hentries, hnodup, fun y hy => hsub (hused y hy)⟩

/-- No more entries are in front than keys were used. -/
theorem length_le_card {front : List (CacheEntry κ ν)} (hnodup : (front.map CacheEntry.key).Nodup)
    (hused : ∀ x ∈ front, x.key ∈ used) : front.length ≤ used.card := by
  have hkeys : (front.map CacheEntry.key).toFinset ⊆ used := by
    intro key hkey
    rcases List.mem_map.1 (List.mem_toFinset.1 hkey) with ⟨x, hx, rfl⟩
    exact hused x hx
  calc front.length = (front.map CacheEntry.key).length := (List.length_map ..).symm
    _ = (front.map CacheEntry.key).toFinset.card := (List.toFinset_card_of_nodup hnodup).symm
    _ ≤ used.card := Finset.card_le_card hkeys

/-- An entry whose key was not used meanwhile is the one that is found under its key. -/
theorem find? (h : KeptBehind used e entries) (he : e.key ∉ used) :
    entries.find? (fun x => x.key = e.key) = some e := by
  rcases h with ⟨front, back, rfl, -, hused⟩
  have hfront : ∀ x ∈ front, (!decide (x.key = e.key)) = true := by
    intro x hx
    have hne : x.key ≠ e.key := fun heq => he (heq ▸ hused x hx)
    simp [hne]
  exact List.find?_eq_some_iff_append.2 ⟨by simp, front, back, rfl, hfront⟩

/-- Entries under another key are of no matter. -/
theorem filter (h : KeptBehind used e entries) (hne : e.key ≠ key) :
    KeptBehind used e (entries.filter fun x => x.key ≠ key) := by
  rcases h with ⟨front, back, rfl, hnodup, hused⟩
  refine ⟨front.filter fun x => x.key ≠ key, back.filter fun x => x.key ≠ key, ?_, ?_, ?_⟩
  · rw [List.filter_append, List.filter_cons_of_pos (by simp [hne])]
  · exact hnodup.sublist (List.filter_sublist.map _)
  · intro x hx
    exact hused x (List.mem_filter.1 hx).1

/-- An entry under another key comes to the front. -/
theorem cons (h : KeptBehind used e entries) (hnew : ∀ y ∈ entries, y.key ≠ x.key) :
    KeptBehind (insert x.key used) e (x :: entries) := by
  rcases h with ⟨front, back, rfl, hnodup, hused⟩
  refine ⟨x :: front, back, rfl, ?_, ?_⟩
  · rw [List.map_cons, List.nodup_cons]
    refine ⟨?_, hnodup⟩
    intro hmem
    rcases List.mem_map.1 hmem with ⟨y, hy, hkey⟩
    exact hnew y (List.mem_append_left _ hy) hkey
  · intro y hy
    rcases List.mem_cons.1 hy with rfl | hy
    · exact Finset.mem_insert_self _ _
    · exact Finset.mem_insert_of_mem (hused y hy)

/-- As long as fewer keys were used than there is room for, the entry is not given up. -/
theorem take (h : KeptBehind used e entries) {capacity : Nat} (hroom : used.card < capacity) :
    KeptBehind used e (entries.take capacity) := by
  rcases h with ⟨front, back, rfl, hnodup, hused⟩
  have hfront : front.length < capacity := (length_le_card hnodup hused).trans_lt hroom
  have hleft : capacity - front.length = capacity - front.length - 1 + 1 := by omega
  refine ⟨front, back.take (capacity - front.length - 1), ?_, hnodup, hused⟩
  rw [List.take_append, List.take_of_length_le hfront.le, hleft, List.take_succ_cons]
  rfl

end KeptBehind

/-! ## Reads and puts -/

variable {c : ExpiringCache κ ν} {used used' : Finset κ} {e : CacheEntry κ ν} {key : κ} {now : Int}

theorem key_ne_of_mem_others {x : CacheEntry κ ν} (h : x ∈ c.others key) : x.key ≠ key := by
  simpa using (List.mem_filter.1 h).2

/-- An entry that is neither expired nor hidden by another one is read. Nothing is in front of it
then, and its lifetime starts anew if the cache says so. -/
theorem KeptBehind.get_self (h : KeptBehind used e c.entries) (he : e.key ∉ used)
    (hfresh : c.isExpired e now = false) :
    (c.get e.key now).2 = some e.value ∧
      KeptBehind ∅ { e with touchedAt := if c.expiry = .afterAccess then now else e.touchedAt }
        (c.get e.key now).1.entries := by
  have hfind : c.find? e.key = some e := h.find? he
  simp only [get, hfind, hfresh, Bool.false_eq_true, if_false, true_and]
  exact KeptBehind.head _ _

/-- A read of another key moves at most that key to the front. -/
theorem KeptBehind.get_of_ne (h : KeptBehind used e c.entries) (hne : e.key ≠ key)
    (hsub : used ⊆ used') (hread : (c.get key now).2.isSome = true → key ∈ used') :
    KeptBehind used' e (c.get key now).1.entries := by
  have hothers : KeptBehind used e (c.others key) := h.filter hne
  cases hfind : c.find? key with
  | none =>
    simp only [get, hfind]
    exact h.mono hsub
  | some x =>
    cases hexpired : c.isExpired x now with
    | true =>
      -- the entry that was read is dropped
      simp only [get, hfind, hexpired, if_true]
      exact hothers.mono hsub
    | false =>
      have hkey : x.key = key := (mem_of_find? hfind).2
      simp only [get, hfind, hexpired, Bool.false_eq_true, if_false, Option.isSome_some,
        true_implies] at hread ⊢
      have hfront := hothers.cons (x := { x with
          touchedAt := if c.expiry = .afterAccess then now else x.touchedAt })
        fun y hy => hkey ▸ key_ne_of_mem_others hy
      refine hfront.mono (Finset.insert_subset ?_ hsub)
      exact hkey ▸ hread

/-- What is put comes to the front. -/
theorem keptBehind_put_self (hroom : 0 < c.capacity) (value : ν) :
    KeptBehind ∅ ⟨key, value, now⟩ (c.put key value now).entries :=
  (KeptBehind.head _ _).take hroom

/-- What is put under another key comes to the front, and is of no harm as long as there is room. -/
theorem KeptBehind.put_of_ne (h : KeptBehind used e c.entries) (hne : e.key ≠ key)
    (hroom : (insert key used).card < c.capacity) (value : ν) :
    KeptBehind (insert key used) e (c.put key value now).entries := by
  have hothers : KeptBehind used e (c.others key) := h.filter hne
  have hfront := hothers.cons (x := ⟨key, value, now⟩) fun y hy => key_ne_of_mem_others hy
  exact hfront.take hroom

/-- A read changes entries only. -/
@[simp] theorem clear_get (c : ExpiringCache κ ν) (key : κ) (now : Int) :
    (c.get key now).1.clear = c.clear := by
  unfold get
  split
  · rfl
  · split
    · rfl
    · rfl

end TraceSampler.ExpiringCache
