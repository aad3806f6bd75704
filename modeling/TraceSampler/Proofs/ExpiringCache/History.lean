import Mathlib.Data.List.Induction
import TraceSampler.Proofs.ExpiringCache.Recency
import TraceSampler.Run

/-!
# Caches and their past

What a cache answers can be told from its past: from what was put and read and cleared, when that
was, and what the reads were answered. The past alone says which value stands under a key, since
when, and when the key was last used.

* `current_concat_iff`, `lastUsed_concat_iff`: what one more act does to them.
* `get_cases`: what a read can do.
* `Sound.perform`: every entry is what the past says of its key.
* `Retained.perform`: what the past says of a key is an entry, as long as few other keys were used
  since, or else too much time went by.
* `follows_history`: both hold after every run.
* `run_bounded_sound_retained`: how many entries there are after a run, and what is read.
-/

namespace TraceSampler

/-- The time that a lifetime is counted from, by the times of the last put and of the last use. -/
def Expiry.start : Expiry → Int → Int → Int
  | .afterWrite, putAt, _ => putAt
  | .afterAccess, _, usedAt => usedAt

@[simp] theorem Expiry.start_self (expiry : Expiry) (t : Int) : expiry.start t t = t := by
  cases expiry with
  | afterWrite => rfl
  | afterAccess => rfl

namespace ExpiringCache

/-! ## The past of a cache -/

inductive Operation (κ ν : Type)
  | put (key : κ) (value : ν)
  | get (key : κ)
  | clear

/-- What is done to a cache, and when. -/
structure Act (κ ν : Type) where
  operation : Operation κ ν
  time : Int

/-- Acts in their order, each with what was read by it. -/
abbrev History (κ ν : Type) := List (Act κ ν × Option ν)

/-- Something happened, and of what has happened since nothing ended it. -/
structure Upheld {ρ : Type} (ends : ρ → Prop) (x : ρ) (since past : List ρ) : Prop where
  split : ∃ before, past = before ++ x :: since
  upheld : ∀ y ∈ since, ¬ ends y

variable {κ ν : Type}

/-- The act leaves nothing under the key of what was there before. -/
def Replaces (key : κ) (x : Act κ ν × Option ν) : Prop :=
  match x.1.operation with
  | .put k _ => k = key
  | .get _ => False
  | .clear => True

/-- The key that is used by an act: one that is put, or is read and found. -/
def usedKey? (x : Act κ ν × Option ν) : Option κ :=
  match x.1.operation, x.2 with
  | .put key _, _ => some key
  | .get key, some _ => some key
  | .get _, none | .clear, _ => none

/-- The value was put under the key at this time, and neither was another one put there since nor
the cache cleared. -/
def Current (past : History κ ν) (key : κ) (value : ν) (putAt : Int) : Prop :=
  ∃ x since, Upheld (Replaces key) x since past ∧ x.1 = ⟨.put key value, putAt⟩

/-- The key was last used at this time, and the other acts have happened since. -/
def LastUsed (past : History κ ν) (key : κ) (usedAt : Int) (since : History κ ν) : Prop :=
  ∃ x, Upheld (fun y => usedKey? y = some key) x since past ∧ usedKey? x = some key ∧
    x.1.time = usedAt

theorem upheld_concat_iff {ρ : Type} {ends : ρ → Prop} {x y : ρ} {since past : List ρ} :
    Upheld ends x since (past ++ [y]) ↔ (since = [] ∧ x = y) ∨
      ∃ rest, since = rest ++ [y] ∧ Upheld ends x rest past ∧ ¬ ends y := by
  constructor
  · rintro ⟨⟨before, hsplit⟩, hupheld⟩
    rcases List.eq_nil_or_concat since with rfl | ⟨rest, z, hsince⟩
    · obtain ⟨-, hlast⟩ := List.append_inj' hsplit rfl
      exact .inl ⟨rfl, by simpa using hlast.symm⟩
    · rw [List.concat_eq_append] at hsince
      subst hsince
      have hsplit' : past ++ [y] = (before ++ x :: rest) ++ [z] := by simpa using hsplit
      obtain ⟨hpast, hlast⟩ := List.append_inj' hsplit' rfl
      obtain rfl : y = z := by simpa using hlast
      refine .inr ⟨rest, rfl, ⟨⟨before, hpast⟩, ?_⟩, hupheld y (by simp)⟩
      exact fun w hw => hupheld w (List.mem_append_left _ hw)
  · rintro (⟨rfl, rfl⟩ | ⟨rest, rfl, ⟨⟨before, rfl⟩, hupheld⟩, hy⟩)
    · exact ⟨⟨past, rfl⟩, fun _ hw => absurd hw List.not_mem_nil⟩
    · refine ⟨⟨before, by simp⟩, ?_⟩
      intro w hw
      rcases List.mem_append.1 hw with hw | hw
      · exact hupheld w hw
      · rwa [List.mem_singleton.1 hw]

theorem current_concat_iff {past : History κ ν} {x : Act κ ν × Option ν} {key : κ} {value : ν}
    {putAt : Int} : Current (past ++ [x]) key value putAt ↔
      x.1 = ⟨.put key value, putAt⟩ ∨ (Current past key value putAt ∧ ¬ Replaces key x) := by
  simp only [Current, upheld_concat_iff]
  constructor
  · rintro ⟨y, since, ⟨-, rfl⟩ | ⟨rest, -, hupheld, hx⟩, hput⟩
    · exact .inl hput
    · exact .inr ⟨⟨y, rest, hupheld, hput⟩, hx⟩
  · rintro (hput | ⟨⟨y, rest, hupheld, hput⟩, hx⟩)
    · exact ⟨x, [], .inl ⟨rfl, rfl⟩, hput⟩
    · exact ⟨y, rest ++ [x], .inr ⟨rest, rfl, hupheld, hx⟩, hput⟩

theorem lastUsed_concat_iff {past since : History κ ν} {x : Act κ ν × Option ν} {key : κ}
    {usedAt : Int} : LastUsed (past ++ [x]) key usedAt since ↔
      (since = [] ∧ usedKey? x = some key ∧ x.1.time = usedAt) ∨
      ∃ rest, since = rest ++ [x] ∧ LastUsed past key usedAt rest ∧ usedKey? x ≠ some key := by
  simp only [LastUsed, upheld_concat_iff]
  constructor
  · rintro ⟨y, ⟨rfl, rfl⟩ | ⟨rest, rfl, hupheld, hx⟩, hused, htime⟩
    · exact .inl ⟨rfl, hused, htime⟩
    · exact .inr ⟨rest, rfl, ⟨y, hupheld, hused, htime⟩, hx⟩
  · rintro (⟨rfl, hused, htime⟩ | ⟨rest, rfl, ⟨y, hupheld, hused, htime⟩, hx⟩)
    · exact ⟨x, .inl ⟨rfl, rfl⟩, hused, htime⟩
    · exact ⟨y, .inr ⟨rest, rfl, hupheld, hx⟩, hused, htime⟩

/-- A read uses its key if something is found. -/
theorem usedKey?_get_eq_some_iff {key k : κ} {now : Int} {answer : Option ν} :
    usedKey? (⟨.get key, now⟩, answer) = some k ↔ key = k ∧ answer.isSome = true := by
  cases answer with
  | none => simp [usedKey?]
  | some v => simp [usedKey?]

theorem not_current_nil {key : κ} {value : ν} {putAt : Int} : ¬ Current [] key value putAt := by
  rintro ⟨x, since, ⟨⟨before, hsplit⟩, -⟩, -⟩
  simp at hsplit

/-- At most one value stands under a key. -/
theorem Current.unique {past : History κ ν} {key : κ} {v w : ν} {s t : Int}
    (hv : Current past key v s) (hw : Current past key w t) : v = w ∧ s = t := by
  induction past using List.reverseRecOn with
  | nil => exact absurd hv not_current_nil
  | append_singleton past x ih =>
    rcases current_concat_iff.1 hv with hxv | ⟨hv, hnot⟩
    · rcases current_concat_iff.1 hw with hxw | ⟨-, hnot⟩
      · rw [hxv] at hxw
        simpa using hxw
      · exact absurd (by simp [Replaces, hxv]) hnot
    · rcases current_concat_iff.1 hw with hxw | ⟨hw, -⟩
      · exact absurd (by simp [Replaces, hxw]) hnot
      · exact ih hv hw

variable [DecidableEq κ]

/-- The keys that are used by some acts. -/
def usedKeys (acts : History κ ν) : Finset κ := (acts.filterMap usedKey?).toFinset

theorem usedKeys_concat (acts : History κ ν) (x : Act κ ν × Option ν) :
    usedKeys (acts ++ [x]) =
      match usedKey? x with
      | some key => insert key (usedKeys acts)
      | none => usedKeys acts := by
  cases hused : usedKey? x with
  | none => simp [usedKeys, hused]
  | some key =>
    ext k
    simp [usedKeys, hused]

theorem usedKeys_subset_concat (acts : History κ ν) (x : Act κ ν × Option ν) :
    usedKeys acts ⊆ usedKeys (acts ++ [x]) := by
  rw [usedKeys_concat]
  split
  · exact Finset.subset_insert _ _
  · exact Finset.Subset.refl _

theorem mem_usedKeys_concat {acts : History κ ν} {x : Act κ ν × Option ν} {key : κ}
    (h : usedKey? x = some key) : key ∈ usedKeys (acts ++ [x]) := by
  simp only [usedKeys_concat, h, Finset.mem_insert_self]

theorem LastUsed.not_mem_usedKeys {past since : History κ ν} {key : κ} {usedAt : Int}
    (h : LastUsed past key usedAt since) : key ∉ usedKeys since := by
  obtain ⟨x, ⟨-, hupheld⟩, -⟩ := h
  intro hmem
  obtain ⟨y, hy, hused⟩ := List.mem_filterMap.1 (List.mem_toFinset.1 hmem)
  exact hupheld y hy hused

/-! ## Acts -/

/-- The cache after an act, and what was read by it. -/
def perform (c : ExpiringCache κ ν) (a : Act κ ν) : ExpiringCache κ ν × Option ν :=
  match a.operation with
  | .put key value => (c.put key value a.time, none)
  | .get key => c.get key a.time
  | .clear => (c.clear, none)

/-- The past of a cache after some acts. -/
def history (c : ExpiringCache κ ν) (acts : List (Act κ ν)) : History κ ν :=
  acts.zip (run perform c acts).2

theorem history_concat (c : ExpiringCache κ ν) (acts : List (Act κ ν)) (a : Act κ ν) :
    history c (acts ++ [a]) =
      history c acts ++ [(a, (perform (run perform c acts).1 a).2)] := by
  have hlength : acts.length = (run perform c acts).2.length := (length_answers perform c acts).symm
  rw [history, run_append, run_cons, run_nil, List.zip_append hlength]
  rfl

/-- Nothing but entries changes. -/
theorem clear_perform (c : ExpiringCache κ ν) (a : Act κ ν) : (perform c a).1.clear = c.clear := by
  unfold perform
  split
  · rfl
  · exact clear_get c _ _
  · rfl

omit [DecidableEq κ] in
theorem isExpired_eq_false_iff {c : ExpiringCache κ ν} {e : CacheEntry κ ν} {now : Int} :
    c.isExpired e now = false ↔ now - e.touchedAt ≤ c.lifetime := by
  rw [isExpired, decide_eq_false_iff_not]
  omega

/-- An entry after it was read. -/
def renewed (c : ExpiringCache κ ν) (e : CacheEntry κ ν) (now : Int) : CacheEntry κ ν :=
  { e with touchedAt := if c.expiry = .afterAccess then now else e.touchedAt }

omit [DecidableEq κ] in
/-- After a read the lifetime is counted from it, if it is counted from the last use. -/
theorem touchedAt_renewed {c : ExpiringCache κ ν} {e : CacheEntry κ ν} {putAt usedAt : Int}
    (h : e.touchedAt = c.expiry.start putAt usedAt) (now : Int) :
    (c.renewed e now).touchedAt = c.expiry.start putAt now := by
  unfold renewed
  cases hexpiry : c.expiry with
  | afterWrite => simpa [hexpiry, Expiry.start] using h
  | afterAccess => simp [Expiry.start]

/-- A read finds nothing, or drops what it finds expired, or brings what it finds to the front. -/
theorem get_cases (c : ExpiringCache κ ν) (key : κ) (now : Int) :
    (c.get key now = (c, none) ∧ ∀ e ∈ c.entries, e.key ≠ key) ∨
    (∃ e ∈ c.entries, e.key = key ∧ c.isExpired e now = true ∧
      c.get key now = ({ c with entries := c.others key }, none)) ∨
    ∃ e ∈ c.entries, e.key = key ∧ c.isExpired e now = false ∧
      c.get key now = ({ c with entries := c.renewed e now :: c.others key }, some e.value) := by
  cases hfind : c.find? key with
  | none =>
    refine .inl ⟨by simp only [get, hfind], ?_⟩
    simpa [find?, List.find?_eq_none] using hfind
  | some e =>
    obtain ⟨hmem, hkey⟩ := mem_of_find? hfind
    cases hexpired : c.isExpired e now with
    | true =>
      refine .inr (.inl ⟨e, hmem, hkey, hexpired, ?_⟩)
      simp only [get, hfind, hexpired, if_true]
    | false =>
      refine .inr (.inr ⟨e, hmem, hkey, hexpired, ?_⟩)
      simp only [get, hfind, hexpired, Bool.false_eq_true, if_false, renewed]

/-- A read changes entries only. -/
theorem get_keeps (c : ExpiringCache κ ν) (key : κ) (now : Int) :
    (c.get key now).1.capacity = c.capacity ∧ (c.get key now).1.lifetime = c.lifetime ∧
      (c.get key now).1.expiry = c.expiry := by
  have hfixed := clear_get c key now
  simpa [clear] using hfixed

/-- An entry that is kept and yet not found by a read has outlived its lifetime. -/
theorem KeptBehind.lifetime_lt_of_get_eq_none {c : ExpiringCache κ ν} {used : Finset κ}
    {e : CacheEntry κ ν} {now : Int} (h : KeptBehind used e c.entries) (he : e.key ∉ used)
    (hnone : (c.get e.key now).2 = none) : c.lifetime < now - e.touchedAt := by
  by_contra hyoung
  have hfresh : c.isExpired e now = false := isExpired_eq_false_iff.2 (by omega)
  rw [(h.get_self he hfresh).1] at hnone
  exact Option.some_ne_none _ hnone

/-! ## Entries and the past -/

/-- The past tells of an entry: its value stands under its key, and its lifetime is counted from the
right time. -/
def Accounts (past : History κ ν) (expiry : Expiry) (e : CacheEntry κ ν) : Prop :=
  ∃ putAt usedAt since, Current past e.key e.value putAt ∧ LastUsed past e.key usedAt since ∧
    e.touchedAt = expiry.start putAt usedAt

/-- The past tells of all entries. -/
def Sound (past : History κ ν) (c : ExpiringCache κ ν) : Prop :=
  ∀ e ∈ c.entries, Accounts past c.expiry e

/-- What stands under a key is an entry as long as there was room for all keys used since; or else
it was too old at some time already. -/
def Retained (past : History κ ν) (c : ExpiringCache κ ν) : Prop :=
  ∀ {key value putAt usedAt since}, Current past key value putAt →
    LastUsed past key usedAt since → (usedKeys since).card < c.capacity →
    KeptBehind (usedKeys since) ⟨key, value, c.expiry.start putAt usedAt⟩ c.entries ∨
      ∃ x ∈ past, c.lifetime < x.1.time - c.expiry.start putAt usedAt

omit [DecidableEq κ] in
/-- An act that neither replaces nor uses an entry changes nothing for it. -/
theorem Accounts.concat {past : History κ ν} {expiry : Expiry} {e : CacheEntry κ ν}
    (h : Accounts past expiry e) {x : Act κ ν × Option ν} (hreplaces : ¬ Replaces e.key x)
    (hused : usedKey? x ≠ some e.key) : Accounts (past ++ [x]) expiry e := by
  obtain ⟨putAt, usedAt, since, hcurrent, hlast, htouched⟩ := h
  exact ⟨putAt, usedAt, since ++ [x], current_concat_iff.2 (.inr ⟨hcurrent, hreplaces⟩),
    lastUsed_concat_iff.2 (.inr ⟨since, rfl, hlast, hused⟩), htouched⟩

namespace Sound

variable {past : History κ ν} {c : ExpiringCache κ ν} (h : Sound past c)

include h

theorem put (key : κ) (value : ν) (now : Int) :
    Sound (past ++ [(⟨.put key value, now⟩, none)]) (c.put key value now) := by
  intro e he
  rcases List.mem_cons.1 (List.mem_of_mem_take he) with rfl | hold
  · refine ⟨now, now, [], current_concat_iff.2 (.inl rfl),
      lastUsed_concat_iff.2 (.inl ⟨rfl, rfl, rfl⟩), ?_⟩
    exact (Expiry.start_self _ now).symm
  · have hne : e.key ≠ key := key_ne_of_mem_others hold
    exact (h e (List.mem_filter.1 hold).1).concat (Ne.symm hne) (by simpa [usedKey?] using hne.symm)

theorem get (key : κ) (now : Int) :
    Sound (past ++ [(⟨.get key, now⟩, (c.get key now).2)]) (c.get key now).1 := by
  rcases c.get_cases key now with ⟨hget, -⟩ | ⟨e, -, -, -, hget⟩ | ⟨e, he, hkey, -, hget⟩
  -- a read without an answer uses no key, and makes no entry
  · rw [hget]
    exact fun x hx => (h x hx).concat id (by simp [usedKey?])
  · rw [hget]
    exact fun x hx => (h x (List.mem_filter.1 hx).1).concat id (by simp [usedKey?])
  · rw [hget]
    intro x hx
    rcases List.mem_cons.1 hx with rfl | hold
    · obtain ⟨putAt, usedAt, since, hcurrent, hlast, htouched⟩ := h e he
      have hused : (some key : Option κ) = some (c.renewed e now).key := congrArg some hkey.symm
      exact ⟨putAt, now, [], current_concat_iff.2 (.inr ⟨hcurrent, id⟩),
        lastUsed_concat_iff.2 (.inl ⟨rfl, hused, rfl⟩), touchedAt_renewed htouched now⟩
    · have hne : x.key ≠ key := key_ne_of_mem_others hold
      exact (h x (List.mem_filter.1 hold).1).concat id (by simpa [usedKey?] using hne.symm)

theorem perform (a : Act κ ν) :
    Sound (past ++ [(a, (ExpiringCache.perform c a).2)]) (ExpiringCache.perform c a).1 := by
  obtain ⟨operation, now⟩ := a
  cases operation with
  | put key value => exact h.put key value now
  | get key => exact h.get key now
  | clear => exact fun e he => absurd he List.not_mem_nil

/-- What stands under a key and is found by a read is at the front then. -/
theorem keptBehind_get {key : κ} {value : ν} {putAt now : Int}
    (hcurrent : Current past key value putAt) (hfound : (c.get key now).2.isSome = true) :
    KeptBehind ∅ ⟨key, value, c.expiry.start putAt now⟩ (c.get key now).1.entries := by
  rcases c.get_cases key now with ⟨hget, -⟩ | ⟨e, -, -, -, hget⟩ | ⟨e, he, rfl, -, hget⟩
  · simp [hget] at hfound
  · simp [hget] at hfound
  · obtain ⟨putAt', usedAt, since, hcurrent', -, htouched⟩ := h e he
    obtain ⟨rfl, rfl⟩ := hcurrent.unique hcurrent'
    rw [hget, ← touchedAt_renewed htouched now]
    exact KeptBehind.head _ _

end Sound

namespace Retained

variable {past : History κ ν} {c : ExpiringCache κ ν} (h : Retained past c)

include h

theorem put (hroom : 0 < c.capacity) (key : κ) (value : ν) (now : Int) :
    Retained (past ++ [(⟨.put key value, now⟩, none)]) (c.put key value now) := by
  intro k v putAt usedAt since hcurrent hlast hfew
  rcases current_concat_iff.1 hcurrent with hput | ⟨hcurrent, hreplaces⟩
  · -- it is what was put just now
    obtain ⟨⟨rfl, rfl⟩, rfl⟩ : (key = k ∧ value = v) ∧ now = putAt := by simpa using hput
    rcases lastUsed_concat_iff.1 hlast with ⟨rfl, -, rfl⟩ | ⟨rest, -, -, hused⟩
    · rw [Expiry.start_self]
      exact .inl (keptBehind_put_self hroom value)
    · exact absurd rfl hused
  · -- another key is put, which is one of those that there is room for
    have hne : k ≠ key := Ne.symm hreplaces
    rcases lastUsed_concat_iff.1 hlast with ⟨-, hused, -⟩ | ⟨rest, rfl, hlast, -⟩
    · exact absurd (Option.some.inj hused) hreplaces
    · have hkeys := usedKeys_concat rest ((⟨.put key value, now⟩, none) : Act κ ν × Option ν)
      simp only [usedKey?] at hkeys
      rw [hkeys] at hfew ⊢
      have hfewer : (usedKeys rest).card < c.capacity :=
        (Finset.card_le_card (Finset.subset_insert key _)).trans_lt hfew
      rcases h hcurrent hlast hfewer with hkept | ⟨x, hx, hlate⟩
      · exact .inl (hkept.put_of_ne hne hfew value)
      · exact .inr ⟨x, List.mem_append_left _ hx, hlate⟩

theorem get (hsound : Sound past c) (key : κ) (now : Int) :
    Retained (past ++ [(⟨.get key, now⟩, (c.get key now).2)]) (c.get key now).1 := by
  obtain ⟨hcapacity, hlifetime, hexpiry⟩ := get_keeps c key now
  intro k v putAt usedAt since hcurrent hlast hfew
  rw [hcapacity] at hfew
  rw [hlifetime, hexpiry]
  obtain ⟨hcurrent, -⟩ := (current_concat_iff.1 hcurrent).resolve_left (by simp)
  rcases lastUsed_concat_iff.1 hlast with ⟨rfl, hused, rfl⟩ | ⟨rest, rfl, hbefore, hunused⟩
  · -- the key itself was found just now
    obtain ⟨rfl, hfound⟩ := usedKey?_get_eq_some_iff.1 hused
    exact .inl (hsound.keptBehind_get hcurrent hfound)
  · have hgrows := usedKeys_subset_concat rest (⟨.get key, now⟩, (c.get key now).2)
    have hfewer : (usedKeys rest).card < c.capacity := (Finset.card_le_card hgrows).trans_lt hfew
    rcases h hcurrent hbefore hfewer with hkept | ⟨x, hx, hlate⟩
    · by_cases hk : k = key
      · -- the entry is kept, and yet its key does not count as used: it was found too old
        subst hk
        have hnone : (c.get k now).2 = none := by
          by_contra hfound
          exact hunused (usedKey?_get_eq_some_iff.2 ⟨rfl, Option.isSome_iff_ne_none.2 hfound⟩)
        have hlate := hkept.lifetime_lt_of_get_eq_none hbefore.not_mem_usedKeys hnone
        exact .inr ⟨_, List.mem_append_right _ List.mem_cons_self, hlate⟩
      · refine .inl (hkept.get_of_ne hk hgrows fun hfound => ?_)
        exact mem_usedKeys_concat (usedKey?_get_eq_some_iff.2 ⟨rfl, hfound⟩)
    · exact .inr ⟨x, List.mem_append_left _ hx, hlate⟩

theorem perform (hsound : Sound past c) (hroom : 0 < c.capacity) (a : Act κ ν) :
    Retained (past ++ [(a, (ExpiringCache.perform c a).2)]) (ExpiringCache.perform c a).1 := by
  obtain ⟨operation, now⟩ := a
  cases operation with
  | put key value => exact h.put hroom key value now
  | get key => exact h.get hsound key now
  | clear =>
    intro k v putAt usedAt since hcurrent
    rcases current_concat_iff.1 hcurrent with hput | ⟨-, hreplaces⟩
    · simp at hput
    · exact absurd trivial hreplaces

end Retained

/-! ## Runs -/

/-- There is room for one entry at least, and there are no more entries than there is room for. -/
structure Roomy (c : ExpiringCache κ ν) : Prop where
  capacity_pos : 0 < c.capacity
  size_le : c.size ≤ c.capacity

/-- A read makes no entry. -/
theorem size_get_le (c : ExpiringCache κ ν) (key : κ) (now : Int) :
    (c.get key now).1.size ≤ c.size := by
  rcases c.get_cases key now with ⟨hget, -⟩ | ⟨e, -, -, -, hget⟩ | ⟨e, he, hkey, -, hget⟩
  · rw [hget]
  · rw [hget]
    exact List.length_filter_le _ _
  · have hothers : (c.others key).length < c.entries.length :=
      List.length_filter_lt_length_iff_exists.2 ⟨e, he, by simp [hkey]⟩
    rw [hget]
    exact hothers

theorem Roomy.perform {c : ExpiringCache κ ν} (h : Roomy c) (a : Act κ ν) :
    Roomy (ExpiringCache.perform c a).1 := by
  obtain ⟨operation, now⟩ := a
  cases operation with
  | put key value => exact ⟨h.capacity_pos, length_put_le c key value now⟩
  | get key =>
    obtain ⟨hcapacity, -, -⟩ := c.get_keeps key now
    exact ⟨hcapacity ▸ h.capacity_pos, hcapacity ▸ (c.size_get_le key now).trans h.size_le⟩
  | clear => exact ⟨h.capacity_pos, Nat.zero_le _⟩

/-- What a cache holds after any run from an empty one is what the past says. -/
theorem follows_history {c : ExpiringCache κ ν} (hempty : c.entries = []) (hroom : 0 < c.capacity)
    (acts : List (Act κ ν)) :
    Roomy (run perform c acts).1 ∧ Sound (history c acts) (run perform c acts).1 ∧
      Retained (history c acts) (run perform c acts).1 := by
  have hstart : Roomy c ∧ Sound (history c []) c ∧ Retained (history c []) c := by
    refine ⟨⟨hroom, by simp [size, hempty]⟩, ?_, ?_⟩
    · intro e he
      rw [hempty] at he
      exact absurd he List.not_mem_nil
    · exact fun hcurrent => absurd hcurrent not_current_nil
  refine run_history perform (P := fun acts c' => Roomy c' ∧ Sound (history c acts) c' ∧
    Retained (history c acts) c') hstart ?_
  rintro past a - ⟨hroomy, hsound, hretained⟩
  rw [run_concat_fst, history_concat]
  exact ⟨hroomy.perform a, hsound.perform a, hretained.perform hsound hroomy.capacity_pos a⟩

theorem clear_run (c : ExpiringCache κ ν) (acts : List (Act κ ν)) :
    (run perform c acts).1.clear = c.clear := by
  have hpart := run_part perform clear (fun fixed _ => fixed) clear_perform c acts
  rw [List.foldl_fixed] at hpart
  exact hpart

/-- A cache never has more entries than there is room for. What is read is what stands under its
key, and the lifetime is not over. And what stands under its key is read within its lifetime, as
long as fewer other keys were used since it was last used than there is room for. An entry once
found expired is so at every later time, so nothing need be asked about reads that came before. -/
theorem run_bounded_sound_retained (capacity lifetime : Nat) (expiry : Expiry)
    (acts : List (Act κ ν)) (key : κ) {now : Int} (hnow : ∀ a ∈ acts, a.time ≤ now) :
    let start : ExpiringCache κ ν := .empty capacity lifetime expiry
    let c := (run perform start acts).1
    let past := history start acts
    c.size ≤ max capacity 1 ∧
    (∀ value, (c.get key now).2 = some value → ∃ putAt usedAt since,
      Current past key value putAt ∧ LastUsed past key usedAt since ∧
        now - expiry.start putAt usedAt ≤ lifetime) ∧
    ∀ value putAt usedAt since, Current past key value putAt → LastUsed past key usedAt since →
      now - expiry.start putAt usedAt ≤ lifetime → (usedKeys since).card < max capacity 1 →
      (c.get key now).2 = some value := by
  intro start c past
  obtain ⟨hroomy, hsound, hretained⟩ : Roomy c ∧ Sound past c ∧ Retained past c :=
    follows_history rfl (Nat.lt_of_lt_of_le Nat.zero_lt_one (Nat.le_max_right capacity 1)) acts
  have hfixed : c.clear = start.clear := clear_run start acts
  obtain ⟨hcapacity, hlifetime, hexpiry⟩ : c.capacity = max capacity 1 ∧ c.lifetime = lifetime ∧
      c.expiry = expiry := by simpa [clear, start, empty] using hfixed
  refine ⟨hcapacity ▸ hroomy.size_le, ?_, ?_⟩
  · intro value hget
    rcases c.get_cases key now with ⟨hnone, -⟩ | ⟨e, -, -, -, hnone⟩ | ⟨e, he, rfl, hfresh, hfound⟩
    · simp [hnone] at hget
    · simp [hnone] at hget
    · obtain ⟨putAt, usedAt, since, hcurrent, hlast, htouched⟩ := hsound e he
      have hyoung := isExpired_eq_false_iff.1 hfresh
      rw [htouched, hexpiry, hlifetime] at hyoung
      obtain rfl : e.value = value := by simpa [hfound] using hget
      exact ⟨putAt, usedAt, since, hcurrent, hlast, hyoung⟩
  · intro value putAt usedAt since hcurrent hlast hyoung hfew
    rw [← hexpiry, ← hlifetime] at hyoung
    rcases hretained hcurrent hlast (hcapacity ▸ hfew) with hkept | ⟨x, hx, hlate⟩
    · exact (hkept.get_self hlast.not_mem_usedKeys (isExpired_eq_false_iff.2 hyoung)).1
    · -- a time in the past is no later than now
      have hearlier : x.1.time ≤ now := hnow x.1 (List.of_mem_zip hx).1
      omega

/-- A read keeps an entry: it is the other one that gives way when room is needed, and the entry is
read once more at the end of a lifetime that is counted from the first read. -/
theorem run_bounded_sound_retained_kept :
    let acts : List (Act Nat Nat) :=
      [⟨.put 1 10, 0⟩, ⟨.put 2 20, 1⟩, ⟨.get 1, 8⟩, ⟨.put 3 30, 9⟩, ⟨.get 2, 10⟩]
    let start : ExpiringCache Nat Nat := .empty 2 10 .afterAccess
    let c := (run perform start acts).1
    let past := history start acts
    let since : History Nat Nat := [(⟨.put 3 30, 9⟩, none), (⟨.get 2, 10⟩, none)]
    (∀ a ∈ acts, a.time ≤ 18) ∧ (run perform start acts).2 = [none, none, some 10, none, none] ∧
      Current past 1 10 0 ∧ LastUsed past 1 8 since ∧ (usedKeys since).card = 1 ∧
      c.size ≤ 2 ∧ (c.get 1 18).2 = some 10 ∧
      ∃ putAt usedAt since, Current past 1 10 putAt ∧ LastUsed past 1 usedAt since ∧
        18 - Expiry.afterAccess.start putAt usedAt ≤ 10 := by
  intro acts start c past since
  have hnow : ∀ a ∈ acts, a.time ≤ 18 := by decide
  have hcurrent : Current past 1 10 0 :=
    ⟨(⟨.put 1 10, 0⟩, none), _, ⟨⟨[], rfl⟩, by simp [Replaces]⟩, rfl⟩
  have hlast : LastUsed past 1 8 since :=
    ⟨(⟨.get 1, 8⟩, some 10), ⟨⟨past.take 2, rfl⟩, by simp [since, usedKey?]⟩, rfl, rfl⟩
  obtain ⟨hsize, hsound, hretained⟩ := run_bounded_sound_retained 2 10 .afterAccess acts 1 hnow
  have hget : (c.get 1 18).2 = some 10 :=
    hretained 10 0 8 since hcurrent hlast (by decide) (by decide)
  exact ⟨hnow, rfl, hcurrent, hlast, by decide, hsize, hget, hsound 10 hget⟩

end ExpiringCache

end TraceSampler
