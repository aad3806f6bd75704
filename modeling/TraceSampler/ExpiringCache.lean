/-!
# Expiring caches

A cache of bounded size. An entry is forgotten when it was not used for the longest time and room
is needed, or when it is asked for after its lifetime. The lifetime of an entry starts anew when it
is put and, if the cache says so, whenever it is read.

* `length_put_le`: a cache never holds more entries than its capacity.
-/

namespace TraceSampler

/-- What a lifetime is counted from. -/
inductive Expiry
  | afterWrite
  | afterAccess
  deriving DecidableEq, Repr

structure CacheEntry (κ ν : Type) where
  key : κ
  value : ν
  touchedAt : Int

/-- A cache with its entries from the most to the least recently used. -/
structure ExpiringCache (κ ν : Type) where
  capacity : Nat
  /-- In nanoseconds. -/
  lifetime : Nat
  expiry : Expiry
  entries : List (CacheEntry κ ν) := []

namespace ExpiringCache

/-- The entries of a cache for which nothing else is asked. -/
def standardCapacity : Nat := 1000

/-- Twenty minutes. -/
def standardLifetime : Nat := 20 * 60 * 1000000000

/-- An empty cache. It has room for one entry at least. -/
def empty {κ ν : Type} (capacity lifetime : Nat) (expiry : Expiry) : ExpiringCache κ ν :=
  { capacity := max capacity 1, lifetime, expiry }

variable {κ ν : Type}

def size (c : ExpiringCache κ ν) : Nat := c.entries.length

def isEmpty (c : ExpiringCache κ ν) : Bool := c.entries.isEmpty

def clear (c : ExpiringCache κ ν) : ExpiringCache κ ν := { c with entries := [] }

/-- The entry is older than the lifetime. -/
def isExpired (c : ExpiringCache κ ν) (e : CacheEntry κ ν) (now : Int) : Bool :=
  (now - e.touchedAt).toNat > c.lifetime

variable [DecidableEq κ]

/-- The entries under other keys. -/
def others (c : ExpiringCache κ ν) (key : κ) : List (CacheEntry κ ν) :=
  c.entries.filter fun e => e.key ≠ key

/-- The entry under a key, expired or not. -/
def find? (c : ExpiringCache κ ν) (key : κ) : Option (CacheEntry κ ν) :=
  c.entries.find? fun e => e.key = key

/-- Reads an entry. One that is found counts as used, one that is found expired is dropped. -/
def get (c : ExpiringCache κ ν) (key : κ) (now : Int) : ExpiringCache κ ν × Option ν :=
  match c.find? key with
  | none => (c, none)
  | some e =>
    if c.isExpired e now then ({ c with entries := c.others key }, none)
    else
      let touchedAt := if c.expiry = .afterAccess then now else e.touchedAt
      ({ c with entries := { e with touchedAt } :: c.others key }, some e.value)

/-- Puts an entry, in place of one under the same key or of the one not used for longest. -/
def put (c : ExpiringCache κ ν) (key : κ) (value : ν) (now : Int) : ExpiringCache κ ν :=
  { c with entries := (⟨key, value, now⟩ :: c.others key).take c.capacity }

theorem length_put_le (c : ExpiringCache κ ν) (key : κ) (value : ν) (now : Int) :
    (c.put key value now).size ≤ c.capacity := by
  simp only [size, put, List.length_take]
  omega

end ExpiringCache

end TraceSampler
