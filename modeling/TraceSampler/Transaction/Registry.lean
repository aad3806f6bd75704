import TraceSampler.Log.Record
import TraceSampler.Transaction.Name

/-!
# The limit of transaction names

Only so many different names are reported. The registry keeps the names that were let through; once
it is full, transactions with other names share one. The limit may be changed from outside, through
a feed whose latest value is taken in before a name is judged.

* `accept_of_mem`: a name once let through stays so.
-/

namespace TraceSampler.Transaction

/-- The source of new limits. Only the latest value counts, and it is read once. -/
structure LimitFeed where
  /-- The latest value; without a number it stands for the standard limit. -/
  latest : Option Nat := none
  /-- The latest value was not read yet. -/
  fresh : Bool := true
  /-- The sender is still there. A feed that lost its sender is not read any more. -/
  isOpen : Bool := true
  deriving DecidableEq, Repr

namespace LimitFeed

def send (f : LimitFeed) (value : Option Nat) : LimitFeed :=
  if f.isOpen then { f with latest := value, fresh := true } else f

def close (f : LimitFeed) : LimitFeed := { f with isOpen := false }

/-- The feed after its value was read. -/
def read (f : LimitFeed) : LimitFeed := { f with fresh := false }

/-- There is a value to be read. -/
def isPending (f : LimitFeed) : Bool := f.isOpen && f.fresh

end LimitFeed

structure Registry where
  /-- The names let through, each once. -/
  names : List String := []
  /-- A name was turned away since the names were last cleared or the limit was raised. -/
  exceeded : Bool := false
  limit : Nat := 200
  feed : Option LimitFeed := none
  deriving DecidableEq, Repr

namespace Registry

/-- The limit where none is set. -/
def standardLimit : Nat := 200

def count (r : Registry) : Nat := r.names.length

/-- The new limit that waits to be taken in, if there is one. -/
def pending? (r : Registry) : Option (Option Nat) :=
  match r.feed with
  | some f => if f.isPending then some f.latest else none
  | none => none

/-- Takes in a new limit. A greater number than before makes room, so nothing is turned away for
now. -/
def poll (r : Registry) : Registry :=
  let feed := r.feed.map LimitFeed.read
  match r.pending? with
  | none => r
  | some (some n) => { r with exceeded := r.exceeded && !(n > r.limit), limit := n, feed }
  | some none => { r with limit := standardLimit, feed }

/-- What is logged when a new limit is taken in. -/
def pollLog (r : Registry) : List Log.Record :=
  match r.pending? with
  | none => []
  | some n =>
    [.debug ("Max transaction name count set to " ++ Text.Integer.ofNat (n.getD standardLimit))]

/-- Lets a name through if it is known or there is room for it. -/
def accept (r : Registry) (name : String) : Registry × Bool :=
  if r.names.contains name then (r, true)
  else if r.names.length < r.limit then ({ r with names := name :: r.names }, true)
  else ({ r with exceeded := true }, false)

/-- The name that is reported for a name, under the latest limit. -/
def report (r : Registry) (name : String) : Registry × String :=
  let (r, accepted) := r.poll.accept name
  (r, if accepted then name else overLimitName)

/-- Forgets all names. -/
def clear (r : Registry) : Registry := { r with names := [], exceeded := false }

/-- What is logged when the names are forgotten. -/
def clearLog (r : Registry) : List Log.Record :=
  [.trace ("Clearing transaction names, unique transaction count: " ++
    Text.Integer.ofNat r.names.length)]

/-- Forgets all names and the limit. A feed stays in place. -/
def reset (r : Registry) : Registry := { r.clear with limit := standardLimit }

/-- A name once let through stays so. -/
theorem accept_of_mem {r : Registry} {name : String} (h : name ∈ r.names) :
    r.accept name = (r, true) := by
  simp [accept, h]

end Registry

end TraceSampler.Transaction
