import TraceSampler.Decimal.Shortest
import TraceSampler.Text.Basic
import TraceSampler.Text.Integer

/-!
# Attributes of spans

An attribute is a named value: text, a truth value, a number or a list of values. A span has at
most one attribute of a name, and a later value takes the place of an earlier one.

* `get?_insert_self`, `get?_insert_of_ne`: what is read after an attribute is set.
* `get?_merge`: of two sets of attributes the second one wins.
-/

namespace TraceSampler

inductive AttributeValue
  | text (s : String)
  | bool (b : Bool)
  | whole (n : Int)
  | real (x : Float)
  | list (items : List AttributeValue)
  deriving Inhabited

namespace AttributeValue

mutual

/-- The plain text of a value; the items of a list stand between brackets. -/
def write : AttributeValue → String
  | .text s => s
  | .bool b => if b then "true" else "false"
  | .whole n => Text.Integer.ofInt n
  | .real x => Decimal.NumberStyle.plain.write x
  | .list items => "[" ++ Text.joinWith ", " (writeItems items) ++ "]"

def writeItems : List AttributeValue → List String
  | [] => []
  | v :: r => v.write :: writeItems r

end

/-- The texts that a value contributes to a name: one for each item of a list. -/
def texts : AttributeValue → List String
  | .list items => writeItems items
  | v => [v.write]

end AttributeValue

/-- The attributes of a span. -/
structure Attributes where
  entries : List (String × AttributeValue) := []

namespace Attributes

def get? (a : Attributes) (key : String) : Option AttributeValue := a.entries.lookup key

/-- Sets an attribute; an earlier value of the same name is dropped. -/
def insert (a : Attributes) (key : String) (v : AttributeValue) : Attributes :=
  ⟨(key, v) :: a.entries.filter (·.1 != key)⟩

def ofList (entries : List (String × AttributeValue)) : Attributes :=
  entries.foldl (fun a (k, v) => a.insert k v) {}

/-- Both sets of attributes; where both have a value the second one's counts. -/
def merge (a b : Attributes) : Attributes :=
  ⟨b.entries ++ a.entries.filter fun (k, _) => (b.get? k).isNone⟩

/-- The value of an attribute that is a text. -/
def text? (a : Attributes) (key : String) : Option String :=
  match a.get? key with
  | some (.text s) => some s
  | _ => none

/-- The value of an attribute that is a text and not empty. -/
def nonemptyText? (a : Attributes) (key : String) : Option String :=
  (a.text? key).filter fun s => !s.isEmpty

@[simp] theorem get?_insert_self (a : Attributes) (key : String) (v : AttributeValue) :
    (a.insert key v).get? key = some v := by
  simp [get?, insert]

theorem lookup_filter {p : String → Bool} (entries : List (String × AttributeValue))
    {key : String} (h : p key = true) :
    (entries.filter fun e => p e.1).lookup key = entries.lookup key := by
  induction entries with
  | nil => rfl
  | cons e r ih =>
    obtain ⟨k, v⟩ := e
    by_cases hk : key = k
    · subst hk
      simp [h]
    · have hb : (key == k) = false := by simp [hk]
      by_cases hp : p k = true <;> simp [hp, List.lookup_cons, hb, ih]

theorem get?_insert_of_ne (a : Attributes) {key other : String} (h : other ≠ key)
    (v : AttributeValue) : (a.insert key v).get? other = a.get? other := by
  have hb : (other == key) = false := by simp [h]
  simp only [get?, insert, List.lookup_cons, hb]
  exact lookup_filter (p := (· != key)) a.entries (by simp [h])

/-- Of two sets of attributes the second one wins. -/
theorem get?_merge (a b : Attributes) (key : String) :
    (a.merge b).get? key = (b.get? key).or (a.get? key) := by
  simp only [get?, merge]
  rw [List.lookup_append]
  cases h : b.entries.lookup key with
  | some v => rfl
  | none =>
    simp only [Option.or]
    exact lookup_filter (p := fun k => (b.entries.lookup k).isNone) a.entries (by simp [h])

end Attributes

/-- The side of a request that a span stands on. -/
inductive SpanKind
  | internal
  | server
  | client
  | producer
  | consumer
  deriving DecidableEq, Repr, Inhabited

def SpanKind.name : SpanKind → String
  | .internal => "INTERNAL"
  | .server => "SERVER"
  | .client => "CLIENT"
  | .producer => "PRODUCER"
  | .consumer => "CONSUMER"

end TraceSampler
