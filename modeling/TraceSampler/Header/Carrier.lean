import TraceSampler.Json.Value
import TraceSampler.Text.Basic
import TraceSampler.Unicode.LetterCase

/-!
# Header carriers

What headers are read from and written to: a map from names to values, or a JSON document, whose
members count as headers where they are strings. A name is looked up in lower case first and then
in any case of the ASCII letters; it is always written in lower case. A document that is no object
holds no header and takes none.

* `lookup_put_self`, `lookup_put_of_ne`: what a list of headers holds after one is put.
-/

namespace TraceSampler

inductive Carrier
  /-- Headers with distinct names. -/
  | map (headers : List (String × String))
  | document (value : Json.Value)

namespace Carrier

/-- Puts a value under a name; an earlier value under exactly that name is replaced in its place. -/
def put {α : Type} (name : String) (value : α) : List (String × α) → List (String × α)
  | [] => [(name, value)]
  | (k, v) :: r => if k = name then (name, value) :: r else (k, v) :: put name value r

/-- The map of some headers; of two under one name the later counts. -/
def ofHeaders (headers : List (String × String)) : Carrier :=
  .map (headers.foldl (fun acc (k, v) => put k v acc) [])

/-- The value under the name in lower case, or else under a name that is the same up to ASCII
case. -/
def find? {α : Type} (headers : List (String × α)) (name : String) : Option α :=
  match headers.lookup (Unicode.lowered name) with
  | some v => some v
  | none => (headers.find? fun h => Text.sameIgnoringCase h.1 name).map (·.2)

/-- The value of a header. -/
def get? (c : Carrier) (name : String) : Option String :=
  match c with
  | .map headers => find? headers name
  | .document (.object members) =>
    match find? members name with
    | some (.text s) => some s
    | _ => none
  | .document _ => none

/-- Writes a header. -/
def set (c : Carrier) (name value : String) : Carrier :=
  match c with
  | .map headers => .map (put (Unicode.lowered name) value headers)
  | .document (.object members) =>
    .document (.object (Json.insertMember (Unicode.lowered name) (.text value) members))
  | .document v => .document v

theorem lookup_put_self {α : Type} (name : String) (value : α) (headers : List (String × α)) :
    (put name value headers).lookup name = some value := by
  induction headers with
  | nil => simp [put]
  | cons h r ih =>
    obtain ⟨k, v⟩ := h
    by_cases hk : k = name
    · simp [put, hk]
    · have hb : (name == k) = false := by simp [Ne.symm hk]
      simp [put, hk, List.lookup_cons, hb, ih]

theorem lookup_put_of_ne {α : Type} {name other : String} (h : other ≠ name) (value : α)
    (headers : List (String × α)) :
    (put name value headers).lookup other = headers.lookup other := by
  have hn : (other == name) = false := by simp [h]
  induction headers with
  | nil => simp [put, List.lookup_cons, hn]
  | cons x r ih =>
    obtain ⟨k, v⟩ := x
    by_cases hk : k = name
    · subst hk
      simp [put, List.lookup_cons, hn]
    · simp [put, hk, List.lookup_cons, ih]

end Carrier

end TraceSampler
