import TraceSampler.Text.Basic
import TraceSampler.Text.Hex

/-!
# Sets of characters as ranges

A set of characters is kept as ranges of code points, in ascending order and with a gap between any
two of them, so that membership is found by halving and the size of a set can be read off its ranges.
Surrogates are no characters and lie in no range. A table of ranges is written as text: code points
in hexadecimal, and a hyphen between the two ends of a range.
-/

namespace TraceSampler.Unicode

/-- The last code point. -/
def lastCodePoint : Nat := 0x10FFFF

/-- The last index below `high` whose entry starts at or before `n`, searched from `low` by halving;
entry `low` starts there or before. -/
def lastStarting {α : Type} (start : α → Nat) (entries : Array α) (n low high : Nat) : Nat :=
  if low + 1 < high then
    let middle := (low + high) / 2
    match entries[middle]? with
    | some entry =>
      if start entry ≤ n then lastStarting start entries n middle high
      else lastStarting start entries n low middle
    | none => low
  else low
termination_by high - low

/-- The code points from `first` to `last`, both included. -/
structure Range where
  first : Nat
  last : Nat
  deriving DecidableEq, Repr

namespace Range

def contains (r : Range) (n : Nat) : Bool := r.first ≤ n && n ≤ r.last

/-- The characters of the range, which may lie on both sides of the surrogates. -/
def parts (r : Range) : List Range :=
  [⟨r.first, min r.last 0xD7FF⟩, ⟨max r.first 0xE000, min r.last lastCodePoint⟩].filter fun part =>
    part.first ≤ part.last

/-- Reads a code point, or two of them with a hyphen between. -/
def read? (s : List Char) : Option Range :=
  match Text.splitFirst? '-' s with
  | some (first, last) =>
    match Text.Hex.read? first, Text.Hex.read? last with
    | some a, some b => some ⟨a, b⟩
    | _, _ => none
  | none => (Text.Hex.read? s).map fun n => ⟨n, n⟩

/-- Joins `current` with the ranges after it that overlap or touch it, and those among themselves,
when they come in the order of their first code points. -/
def joinFrom (current : Range) : List Range → List Range
  | [] => [current]
  | r :: rest =>
    if r.first ≤ current.last + 1 then joinFrom ⟨current.first, max current.last r.last⟩ rest
    else current :: joinFrom r rest

/-- What lies between the ranges from the code point `next` on. -/
def gapsFrom (next : Nat) : List Range → List Range
  | [] => [⟨next, lastCodePoint⟩]
  | r :: rest =>
    if next < r.first then ⟨next, r.first - 1⟩ :: gapsFrom (r.last + 1) rest
    else gapsFrom (r.last + 1) rest

end Range

structure RangeSet where
  ranges : Array Range
  deriving DecidableEq, Repr

namespace RangeSet

def empty : RangeSet := ⟨#[]⟩

/-- The characters in any of the ranges, which may come in any order. -/
def ofRanges (rs : List Range) : RangeSet :=
  match (rs.flatMap Range.parts).mergeSort fun a b => a.first ≤ b.first with
  | [] => empty
  | r :: rest => ⟨(r.joinFrom rest).toArray⟩

/-- The characters with the given code points. -/
def ofPoints (ns : List Nat) : RangeSet := ofRanges (ns.map fun n => ⟨n, n⟩)

def range (first last : Nat) : RangeSet := ofRanges [⟨first, last⟩]

def singleton (c : Char) : RangeSet := ofPoints [c.toNat]

/-- The set that a table lists, a few ranges to a row. -/
def ofRows (rows : List String) : RangeSet :=
  ofRanges (rows.flatMap fun row => (Text.split ' ' row.toList).filterMap Range.read?)

/-- Every character. -/
def all : RangeSet := range 0 lastCodePoint

def isEmpty (s : RangeSet) : Bool := s.ranges.isEmpty

def containsPoint (s : RangeSet) (n : Nat) : Bool :=
  match s.ranges[lastStarting Range.first s.ranges n 0 s.ranges.size]? with
  | some r => r.contains n
  | none => false

def contains (s : RangeSet) (c : Char) : Bool := s.containsPoint c.toNat

def union (a b : RangeSet) : RangeSet := ofRanges (a.ranges.toList ++ b.ranges.toList)

def complement (s : RangeSet) : RangeSet := ofRanges (Range.gapsFrom 0 s.ranges.toList)

def inter (a b : RangeSet) : RangeSet := (a.complement.union b.complement).complement

def diff (a b : RangeSet) : RangeSet := a.inter b.complement

/-- The characters that are in exactly one of the two sets. -/
def symmetricDiff (a b : RangeSet) : RangeSet := (a.union b).diff (a.inter b)

/-- The characters in any of the sets. -/
def unions (sets : List RangeSet) : RangeSet :=
  ofRanges (sets.flatMap fun s => s.ranges.toList)

/-- The only character of the set, if it has just one. -/
def single? (s : RangeSet) : Option Char :=
  match s.ranges.toList with
  | [r] => if r.first = r.last then some (Char.ofNat r.first) else none
  | _ => none

/-- The set with every code point that a pair relates to one of the set, in either direction and
through at most one other. -/
def closeUnder (pairs : List (Nat × Nat)) (s : RangeSet) : RangeSet :=
  let images := (pairs.filter fun p => s.containsPoint p.1).map (·.2)
  let grown := s.union (ofPoints images)
  grown.union (ofPoints ((pairs.filter fun p => grown.containsPoint p.2).map (·.1)))

end RangeSet

end TraceSampler.Unicode
