import TraceSampler.Unicode.RangeSet

/-!
# Runs of code points

Properties that every character has are kept as runs: every code point belongs to the run with the
greatest start that is not above it. A table of runs is written as text, each run as its first code
point in hexadecimal with small letters and then a name, which starts with a capital letter.
-/

namespace TraceSampler.Unicode

structure Run (κ : Type) where
  start : Nat
  kind : κ

/-- Runs by their start. -/
abbrev Runs (κ : Type) := Array (Run κ)

namespace Runs

variable {κ : Type}

/-- Reads one run of a table. -/
def readRun? (ofName? : List Char → Option κ) (s : List Char) : Option (Run κ) :=
  let isDigit := fun (c : Char) => !c.isUpper
  match Text.Hex.read? (s.takeWhile isDigit), ofName? (s.dropWhile isDigit) with
  | some start, some kind => some ⟨start, kind⟩
  | _, _ => none

/-- The runs of a table whose rows hold runs with spaces between them. -/
def ofRows (ofName? : List Char → Option κ) (rows : List String) : Runs κ :=
  (rows.flatMap fun row => (Text.split ' ' row.toList).filterMap (readRun? ofName?)).toArray

/-- The run that a code point belongs to. -/
def find? (runs : Runs κ) (n : Nat) : Option (Run κ) :=
  runs[lastStarting Run.start runs n 0 runs.size]?

/-- Every run with its code points. -/
def segmentsOf : List (Run κ) → List (Range × κ)
  | [] => []
  | [r] => [(⟨r.start, lastCodePoint⟩, r.kind)]
  | r :: next :: rest => (⟨r.start, next.start - 1⟩, r.kind) :: segmentsOf (next :: rest)

/-- The ranges that `ranges` takes from the code points of each run. -/
def collect (runs : Runs κ) (ranges : κ → Range → List Range) : RangeSet :=
  .ofRanges ((segmentsOf runs.toList).flatMap fun (range, kind) => ranges kind range)

/-- The characters of the runs of some kinds. -/
def select (runs : Runs κ) (wanted : κ → Bool) : RangeSet :=
  runs.collect fun kind range => if wanted kind then [range] else []

end Runs

end TraceSampler.Unicode
