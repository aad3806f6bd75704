import TraceSampler.Text.Integer
import TraceSampler.Unicode.AgeTable
import TraceSampler.Unicode.Category

/-!
# Ages of characters

The edition of the character data that a character first appeared in. A set of this kind holds the
characters of an edition and of all editions before it.
-/

namespace TraceSampler.Unicode

/-- An edition by its two numbers. -/
structure Age where
  major : Nat
  minor : Nat
  deriving DecidableEq, Repr

namespace Age

def le (a b : Age) : Bool := a.major < b.major || (a.major == b.major && a.minor ≤ b.minor)

/-- The editions up to 16.0 that added characters. -/
def known : List Age :=
  [⟨1, 1⟩, ⟨2, 0⟩, ⟨2, 1⟩, ⟨3, 0⟩, ⟨3, 1⟩, ⟨3, 2⟩, ⟨4, 0⟩, ⟨4, 1⟩, ⟨5, 0⟩, ⟨5, 1⟩, ⟨5, 2⟩,
    ⟨6, 0⟩, ⟨6, 1⟩, ⟨6, 2⟩, ⟨6, 3⟩, ⟨7, 0⟩, ⟨8, 0⟩, ⟨9, 0⟩, ⟨10, 0⟩, ⟨11, 0⟩, ⟨12, 0⟩, ⟨12, 1⟩,
    ⟨13, 0⟩, ⟨14, 0⟩, ⟨15, 0⟩, ⟨15, 1⟩, ⟨16, 0⟩]

/-- The number of an edition, with a point. -/
def number (a : Age) : List Char := Nat.toDigits 10 a.major ++ '.' :: Nat.toDigits 10 a.minor

/-- The other name of an edition, in small letters and without its underscore. -/
def plainName (a : Age) : List Char := 'v' :: Nat.toDigits 10 a.major ++ Nat.toDigits 10 a.minor

/-- The edition with a name in small letters, without spaces, hyphens and underscores. -/
def named? (name : String) : Option Age :=
  known.find? fun a => a.number == name.toList || a.plainName == name.toList

/-- Reads the name of a run. -/
def ofRunName? : List Char → Option Age
  | 'V' :: number => known.find? fun a => a.number == number
  | _ => none

/-- The runs of the table. -/
def runs : Runs Age := .ofRows ofRunName? ageRows

/-- The last two code points of each of the 17 planes, and 32 more that stand for no character and
never will. -/
def noncharacters : RangeSet :=
  .ofRanges (⟨0xFDD0, 0xFDEF⟩ ::
    (List.range 17).map fun plane => ⟨plane * 0x10000 + 0xFFFE, plane * 0x10000 + 0xFFFF⟩)

/-- The code points that an edition or one before it has put to use. -/
def set (a : Age) : RangeSet :=
  (runs.select fun b => b.le a).inter (Category.assigned.union noncharacters)

end Age

end TraceSampler.Unicode
