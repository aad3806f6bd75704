import TraceSampler.Pattern.Property

/-!
# Sets of characters in patterns

The sets with one letter and the bracketed ASCII classes, and the closure of a set under letter
case. In the ASCII mode a set holds ASCII characters only, and only the letters `A` to `Z` have two
cases.
-/

namespace TraceSampler.Pattern

open Unicode

namespace CharSet

/-- The characters that differ at most in case from one of the set. -/
def caseClosed (ascii : Bool) (s : RangeSet) : RangeSet :=
  s.closeUnder (if ascii then asciiFoldPairs else foldPairs)

/-! ## Sets with one letter -/

/-- White space among the ASCII characters. -/
def asciiBlanks : RangeSet := .ofRows ["9-d 20"]

/-- The ASCII characters of words. -/
def asciiWord : RangeSet := .ofRows ["30-39 41-5a 5f 61-7a"]

/-- The characters of words of all scripts. -/
def fullWord : RangeSet := CharacterClass.word.set

def digits (ascii : Bool) : RangeSet := if ascii then .range 0x30 0x39 else Category.set [.nd]

def blanks (ascii : Bool) : RangeSet := if ascii then asciiBlanks else Property.set .whiteSpace

def word (ascii : Bool) : RangeSet := if ascii then asciiWord else fullWord

/-! ## Bracketed ASCII classes -/

/-- The class between `[:` and `:]`. -/
def asciiClass? (name : String) : Option RangeSet :=
  match name with
  | "alnum" => some (.ofRows ["30-39 41-5a 61-7a"])
  | "alpha" => some (.ofRows ["41-5a 61-7a"])
  | "ascii" => some (.range 0 0x7F)
  | "blank" => some (.ofRows ["9 20"])
  | "cntrl" => some (.ofRows ["0-1f 7f"])
  | "digit" => some (.range 0x30 0x39)
  | "graph" => some (.range 0x21 0x7E)
  | "lower" => some (.range 0x61 0x7A)
  | "print" => some (.range 0x20 0x7E)
  | "punct" => some (.ofRows ["21-2f 3a-40 5b-60 7b-7e"])
  | "space" => some asciiBlanks
  | "upper" => some (.range 0x41 0x5A)
  | "word" => some asciiWord
  | "xdigit" => some (Property.set .asciiHexDigit)
  | _ => none

end CharSet

end TraceSampler.Pattern
