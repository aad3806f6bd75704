import TraceSampler.Unicode.Break.Word

/-!
# Breaks between sentences

The classes of characters that decide where a sentence ends.
-/

namespace TraceSampler.Unicode

/-- The classes that have a name. -/
inductive SentenceBreak
  | ambiguousTerminal
  | close
  | carriageReturn
  | extend
  | format
  | letter
  | lineFeed
  | lower
  | numeric
  | continuing
  | separator
  | space
  | terminal
  | upper
  deriving DecidableEq, Repr

namespace SentenceBreak

/-- The class with a name in small letters, without spaces, hyphens and underscores. -/
def named? (name : String) : Option SentenceBreak :=
  match name with
  | "aterm" | "at" => some ambiguousTerminal
  | "close" | "cl" => some close
  | "cr" => some carriageReturn
  | "extend" | "ex" => some extend
  | "format" | "fo" => some format
  | "oletter" | "le" => some letter
  | "lf" => some lineFeed
  | "lower" | "lo" => some lower
  | "numeric" | "nu" => some numeric
  | "scontinue" | "sc" => some continuing
  | "sep" | "se" => some separator
  | "sp" => some space
  | "sterm" | "st" => some terminal
  | "upper" | "up" => some upper
  | _ => none

/-- Characters that stay with the one before them. -/
def extending : RangeSet :=
  .unions [Property.set .graphemeExtend, Category.set [.mc], .range 0x200D 0x200D]

/-- Stops that may also stand in an abbreviation or a number. -/
def stops : RangeSet := .ofRows ["2e 2024 fe52 ff0e"]

def terminals : RangeSet := (Property.set .sentenceTerminal).diff stops

def lowers : RangeSet :=
  (Property.set .lowercase).diff
    ((Property.set .graphemeExtend).union (.ofRows ["10d0-10fa 10fd-10ff"]))

def uppers : RangeSet :=
  ((Category.set [.lt]).union (Property.set .uppercase)).diff (.ofRows ["1c90-1cba 1cbd-1cbf"])

/-- The characters of a class. -/
def set : SentenceBreak → RangeSet
  | ambiguousTerminal => stops
  | close =>
    ((Category.set [.ps, .pe, .pi, .pf]).union
      (.ofRows ["22 27 275b-2760 2e00-2e01 2e06-2e08 2e0b 1f676-1f678"])).diff
      (stops.union terminals)
  | carriageReturn => .range 0xD 0xD
  | extend => extending
  | format =>
    (Category.set [.cf]).diff
      (.unions [.range 0x200C 0x200D, WordBreak.numberFormats, extending])
  | letter =>
    ((Property.set .alphabetic).union (.range 0x5F3 0x5F3)).diff
      (.unions [lowers, uppers, extending])
  | lineFeed => .range 0xA 0xA
  | lower => lowers
  | numeric => WordBreak.numerics.union (.range 0x66C 0x66C)
  | continuing => .ofRows
    ["2c-2d 3a 3b 37e 55d 60c-60d 7f8 1802 1808 2013-2014 3001 fe10-fe11 fe13 fe14 fe31-fe32",
     "fe50-fe51 fe54-fe55 fe58 fe63 ff0c-ff0d ff1a-ff1b ff64"]
  | separator => .ofRows ["85 2028-2029"]
  | space => .ofRows ["9 b-c 20 a0 1680 2000-200a 202f 205f 3000"]
  | terminal => terminals
  | upper => uppers

end SentenceBreak

end TraceSampler.Unicode
