import TraceSampler.Unicode.Property

/-!
# Breaks between graphemes

The classes of characters that decide where one user-perceived character ends and the next begins.
-/

namespace TraceSampler.Unicode

/-- The classes that have a name. -/
inductive GraphemeBreak
  | control
  | carriageReturn
  | extend
  | leadingConsonant
  | lineFeed
  | syllableWithoutTail
  | syllableWithTail
  | preceding
  | regionalIndicator
  | spacingMark
  | trailingConsonant
  | vowel
  | joiner
  deriving DecidableEq, Repr

namespace GraphemeBreak

/-- The class with a name in small letters, without spaces, hyphens and underscores. -/
def named? (name : String) : Option GraphemeBreak :=
  match name with
  | "control" | "cn" => some control
  | "cr" => some carriageReturn
  | "extend" | "ex" => some extend
  | "l" => some leadingConsonant
  | "lf" => some lineFeed
  | "lv" => some syllableWithoutTail
  | "lvt" => some syllableWithTail
  | "prepend" | "pp" => some preceding
  | "regionalindicator" | "ri" => some regionalIndicator
  | "spacingmark" | "sm" => some spacingMark
  | "t" => some trailingConsonant
  | "v" => some vowel
  | "zwj" => some joiner
  | _ => none

/-- Characters that stay together with the one after them. -/
def prepended : RangeSet := .ofRows
  ["600-605 6dd 70f 890-891 8e2 d4e 110bd 110cd 111c2-111c3 113d1 1193f 11941 11a3a 11a84-11a89",
   "11d46 11f02"]

/-- Characters that attach to the one before them, colours of emoji among them. -/
def extending : RangeSet :=
  (Property.set .graphemeExtend).union (Property.set .emojiModifier)

/-- Controls, separators of lines and formats, apart from the joiners and what precedes others. -/
def controls : RangeSet :=
  let reserved := (Category.set [.cn]).inter (Property.set .defaultIgnorable)
  let others := RangeSet.unions
    [.ofRows ["a d 200c-200d"], Property.set .prependedConcatenationMark, extending]
  ((Category.set [.zl, .zp, .cc, .cf]).union reserved).diff others

/-- Marks that take up space but do not attach to what stands before them. -/
def looseMarks : RangeSet := .ofRows
  ["102b-102c 1038 1062-1064 1067-106d 1083 1087-108c 108f 109a-109c 1a61 1a63-1a64 aa7b aa7d",
   "11720-11721"]

/-- The syllables of a block that have no trailing consonant. -/
def openSyllables : RangeSet := .ofPoints ((List.range 399).map fun i => 0xAC00 + 28 * i)

/-- The characters of a class. -/
def set : GraphemeBreak → RangeSet
  | control => controls
  | carriageReturn => .range 0xD 0xD
  | extend => extending
  | leadingConsonant => .ofRows ["1100-115f a960-a97c"]
  | lineFeed => .range 0xA 0xA
  | syllableWithoutTail => openSyllables
  | syllableWithTail => (RangeSet.range 0xAC00 0xD7A3).diff openSyllables
  | preceding => prepended
  | regionalIndicator => Property.set .regionalIndicator
  | spacingMark =>
    (((Category.set [.mc]).union (.ofRows ["e33 eb3"])).diff extending).diff looseMarks
  | trailingConsonant => .ofRows ["11a8-11ff d7cb-d7fb"]
  | vowel => .ofRows ["1160-11a7 d7b0-d7c6 16d63 16d67-16d6a"]
  | joiner => .range 0x200D 0x200D

end GraphemeBreak

end TraceSampler.Unicode
