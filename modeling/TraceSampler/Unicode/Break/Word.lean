import TraceSampler.Unicode.Break.Grapheme
import TraceSampler.Unicode.Script

/-!
# Breaks between words

The classes of characters that decide where a word ends.
-/

namespace TraceSampler.Unicode

/-- The classes that have a name. -/
inductive WordBreak
  | letter
  | carriageReturn
  | doubleQuote
  | extend
  | connector
  | format
  | hebrewLetter
  | katakana
  | lineFeed
  | middleLetter
  | middleNumber
  | middleBoth
  | newline
  | numeric
  | regionalIndicator
  | singleQuote
  | space
  | joiner
  deriving DecidableEq, Repr

namespace WordBreak

/-- The class with a name in small letters, without spaces, hyphens and underscores. -/
def named? (name : String) : Option WordBreak :=
  match name with
  | "aletter" | "le" => some letter
  | "cr" => some carriageReturn
  | "doublequote" | "dq" => some doubleQuote
  | "extend" => some extend
  | "extendnumlet" | "ex" => some connector
  | "format" | "fo" => some format
  | "hebrewletter" | "hl" => some hebrewLetter
  | "katakana" | "ka" => some katakana
  | "lf" => some lineFeed
  | "midletter" | "ml" => some middleLetter
  | "midnum" | "mn" => some middleNumber
  | "midnumlet" | "mb" => some middleBoth
  | "newline" | "nl" => some newline
  | "numeric" | "nu" => some numeric
  | "regionalindicator" | "ri" => some regionalIndicator
  | "singlequote" | "sq" => some singleQuote
  | "wsegspace" => some space
  | "zwj" => some joiner
  | _ => none

/-- Characters that stay with the word before them. -/
def extending : RangeSet := (GraphemeBreak.extending.union (Category.set [.mc])).diff
  (.range 0x200D 0x200D)

/-- Formats that are part of numbers. -/
def numberFormats : RangeSet := .ofRows ["600-605 6dd 890-891 8e2 110bd 110cd"]

def numerics : RangeSet :=
  .unions [Category.set [.nd], numberFormats, .ofRows ["66b 19da"]]

def katakanas : RangeSet :=
  (ScriptCode.set "Kana".toList).union (.ofRows ["3031-3035 309b-309c 30a0 30fc ff70"])

def hebrewLetters : RangeSet := (ScriptCode.set "Hebr".toList).inter (Category.set [.lo])

/-- Letters of the scripts that leave no space between words. -/
def unspacedLetters : RangeSet := .ofRows
  ["e01-e30 e32-e33 e40-e46 e81-e82 e84 e86-e8a e8c-ea3 ea5 ea7-eb0 eb2-eb3 ebd ec0-ec4 ec6",
   "edc-edf 1000-102a 103f 1050-1055 105a-105d 1061 1065-1066 106e-1070 1075-1081 108e 1780-17b3",
   "17d7 17dc 1950-196d 1970-1974 1980-19ab 19b0-19c9 1a20-1a54 1aa7 a9e0-a9e4 a9e6-a9ef",
   "a9fa-a9fe aa60-aa76 aa7a aa7e-aaaf aab1 aab5-aab6 aab9-aabd aac0 aac2 aadb-aadd 11700-1171a",
   "11740-11746"]

/-- Signs that count as letters of a word. -/
def letterSigns : RangeSet := .ofRows
  ["2c2-2c5 2d2-2d7 2de-2df 2e5-2eb 2ed 2ef-2ff 55a-55c 55e 58a 5f3 70f a708-a716 a720-a721",
   "a789-a78a ab5b"]

def letters : RangeSet :=
  ((Property.set .alphabetic).union letterSigns).diff (.unions
    [Property.set .ideographic, katakanas, unspacedLetters, ScriptCode.set "Hira".toList, extending,
      hebrewLetters])

/-- The characters of a class. -/
def set : WordBreak → RangeSet
  | letter => letters
  | carriageReturn => .range 0xD 0xD
  | doubleQuote => .range 0x22 0x22
  | extend => extending
  | connector => (Category.set [.pc]).union (.range 0x202F 0x202F)
  | format =>
    (Category.set [.cf]).diff (.unions [.range 0x200B 0x200D, GraphemeBreak.prepended, extending])
  | hebrewLetter => hebrewLetters
  | katakana => katakanas
  | lineFeed => .range 0xA 0xA
  | middleLetter => .ofRows ["3a b7 387 55f 5f4 2027 fe13 fe55 ff1a"]
  | middleNumber => .ofRows ["2c 3b 37e 589 60c-60d 66c 7f8 2044 fe10 fe14 fe50 fe54 ff0c ff1b"]
  | middleBoth => .ofRows ["2e 2018-2019 2024 fe52 ff07 ff0e"]
  | newline => .ofRows ["b-c 85 2028-2029"]
  | numeric => numerics
  | regionalIndicator => Property.set .regionalIndicator
  | singleQuote => .range 0x27 0x27
  | space => (Category.set [.zs]).diff (.ofRows ["a0 2007 202f"])
  | joiner => .range 0x200D 0x200D

end WordBreak

end TraceSampler.Unicode
