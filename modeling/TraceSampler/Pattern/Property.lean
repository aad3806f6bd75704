import TraceSampler.Unicode.Break.Sentence

/-!
# Properties in patterns

How a pattern names a set of characters by what the character data say of them: by a name that
stands alone, or by a property and one of its values.
-/

namespace TraceSampler.Pattern

open Unicode

/-- A name as it is compared: without the letters `is` in front, and in small letters without
spaces, hyphens, underscores and what is not ASCII. A name that this would reduce to `c` keeps the
letters in front. -/
def plainName (s : List Char) : String :=
  let marked := match s with
    | i :: s :: _ => i.toLower == 'i' && s.toLower == 's'
    | _ => false
  let kept := (if marked then s.drop 2 else s).filter fun c =>
    c.toNat < 0x80 && c != ' ' && c != '-' && c != '_'
  let plain := String.ofList (kept.map Char.toLower)
  if marked && plain == "c" then "isc" else plain

/-- The property under a name that stands alone. Three names belong to categories instead. -/
def standaloneProperty? (name : String) : Option Property :=
  if name == "cf" || name == "sc" || name == "lc" then none else Property.named? name

/-- The set under a name that stands alone: of a property, a category or a script. -/
def namedSet? (name : List Char) : Option RangeSet :=
  let plain := plainName name
  match standaloneProperty? plain, Category.named? plain with
  | some property, _ => some property.set
  | none, some set => some set
  | none, none => (ScriptCode.named? plain).map ScriptCode.set

/-- The set of the characters whose property `key` has the given value. -/
def valuedSet? (key value : List Char) : Option RangeSet :=
  let plain := plainName value
  match plainName key with
  | "generalcategory" | "gc" => Category.named? plain
  | "script" | "sc" => (ScriptCode.named? plain).map ScriptCode.set
  | "scriptextensions" | "scx" => (ScriptCode.named? plain).map ScriptCode.extendedSet
  | "age" => (Age.named? plain).map Age.set
  | "graphemeclusterbreak" | "gcb" => (GraphemeBreak.named? plain).map GraphemeBreak.set
  | "wordbreak" | "wb" => (WordBreak.named? plain).map WordBreak.set
  | "sentencebreak" | "sb" => (SentenceBreak.named? plain).map SentenceBreak.set
  | _ => none

end TraceSampler.Pattern
