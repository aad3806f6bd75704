import TraceSampler.Text.Basic
import TraceSampler.Text.Hex
import TraceSampler.Unicode.CharacterClass

/-!
# Quoted text

How a value read from outside stands in a log line: between double quotes, with an escape for
every character that would end the quotes or that a reader could not see on its own.
-/

namespace TraceSampler.Text.Quoted

open Unicode

/-- Letters that show nothing. -/
def fillers : RangeSet := .ofRows ["115f-1160 3164 ffa0"]

/-- Signs that belong to the letter before them and are still as wide as a letter. -/
def wideSigns : RangeSet := .ofRows ["ff9e-ff9f"]

/-- A reader can see the character on its own. -/
def isShown (c : Char) : Bool :=
  match categoryOf .seventeen c with
  | .cc | .cf | .cs | .co | .cn | .zl | .zp => false
  | .zs => c == ' '
  | _ =>
    !fillers.contains c &&
      (wideSigns.contains c || !CharacterClass.graphemeExtend.contains .seventeen c)

/-- The escape of a character, or the character itself. -/
def escape (c : Char) : List Char :=
  if c == '\x00' then ['\\', '0']
  else if c == '\t' then ['\\', 't']
  else if c == '\r' then ['\\', 'r']
  else if c == '\n' then ['\\', 'n']
  else if c == '\\' then ['\\', '\\']
  else if c == '"' then ['\\', '"']
  else if isShown c then [c]
  else ['\\', 'u', '\x7b'] ++ Hex.plain c.toNat ++ ['\x7d']

/-- The text between quotes. -/
def encode (s : String) : String :=
  String.ofList ('"' :: s.toList.flatMap escape ++ ['"'])

/-- A list of quoted texts between brackets. -/
def encodeList (items : List String) : String :=
  "[" ++ joinWith ", " (items.map encode) ++ "]"

end TraceSampler.Text.Quoted
