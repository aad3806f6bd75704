import TraceSampler.Log.Record

/-!
# Transaction names

A transaction name is reported in a plain form: at most 255 characters, all of them small letters,
digits and a few signs, and never empty.
-/

namespace TraceSampler.Transaction

/-- The most characters of a name. -/
def maxLength : Nat := 255

/-- The end of a name that was cut. -/
def ellipsis : List Char := ['.', '.', '.']

/-- The name of all transactions beyond the limit of names. -/
def overLimitName : String := "other"

/-- The name of a transaction that offers nothing to name it by. -/
def unknownName : String := "unknown"

/-- The characters that a name may hold. -/
def isNameChar (c : Char) : Bool :=
  c.isAlphanum || c == '-' || c == '.' || c == ':' || c == '_' || c == '\\' || c == '/' ||
    c == '?' || c == ' '

/-- A name of the greatest length or shorter; a longer one ends in an ellipsis, and an empty one is
a space. -/
def truncated (s : List Char) : List Char :=
  if s.length > maxLength then s.take (maxLength - ellipsis.length) ++ ellipsis
  else if s.isEmpty then [' ']
  else s

/-- The plain form of one character. -/
def plainChar (c : Char) : Char := if isNameChar c then c.toLower else '_'

/-- The plain form of a name. -/
def normalize (s : String) : String := String.ofList ((truncated s.toList).map plainChar)

/-- What is logged when a name is brought into its plain form. -/
def normalizeLog (s : String) : List Log.Record :=
  if s.toList.length > maxLength then
    [.debug ("Transaction name " ++ s ++ " truncated to " ++ String.ofList (truncated s.toList))]
  else []

end TraceSampler.Transaction
