import TraceSampler.Pattern.Match
import TraceSampler.Pattern.Reader
import TraceSampler.Pattern.Size

/-!
# Patterns

A pattern is a regular expression that is searched for anywhere in a text, without regard to case.
-/

namespace TraceSampler

/-- A pattern that follows the syntax and is not too large, with the expression it denotes. -/
structure Pattern where
  source : String
  expression : Pattern.Expression

namespace Pattern

/-- Reads a pattern; none if it does not follow the syntax or is too large. -/
def compile? (source : String) : Option Pattern :=
  match readExpression? { ignoreCase := true } source.toList with
  | some e => if e.fits then some ⟨source, e⟩ else none
  | none => none

/-- Some part of the text matches. -/
def isMatch (p : Pattern) (text : String) : Bool := p.expression.isMatch text.toList

/-- The text follows the syntax, read with regard to case, and never asks where words of all scripts
start or end. Its size does not count. -/
def isWordFree (source : String) : Bool :=
  match readExpression? {} source.toList with
  | some e => !e.anyLook Look.asksForWords
  | none => false

end Pattern

end TraceSampler
