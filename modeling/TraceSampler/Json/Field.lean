import TraceSampler.Json.Value

/-!
# Fields of configured entries

The kinds of values that the entries of a configured list hold.
-/

namespace TraceSampler.Json

/-- A field that holds text or nothing. -/
def textField? : Tree → Option (Option String)
  | .null => some none
  | .text pieces => (textOf? pieces).map some
  | _ => none

/-- A text, which may not be absent. -/
def text? : Tree → Option String
  | .text pieces => textOf? pieces
  | _ => none

/-- A field that holds a list of texts or nothing. -/
def textsField? : Tree → Option (Option (List String))
  | .null => some none
  | .array items => (items.mapM text?).map some
  | _ => none

end TraceSampler.Json
