import TraceSampler.Text.Basic
import TraceSampler.Text.Integer

/-!
# Names from URL paths

A path names a transaction by some of its segments. Which ones, a pattern of tokens `p1`, `p2`, …
says; without a pattern, or where it selects nothing, the first two are taken.
-/

namespace TraceSampler.Transaction

/-- The segments of a path: what stands between its slashes and is not empty. -/
def segments (path : String) : List String :=
  ((Text.split '/' path.toList).filter fun s => !s.isEmpty).map String.ofList

/-- The segment that a token selects, counted from one. -/
def selectSegment? (segments : List String) (token : String) : Option String :=
  match token.toList with
  | 'p' :: digits =>
    match Text.Integer.readUnsigned64? digits with
    | some (n + 1) => segments[n]?
    | _ => none
  | _ => none

/-- The tokens of a pattern, with commas between them. -/
def readPattern (s : String) : List String :=
  (Text.split ',' s.toList).map fun token => String.ofList (Text.trim token)

/-- The segments that a pattern selects, with points between them. -/
def nameByPattern (pattern : List String) (segments : List String) : String :=
  Text.joinWith "." (pattern.filterMap (selectSegment? segments))

/-- The first two segments, each behind a slash. -/
def nameByDefault (segments : List String) : String :=
  "/" ++ Text.joinWith "/" (segments.take 2)

/-- The name of a path under a pattern, if there is one. -/
def nameOfPath (pattern : Option (List String)) (path : String) : String :=
  let parts := segments path
  let custom := (pattern.map fun p => nameByPattern p parts).getD ""
  if custom.isEmpty then nameByDefault parts else custom

end TraceSampler.Transaction
