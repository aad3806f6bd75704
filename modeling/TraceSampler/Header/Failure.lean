/-!
# Failures on headers

A header that cannot be taken from a carrier, or not be put into one, and why.
-/

namespace TraceSampler

/-- Which way a header was to go. -/
inductive HeaderOperation
  | extract
  | inject
  deriving DecidableEq, Repr

def HeaderOperation.verb : HeaderOperation → String
  | .extract => "extract"
  | .inject => "inject"

structure HeaderFailure where
  operation : HeaderOperation
  header : String
  reason : String
  deriving DecidableEq, Repr

def HeaderFailure.message (f : HeaderFailure) : String :=
  "Cannot " ++ f.operation.verb ++ " " ++ f.header ++ ": " ++ f.reason

end TraceSampler
