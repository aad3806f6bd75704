import TraceSampler.Json.Value
import TraceSampler.Log.Record

/-!
# Log levels in JSON

A level may be configured as a JSON string. What is no string, or a string that names no level,
gives the standard level, and a complaint.
-/

namespace TraceSampler.Log.Level

def ofValue (v : Json.Value) : Level :=
  match v with
  | .text s => (ofText? s).getD standard
  | _ => standard

/-- The complaint about a value that is no level. -/
def valueLog (v : Json.Value) : List Record :=
  match v with
  | .text s => if (ofText? s).isSome then [] else [.error (invalidMessage s)]
  | v => [.error ("Expected a string for log level, got " ++ v.inspect)]

/-- The value at the front of a text, and whether something stands behind it. -/
def firstValue? (text : String) : Option (Json.Value × Bool) :=
  match Json.Tree.readFirst? text with
  | some (t, more) => (t.denote? Json.nestingLimit).map fun v => (v, more)
  | none => none

/-- The level of a text that holds one JSON value and nothing else. -/
def ofJson? (text : String) : Option Level :=
  match firstValue? text with
  | some (v, false) => some (ofValue v)
  | _ => none

/-- What is logged while a level is read. The value is looked at before what stands behind it. -/
def jsonLog (text : String) : List Record :=
  match firstValue? text with
  | some (v, _) => valueLog v
  | none => []

end TraceSampler.Log.Level
