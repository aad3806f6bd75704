import TraceSampler.Log.Level
import TraceSampler.Text.Hex
import TraceSampler.Text.Integer
import TraceSampler.Text.Quoted

/-!
# Log records

A record is a message with its level and fields, written within the spans that are open around it.
Its line names the program, the level, every open span from the outermost in, and then the message.
-/

namespace TraceSampler.Log

/-- The value of a field of a record or a span. -/
inductive FieldValue
  | text (s : String)
  | whole (n : Int)
  | bool (b : Bool)
  deriving DecidableEq, Repr

def FieldValue.write : FieldValue → String
  | .text s => Text.Quoted.encode s
  | .whole n => Text.Integer.ofInt n
  | .bool b => if b then "true" else "false"

structure Field where
  name : String
  value : FieldValue
  deriving DecidableEq, Repr

def Field.write (f : Field) : String := f.name ++ "=" ++ f.value.write

structure Record where
  level : Level
  message : String
  fields : List Field := []
  deriving DecidableEq, Repr

/-- A stretch of work that records are written within. -/
structure Span where
  name : String
  fields : List Field := []
  deriving DecidableEq, Repr

namespace Record

def error (message : String) : Record := { level := .error, message }

def warn (message : String) : Record := { level := .warn, message }

def info (message : String) : Record := { level := .info, message }

def debug (message : String) : Record := { level := .debug, message }

def trace (message : String) : Record := { level := .trace, message }

end Record

/-- The name of the program at the start of every line. -/
def programName : String := "SW_SAMPLER"

/-- A character of a message. The controls that a terminal obeys are written as escapes, so that a
message cannot take over the terminal that shows it. -/
def guardChar (c : Char) : List Char :=
  let n := c.toNat
  if n == 0x1B || n == 0x07 || n == 0x08 || n == 0x0C || n == 0x7F then
    '\\' :: 'x' :: Text.Hex.fixed 2 n
  else if 0x80 ≤ n && n ≤ 0x9F then ['\\', 'u', '\x7b'] ++ Text.Hex.plain n ++ ['\x7d']
  else [c]

def guarded (message : String) : String := String.ofList (message.toList.flatMap guardChar)

/-- A span as it stands before the message. -/
def Span.write (s : Span) : String :=
  let fields := if s.fields.isEmpty then "" else
    "\x7b" ++ Text.joinWith " " (s.fields.map Field.write) ++ "\x7d"
  s.name ++ fields ++ ": "

/-- The line of a record within the open spans, outermost first. -/
def Record.lineWithin (spans : List Span) (r : Record) : String :=
  programName ++ " | " ++ r.level.name ++ " | " ++ String.join (spans.map Span.write) ++
    Text.joinWith " " (guarded r.message :: r.fields.map Field.write)

/-- The line of a record outside all spans. -/
def Record.line (r : Record) : String := r.lineWithin []

/-- The names of the fields of a record; its message is one of them. -/
def Record.fieldNames (r : Record) : List String := "message" :: r.fields.map Field.name

/-- The records up to a level. -/
def upTo (most : Level) (records : List Record) : List Record :=
  records.filter fun r => r.level.passes most

end TraceSampler.Log
