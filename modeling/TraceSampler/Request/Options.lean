import TraceSampler.Log.Record
import TraceSampler.Request.Authentication
import TraceSampler.Request.Kind

/-!
# Trace options

What a client may ask for in the header `X-Trace-Options`: tokens with semicolons between them, each
a key or a key with a value. A client can ask for a trace, name keys of its own and pass on
attributes; keys that mean nothing are remembered, so that the answer can name them.
-/

namespace TraceSampler

structure TraceOptions where
  triggerTrace : Bool := false
  swKeys : Option String := none
  /-- Attributes under distinct keys, in the order of the header. -/
  custom : List (String × String) := []
  timestamp : Option Int := none
  /-- Keys that mean nothing, in the order of the header. -/
  ignored : List String := []
  auth : AuthStatus := .notAuthenticated
  deriving DecidableEq, Repr

namespace TraceOptions

/-- One token of the header. -/
structure Token where
  key : String
  value : Option String
  deriving DecidableEq, Repr

/-- Reads a token: a key, with a value behind the first equals sign. A blank token is none. -/
def Token.read? (s : List Char) : Option Token :=
  let token := Text.trim s
  if token.isEmpty then none
  else
    match Text.splitFirst? '=' token with
    | some (k, v) => some ⟨String.ofList (Text.trim k), some (String.ofList (Text.trim v))⟩
    | none => some ⟨String.ofList token, none⟩

/-- The tokens of a header. -/
def tokens (header : String) : List Token :=
  (Text.split ';' header.toList).filterMap Token.read?

/-- How the keys of attributes start. -/
def customStart : List Char := ['c', 'u', 's', 't', 'o', 'm', '-']

/-- A key of an attribute: a name without blank characters behind `custom-`. -/
def isCustomKey (key : String) : Bool :=
  let s := key.toList
  let name := s.drop customStart.length
  customStart.isPrefixOf s && !name.isEmpty && !name.any Text.isBlank

/-- What a token asks for. -/
inductive Meaning
  | triggerTrace
  | swKeys (value : String)
  | timestamp (n : Int)
  | custom (key value : String)
  | unknown (key : String)
  deriving DecidableEq, Repr

def Token.meaning (t : Token) : Meaning :=
  match t.value with
  | none => if t.key = "trigger-trace" then .triggerTrace else .unknown t.key
  | some value =>
    if t.key = "sw-keys" then .swKeys value
    else if t.key = "ts" then
      match Text.Integer.readSigned64? value.toList with
      | some n => .timestamp n
      | none => .unknown t.key
    else if isCustomKey t.key then .custom t.key value
    else .unknown t.key

/-- The options with one more token. The first value of `sw-keys` and of each attribute counts, and
the last time. -/
def apply (o : TraceOptions) (t : Token) : TraceOptions :=
  match t.meaning with
  | .triggerTrace => { o with triggerTrace := true }
  | .swKeys value => { o with swKeys := some (o.swKeys.getD value) }
  | .timestamp n => { o with timestamp := some n }
  | .custom key value =>
    if o.custom.any (·.1 == key) then o else { o with custom := o.custom ++ [(key, value)] }
  | .unknown key => if key.isEmpty then o else { o with ignored := o.ignored ++ [key] }

/-- The options of a header that was not authenticated yet. -/
def ofTokens (ts : List Token) : TraceOptions := ts.foldl apply {}

/-- The question that the options of a header put to a verifier. -/
def question (header : String) (signature : Option String) : AuthQuestion :=
  ⟨header, signature, (ofTokens (tokens header)).timestamp⟩

/-- Reads the options of a request. An absent or blank header asks for nothing. -/
def read? (verify : Verifier) (header signature : Option String) : Option TraceOptions :=
  match header with
  | none => none
  | some h =>
    if Text.isBlankText h then none
    else some { ofTokens (tokens h) with auth := verify (question h signature) }

/-- The kind of request that the options make. A signature that fails does not reject the request;
it counts as one without proof. -/
def requestKind (o : TraceOptions) : RequestKind :=
  if !o.triggerTrace then .regular
  else if o.auth = .ok then .authenticatedTrigger
  else .unauthenticatedTrigger

/-- What is logged of options that were read. -/
def log (o : TraceOptions) : Log.Record :=
  .trace ("Parsed X-Trace-Options trigger_trace=" ++ (if o.triggerTrace then "true" else "false") ++
    " auth=" ++ o.auth.label ++ " ignored=" ++ Text.Quoted.encodeList o.ignored)

end TraceOptions

end TraceSampler
