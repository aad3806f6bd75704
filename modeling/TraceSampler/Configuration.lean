import TraceSampler.Quota.Policy
import TraceSampler.Transaction.Namer

/-!
# Configuration from the environment

The sampler is configured by environment variables. A value that does not make sense is left out of
account, with a warning; it never stops the process that is being traced.
-/

namespace TraceSampler

/-- The variables that the sampler reads. -/
inductive Variable
  | debugLevel
  | namePattern
  | domainPrefixed
  | nameSchemes
  | transactionSettings
  | tracingMode
  | triggerTrace
  deriving DecidableEq, Repr

def Variable.name : Variable → String
  | .debugLevel => "SW_APM_DEBUG_LEVEL"
  | .namePattern => "SW_APM_TRANSACTION_NAME_PATTERN"
  | .domainPrefixed => "SW_APM_DOMAIN_PREFIXED_TRANSACTION_NAME"
  | .nameSchemes => "SW_APM_TRANSACTION_NAME_SCHEMES"
  | .transactionSettings => "SW_APM_TRANSACTION_SETTINGS"
  | .tracingMode => "SW_APM_TRACING_MODE"
  | .triggerTrace => "SW_APM_TRIGGER_TRACE"

/-- What is wrong with the value of a variable. -/
inductive ConfigurationError
  | badLevel (value : String)
  | notJson (v : Variable)
  | badPattern (v : Variable)
  | badValue (v : Variable) (value : String)
  deriving DecidableEq, Repr

def ConfigurationError.message : ConfigurationError → String
  | .badLevel value => Variable.debugLevel.name ++ ": " ++ Log.Level.invalidMessage value
  | .notJson v => v.name ++ " is not valid JSON"
  | .badPattern v => v.name ++ " has an invalid regex"
  | .badValue v value => v.name ++ " has an invalid value " ++ Text.Quoted.encode value

/-- The switches that turn tracing on and off, in any case of the ASCII letters. -/
def readMode (v : Variable) (value : String) : Except ConfigurationError Bool :=
  match String.ofList (Text.asciiLower (Text.trim value.toList)) with
  | "enabled" | "always" => .ok true
  | "disabled" | "never" => .ok false
  | _ => .error (.badValue v value)

/-- The truth value of a text; what is no truth value counts as `otherwise`. -/
def readTruth (value : Option String) (otherwise : Bool) : Bool :=
  match value.map fun s => String.ofList (Text.asciiLower (Text.trim s.toList)) with
  | some "1" | some "true" | some "t" | some "yes" | some "y" => true
  | some "0" | some "false" | some "f" | some "no" | some "n" => false
  | _ => otherwise

/-! ## Transaction settings -/

/-- An entry of the transaction settings: which requests it is about, and the mode for them. -/
structure TransactionSetting where
  regex : Option String := none
  tracing : Option String := none
  deriving DecidableEq, Repr

namespace TransactionSetting

/-- A field as it stands in a warning. -/
def inspectField (value : Option String) : String :=
  match value with
  | some s => "Some(" ++ Text.Quoted.encode s ++ ")"
  | none => "None"

/-- The entry as it stands in a warning. -/
def inspect (s : TransactionSetting) : String :=
  "TransactionSetting \x7b regex: " ++ inspectField s.regex ++ ", tracing: " ++
    inspectField s.tracing ++ " \x7d"

/-- The rule that an entry makes. -/
def rule (s : TransactionSetting) : Except ConfigurationError Quota.ResourceRule :=
  match s.regex, s.tracing with
  | some pattern, some tracing =>
    match readMode .transactionSettings tracing with
    | .error e => .error e
    | .ok enabled =>
      match Quota.ResourceRule.ofPattern? pattern enabled with
      | some rule => .ok rule
      | none => .error (.badPattern .transactionSettings)
  | _, _ => .error (.badValue .transactionSettings s.inspect)

/-- The rules of the entries that make one, in their order. -/
def rules (entries : List TransactionSetting) : List Quota.ResourceRule :=
  entries.filterMap fun s => s.rule.toOption

/-- What is logged of the entries that make no rule. -/
def rulesLog (entries : List TransactionSetting) : List Log.Record :=
  entries.filterMap fun s =>
    match s.rule with
    | .ok _ => none
    | .error e => some (.warn ("Skipping transaction setting: " ++ e.message))

/-- The fields of an entry that were met so far. -/
structure EntryFields where
  regex : Option (Option String) := none
  tracing : Option (Option String) := none

/-- One more field of an entry. Each may come once, and there are no others. -/
def EntryFields.add? (f : EntryFields) (m : List Json.Piece × Json.Tree) : Option EntryFields :=
  match Json.textOf? m.1 with
  | some "regex" =>
    if f.regex.isSome then none
    else (Json.textField? m.2).map fun v => { f with regex := some v }
  | some "tracing" =>
    if f.tracing.isSome then none
    else (Json.textField? m.2).map fun v => { f with tracing := some v }
  | _ => none

/-- Reads an entry: an object, or an array of its two fields in their order. -/
def settingOfTree? : Json.Tree → Option TransactionSetting
  | .object members =>
    (members.foldlM EntryFields.add? {}).map fun f => ⟨f.regex.join, f.tracing.join⟩
  | .array [regex, tracing] =>
    match Json.textField? regex, Json.textField? tracing with
    | some r, some t => some ⟨r, t⟩
    | _, _ => none
  | _ => none

/-- Reads the list of transaction settings. -/
def readEntries? (json : String) : Option (List TransactionSetting) :=
  match Json.Tree.read? json with
  | some (.array items) => items.mapM settingOfTree?
  | _ => none

end TransactionSetting

/-! ## The configuration -/

structure Configuration where
  level : Log.Level := .standard
  namePattern : Option (List String) := none
  domainPrefixed : Bool := false
  schemes : Transaction.SchemeChain := {}
  rules : List Quota.ResourceRule := []
  tracing : Option Bool := none
  trigger : Option Bool := none

/-- Environment variables with their values. Of two of one name the later counts. -/
abbrev Environment := List (String × String)

namespace Environment

def raw? (e : Environment) (v : Variable) : Option String := e.reverse.lookup v.name

/-- The trimmed value of a variable, unless it is blank. -/
def get? (e : Environment) (v : Variable) : Option String :=
  ((e.raw? v).map Text.strip).filter fun s => !s.isEmpty

/-- The switch in a variable. -/
def mode? (e : Environment) (v : Variable) : Option Bool :=
  (e.get? v).bind fun s => (readMode v s).toOption

/-- The warning about a switch. -/
def modeLog (e : Environment) (v : Variable) : List Log.Record :=
  match (e.get? v).map (readMode v) with
  | some (.error problem) => [.warn problem.message]
  | _ => []

end Environment

namespace Configuration

/-- Reads the configuration. -/
def ofEnvironment (e : Environment) : Configuration :=
  let entries := (e.get? .nameSchemes).bind Transaction.SchemeChain.readEntries?
  let settings := (e.get? .transactionSettings).bind TransactionSetting.readEntries?
  { level := ((e.get? .debugLevel).bind Log.Level.ofText?).getD .standard
    namePattern := (e.get? .namePattern).map Transaction.readPattern
    domainPrefixed := readTruth (e.raw? .domainPrefixed) false
    schemes := (entries.map Transaction.SchemeChain.ofEntries).getD {}
    rules := (settings.map TransactionSetting.rules).getD []
    tracing := e.mode? .tracingMode
    trigger := e.mode? .triggerTrace }

/-- The complaint about a level. -/
def levelLog (e : Environment) : List Log.Record :=
  match e.get? .debugLevel with
  | some s =>
    if (Log.Level.ofText? s).isSome then [] else [.warn (ConfigurationError.badLevel s).message]
  | none => []

/-- What is logged of a list in a variable: that it is no JSON, or what its entries give rise to. -/
def listLog {α : Type} (e : Environment) (v : Variable) (read? : String → Option (List α))
    (entriesLog : List α → List Log.Record) : List Log.Record :=
  match (e.get? v).map read? with
  | none => []
  | some none => [.warn (ConfigurationError.notJson v).message]
  | some (some entries) => entriesLog entries

/-- What is logged while the configuration is read. -/
def log (e : Environment) : List Log.Record :=
  let c := ofEnvironment e
  levelLog e ++
    listLog e .nameSchemes Transaction.SchemeChain.readEntries?
      Transaction.SchemeChain.entriesLog ++
    listLog e .transactionSettings TransactionSetting.readEntries? TransactionSetting.rulesLog ++
    e.modeLog .tracingMode ++ e.modeLog .triggerTrace ++
    [.debug ("Sampler configuration: log level " ++ c.level.name ++ ", " ++
      Text.Integer.ofNat c.schemes.schemes.length ++ " naming schemes, " ++
      Text.Integer.ofNat c.rules.length ++ " transaction settings")]

/-- How transactions are named under the configuration. -/
def naming (c : Configuration) : Transaction.NamingConfig :=
  { pattern := c.namePattern, domainPrefixed := c.domainPrefixed, schemes := c.schemes }

/-- The local policy of the configuration. -/
def policy (c : Configuration) : Quota.Policy :=
  { tracing := c.tracing, trigger := c.trigger, resources := c.rules }

end Configuration

end TraceSampler
