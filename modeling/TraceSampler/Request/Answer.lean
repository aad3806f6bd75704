import TraceSampler.Quota.Verdict
import TraceSampler.Request.Options

/-!
# The answer to trace options

A client that sent options is told what became of them: whether it was authenticated, whether it
got the trace it asked for, and which keys meant nothing. The answer travels in the trace state,
where neither an equals sign nor a comma may stand, so both are spelled out there.

* `eq_not_mem_sanitized`, `comma_not_mem_sanitized`: a sanitized text fits the trace state.
-/

namespace TraceSampler

/-- What became of a request for a trace. -/
inductive TriggerOutcome
  | ok
  | rateExceeded
  | tracingDisabled
  | triggerTracingDisabled
  | settingsNotAvailable
  /-- The trace goes on from elsewhere, so there was nothing to ask for. -/
  | ignored
  | notRequested
  deriving DecidableEq, Repr

namespace TriggerOutcome

def name : TriggerOutcome → String
  | .ok => "ok"
  | .rateExceeded => "rate-exceeded"
  | .tracingDisabled => "tracing-disabled"
  | .triggerTracingDisabled => "trigger-tracing-disabled"
  | .settingsNotAvailable => "settings-not-available"
  | .ignored => "ignored"
  | .notRequested => "not-requested"

/-- The outcome of a request for a trace. -/
def ofVerdict {α : Type} (v : Quota.Verdict α) (isNewTrace : Bool) : TriggerOutcome :=
  if !isNewTrace then .ignored
  else
    match v.config with
    | none => .settingsNotAvailable
    | some config =>
      if !config.trigger then .triggerTracingDisabled
      else if v.sampled then .ok
      else if v.exhausted then .rateExceeded
      else .tracingDisabled

end TriggerOutcome

structure OptionsAnswer where
  /-- What is said of the signature, if there is something to say. -/
  auth : Option String
  trigger : TriggerOutcome
  ignored : List String
  deriving DecidableEq, Repr

namespace OptionsAnswer

def authText? : AuthStatus → Option String
  | .notAuthenticated => none
  | .ok => some "ok"
  | .failure reason => some reason.reason

/-- The answer to the options of a request. -/
def of {α : Type} (o : TraceOptions) (v : Quota.Verdict α) (isNewTrace : Bool) : OptionsAnswer :=
  { auth := authText? o.auth
    trigger := if o.triggerTrace then .ofVerdict v isNewTrace else .notRequested
    ignored := o.ignored }

/-- The pairs of the answer in their order. -/
def pairs (a : OptionsAnswer) : List (String × String) :=
  (a.auth.map fun s => ("auth", s)).toList ++ [("trigger-trace", a.trigger.name)] ++
    if a.ignored.isEmpty then [] else [("ignored", Text.joinWith "," a.ignored)]

/-- The text of the answer: `key=value` pairs with semicolons between them. -/
def text (a : OptionsAnswer) : String :=
  Text.joinWith ";" (a.pairs.map fun (k, v) => k ++ "=" ++ v)

/-! ## Spelling out equals signs and commas -/

/-- An equals sign is spelled as four hash signs and a comma as four points. -/
def sanitizeChar (c : Char) : List Char :=
  if c = '=' then ['#', '#', '#', '#'] else if c = ',' then ['.', '.', '.', '.'] else [c]

/-- The text without equals signs and commas. -/
def sanitized (s : List Char) : List Char := s.flatMap sanitizeChar

def sanitize (s : String) : String := String.ofList (sanitized s.toList)

/-- Four hash signs read as an equals sign, and then four points as a comma. -/
def desanitized (s : List Char) : List Char :=
  Text.replace ['.', '.', '.', '.'] [','] (Text.replace ['#', '#', '#', '#'] ['='] s)

def desanitize (s : String) : String := String.ofList (desanitized s.toList)

theorem eq_not_mem_sanitized (s : List Char) : '=' ∉ sanitized s := by
  simp only [sanitized, List.mem_flatMap, not_exists, not_and]
  intro c _ h
  by_cases h1 : c = '='
  · simp [sanitizeChar, h1] at h
  · by_cases h2 : c = ','
    · simp [sanitizeChar, h2] at h
    · simp [sanitizeChar, h1, h2] at h
      exact h1 h.symm

theorem comma_not_mem_sanitized (s : List Char) : ',' ∉ sanitized s := by
  simp only [sanitized, List.mem_flatMap, not_exists, not_and]
  intro c _ h
  by_cases h1 : c = '='
  · simp [sanitizeChar, h1] at h
  · by_cases h2 : c = ','
    · simp [sanitizeChar, h2] at h
    · simp [sanitizeChar, h1, h2] at h
      exact h2 h.symm

end OptionsAnswer

end TraceSampler
