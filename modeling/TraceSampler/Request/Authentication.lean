import TraceSampler.Text.Basic

/-!
# Authentication of trace options

Options may come with a signature. Whether it proves who the client is, a verifier decides; what
it found is part of the options from then on.
-/

namespace TraceSampler

/-- Why a signature proves nothing. -/
inductive AuthFailure
  | badSignature
  | badTimestamp
  | noSignatureKey
  deriving DecidableEq, Repr

def AuthFailure.reason : AuthFailure → String
  | .badSignature => "bad-signature"
  | .badTimestamp => "bad-timestamp"
  | .noSignatureKey => "no-signature-key"

/-- The name of a failure in log lines. -/
def AuthFailure.label : AuthFailure → String
  | .badSignature => "BadSignature"
  | .badTimestamp => "BadTimestamp"
  | .noSignatureKey => "NoSignatureKey"

inductive AuthStatus
  | notAuthenticated
  | ok
  | failure (reason : AuthFailure)
  deriving DecidableEq, Repr, Inhabited

/-- The name of a status in log lines. -/
def AuthStatus.label : AuthStatus → String
  | .notAuthenticated => "NotAuthenticated"
  | .ok => "Ok"
  | .failure reason => "Failure(" ++ reason.label ++ ")"

/-- What a verifier is asked about: the options as they came, the signature, and the time that the
options name. -/
structure AuthQuestion where
  options : String
  signature : Option String
  timestamp : Option Int
  deriving DecidableEq, Repr

abbrev Verifier := AuthQuestion → AuthStatus

/-- Takes every signature that is not blank for a proof. -/
def Verifier.presence : Verifier := fun q =>
  match q.signature with
  | some s => if Text.isBlankText s then .notAuthenticated else .ok
  | none => .notAuthenticated

end TraceSampler
