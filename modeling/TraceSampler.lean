import TraceSampler.Configuration
import TraceSampler.Decimal.Reader
import TraceSampler.Header.Reply
import TraceSampler.Log.Filter
import TraceSampler.Log.LevelValue
import TraceSampler.Sampling.Engine
import TraceSampler.Proofs.Text.Hex
import TraceSampler.Proofs.Header.Grammar
import TraceSampler.Proofs.Header.Identity
import TraceSampler.Proofs.Header.Inbound
import TraceSampler.Proofs.Request.Meaning
import TraceSampler.Proofs.Header.Survivors
import TraceSampler.Proofs.Header.Hops
import TraceSampler.Proofs.Header.Carrier
import TraceSampler.Proofs.Header.TraceParent
import TraceSampler.Proofs.Header.Exchange
import TraceSampler.Proofs.Request.Answer
import TraceSampler.Proofs.Records
import TraceSampler.Proofs.Quota.Decide
import TraceSampler.Proofs.Quota.Continued
import TraceSampler.Proofs.Quota.Isolation
import TraceSampler.Proofs.Quota.Draws
import TraceSampler.Proofs.Quota.RateBound
import TraceSampler.Proofs.Transaction.NameLimit
import TraceSampler.Proofs.Transaction.PathNames
import TraceSampler.Proofs.Request.Options
import TraceSampler.Proofs.Sampling.Origin
import TraceSampler.Proofs.Sampling.Attributes
import TraceSampler.Proofs.Sampling.Fallback
import TraceSampler.Proofs.Sampling.Continued
import TraceSampler.Proofs.Sampling.ClientOptions
import TraceSampler.Proofs.Request.Spelling
import TraceSampler.Proofs.Header.Reply
import TraceSampler.Proofs.Quota.Conditions
import TraceSampler.Proofs.Sampling.Reply
import TraceSampler.Proofs.Quota.Charges
import TraceSampler.Proofs.Sampling.Outcome
import TraceSampler.Proofs.Quota.Enabled
import TraceSampler.Proofs.Sampling.ParentFlag
import TraceSampler.Proofs.Sampling.Completeness
import TraceSampler.Proofs.ExpiringCache.Recency
import TraceSampler.Proofs.Transaction.CustomNames
import TraceSampler.Proofs.Transaction.LimitFeed
import TraceSampler.Proofs.Transaction.LimitFlag
import TraceSampler.Proofs.Transaction.PlainNames
import TraceSampler.Proofs.Transaction.PathSegments
import TraceSampler.Proofs.TransactionSettings
import TraceSampler.Proofs.Header.Twins
import TraceSampler.Proofs.ExpiringCache.History
import TraceSampler.Proofs.Header.OrderedMap
import TraceSampler.Proofs.Quota.ParentText
import TraceSampler.Proofs.Transaction.SchemeEntries
