import RelyingParty.Instant
import RelyingParty.Provider.Client
import RelyingParty.Script
import RelyingParty.Proofs.Cache.Abandonment
import RelyingParty.Proofs.Cache.Eviction
import RelyingParty.Proofs.Json.Numeral
import RelyingParty.Proofs.Json.Reading
import RelyingParty.Proofs.Provider.Fetching
import RelyingParty.Proofs.Provider.RoundTrip
import RelyingParty.Proofs.Provider.SizeLimit
import RelyingParty.Proofs.Run.Ahead
import RelyingParty.Proofs.Run.Counting
import RelyingParty.Proofs.Run.Handover
import RelyingParty.Proofs.Run.Isolation
import RelyingParty.Proofs.Settings.Documents
import RelyingParty.Proofs.Token.Canonical
import RelyingParty.Proofs.Token.Screening
import RelyingParty.Proofs.Token.Segments
import RelyingParty.Proofs.Token.Signing
import RelyingParty.Proofs.Token.SingleKey
import RelyingParty.Proofs.Validation.Acceptance
import RelyingParty.Proofs.Validation.Audiences
import RelyingParty.Proofs.Validation.Demands
import RelyingParty.Proofs.Validation.Malformed
import RelyingParty.Proofs.Validation.Metering
import RelyingParty.Proofs.Validation.Outage
import RelyingParty.Proofs.Validation.RateLimit
import RelyingParty.Proofs.Validation.Relaxation
import RelyingParty.Proofs.Validation.Timeliness
import RelyingParty.Proofs.Validation.Transparency
import RelyingParty.Proofs.Validation.Undisturbed
import RelyingParty.Proofs.Validation.Verdict
