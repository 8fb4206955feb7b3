import EduStell.Savings.Ledger
import EduStell.Savings.Solvency
import EduStell.Savings.Overcommit
import EduStell.Savings.Idempotence
import EduStell.Savings.Duplicates
import EduStell.Chain.Reconciliation
import EduStell.Scholarships.Repeats
import EduStell.Scholarships.StaleBalance
import EduStell.Scholarships.Links
import EduStell.Scholarships.Decisions
import EduStell.Scholarships.Funding
import EduStell.Auth.Rotation
import EduStell.Auth.Sessions
import EduStell.Trail.History
import EduStell.Integrity.Rows
import EduStell.Integrity.Restrictions
import EduStell.Savings.Release
import EduStell.Savings.Overflow
import EduStell.Integrity.Deadlock
import EduStell.Savings.Versions
import EduStell.Auth.Kinds
import EduStell.Chain.Terminal
import EduStell.Credentials.Attestation
import EduStell.Api.Pagination
import EduStell.Api.RateLimit
import EduStell.Chain.Preview
import EduStell.Notifications.Repeats
import EduStell.Notifications.Truthful
import EduStell.Notifications.OptOut
import EduStell.Records.AllOrNothing
import EduStell.Integrity.Linearizable
import EduStell.Integrity.Progress
import EduStell.Integrity.Authority
import EduStell.Auth.EmailVerification
import EduStell.Auth.Verified
import EduStell.Auth.Access
import EduStell.Http.Traced
