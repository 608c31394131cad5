import CampusConnect.Base.Decimals
import CampusConnect.Base.FirstFree
import CampusConnect.Base.Instalments
import CampusConnect.Base.SlidingWindow
import CampusConnect.Base.Tally
import CampusConnect.Base.Words
import CampusConnect.Concurrency.Cancelling
import CampusConnect.Concurrency.Closing
import CampusConnect.Concurrency.Editing
import CampusConnect.Concurrency.LineItems
import CampusConnect.Concurrency.Payments
import CampusConnect.Concurrency.Rotation
import CampusConnect.Guarantees.Accounting
import CampusConnect.Guarantees.Advances
import CampusConnect.Guarantees.Authority
import CampusConnect.Guarantees.Balance
import CampusConnect.Guarantees.Bills
import CampusConnect.Guarantees.Booking
import CampusConnect.Guarantees.Canonical
import CampusConnect.Guarantees.Clearing
import CampusConnect.Guarantees.Closure
import CampusConnect.Guarantees.Duties
import CampusConnect.Guarantees.Evidence
import CampusConnect.Guarantees.Exit
import CampusConnect.Guarantees.Expenses
import CampusConnect.Guarantees.Frozen
import CampusConnect.Guarantees.Halls
import CampusConnect.Guarantees.Idempotence
import CampusConnect.Guarantees.Invoices
import CampusConnect.Guarantees.Ledger
import CampusConnect.Guarantees.Lockout
import CampusConnect.Guarantees.Pending
import CampusConnect.Guarantees.Queue
import CampusConnect.Guarantees.RateLimit
import CampusConnect.Guarantees.Recovery
import CampusConnect.Guarantees.Release
import CampusConnect.Guarantees.Resettlement
import CampusConnect.Guarantees.Resolution
import CampusConnect.Guarantees.Revisions
import CampusConnect.Guarantees.Sanction
import CampusConnect.Guarantees.Sequencing
import CampusConnect.Guarantees.Slugs
import CampusConnect.Guarantees.Stages
import CampusConnect.Guarantees.Staleness
import CampusConnect.Guarantees.Stamps
import CampusConnect.Guarantees.Summary
import CampusConnect.Guarantees.Trail
import CampusConnect.Guarantees.VenuePolicy
import CampusConnect.Services.Clubs
import CampusConnect.Services.Documents
import CampusConnect.Services.LedgerSummary
import CampusConnect.Services.Login
import CampusConnect.Services.Payload
import CampusConnect.Services.RateLimiter
import CampusConnect.Services.Tokens
import CampusConnect.Base.Delegation
import CampusConnect.Guarantees.Roster
import CampusConnect.Campus
import CampusConnect.Guarantees.Calendar
import CampusConnect.Guarantees.Secretaries
import CampusConnect.Accounts
import CampusConnect.Guarantees.Credentials
import CampusConnect.Guarantees.Access
import CampusConnect.Guarantees.Completion
import CampusConnect.Guarantees.Inbox
import CampusConnect.Guarantees.Notices
import CampusConnect.Base.Files
import CampusConnect.Services.Storage
import CampusConnect.Guarantees.Filing
import CampusConnect.Api
import CampusConnect.Guarantees.Endpoints
import CampusConnect.Guarantees.Separation
import CampusConnect.Browsers
import CampusConnect.Guarantees.Browsers
import CampusConnect.Guarantees.Dashboard
import CampusConnect.Objects
