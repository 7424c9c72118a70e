import VisitorLink.Main
import VisitorLink.Rehearsal.Cast
import VisitorLink.Visit.Interleaving
import VisitorLink.Proofs.Course.LateAnswers
import VisitorLink.Proofs.Course.Submissions
import VisitorLink.Proofs.Course.VerifyingFlag
import VisitorLink.Proofs.Course.VerifiedFlag
import VisitorLink.Proofs.Course.Attempts
import VisitorLink.Proofs.Course.OneVerification
import VisitorLink.Proofs.Course.Failures
import VisitorLink.Proofs.Course.PendingLogin
import VisitorLink.Proofs.Course.Signatures
import VisitorLink.Proofs.Course.Vouching
import VisitorLink.Proofs.Course.StoredId
import VisitorLink.Proofs.Course.OneConnection
import VisitorLink.Proofs.Course.LateAccounts
import VisitorLink.Proofs.Course.Swaps
import VisitorLink.Proofs.Course.Heartbeats
import VisitorLink.Proofs.Course.SessionEnds
import VisitorLink.Proofs.Course.SessionTrace
import VisitorLink.Proofs.Course.Addresses
import VisitorLink.Proofs.Course.Bootstraps
import VisitorLink.Proofs.Course.Independence
import VisitorLink.Proofs.Course.Replies
import VisitorLink.Proofs.Visitor.Damage
import VisitorLink.Proofs.Exchange.Extensions
import VisitorLink.Proofs.Service.Refusals
import VisitorLink.Proofs.Service.Routes
import VisitorLink.Proofs.Settings.Sources
import VisitorLink.Proofs.Storage.Unreadable
import VisitorLink.Proofs.Visit.Hydration
import VisitorLink.Proofs.Course.Polling
import VisitorLink.Proofs.Course.Routes
import VisitorLink.Proofs.Course.StaleMessages
import VisitorLink.Proofs.Course.Schedule
import VisitorLink.Proofs.Course.Deadlines
import VisitorLink.Proofs.Course.Referrers
import VisitorLink.Proofs.Settings.Variables
import VisitorLink.Proofs.Visitor.Grammar
import VisitorLink.Proofs.Wallet.Local
