import CodestraMiddleware.AgentRealtime.Socket
import CodestraMiddleware.AiJobs.Admission
import CodestraMiddleware.AiJobs.AttemptLedger
import CodestraMiddleware.AiJobs.Cancellation
import CodestraMiddleware.AiJobs.DeadLetters
import CodestraMiddleware.AiJobs.QueueQuota
import CodestraMiddleware.AiJobs.Stream
import CodestraMiddleware.AiJobs.WorkerAuth
import CodestraMiddleware.Booking.Repository
import CodestraMiddleware.Callbacks.Assignment
import CodestraMiddleware.Callbacks.Drain
import CodestraMiddleware.Callbacks.Recipients
import CodestraMiddleware.Callbacks.Reminders
import CodestraMiddleware.Callbacks.SchedulerKeys
import CodestraMiddleware.Calls.Lifecycle
import CodestraMiddleware.ClickToCall.Ceiling
import CodestraMiddleware.ClickToCall.Origination
import CodestraMiddleware.Controller.Tokens
import CodestraMiddleware.Email.Cases
import CodestraMiddleware.LeadAutomation.Atomicity
import CodestraMiddleware.LeadAutomation.CallbackAuth
import CodestraMiddleware.LeadAutomation.Egress
import CodestraMiddleware.LeadAutomation.Retry
import CodestraMiddleware.LeadAutomation.TransitionTable
import CodestraMiddleware.LeadReconciliation.Identity
import CodestraMiddleware.N8n.Attempts
import CodestraMiddleware.N8n.Ordering
import CodestraMiddleware.OdooSync.Intake
import CodestraMiddleware.Orders.Approvals
import CodestraMiddleware.Outbox.Ownership
import CodestraMiddleware.Recordings.Environments
import CodestraMiddleware.Recordings.Rejection
import CodestraMiddleware.Recordings.Verification
import CodestraMiddleware.Registry.Freshness
import CodestraMiddleware.Registry.StaleReads
import CodestraMiddleware.Sales.Eligibility
import CodestraMiddleware.Sales.Jobs
import CodestraMiddleware.Sales.Tenancy
import CodestraMiddleware.Scraper.Mirror
import CodestraMiddleware.Social.Approval
import CodestraMiddleware.Social.Fencing
import CodestraMiddleware.Social.PostState
import CodestraMiddleware.Social.Sends
import CodestraMiddleware.Telephony.Attempts
import CodestraMiddleware.Telephony.OperationLog
import CodestraMiddleware.Telephony.Resubmission
import CodestraMiddleware.Telephony.Versions
import CodestraMiddleware.Tts.Admission
import CodestraMiddleware.Tts.Jobs
