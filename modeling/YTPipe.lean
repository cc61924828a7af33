import YTPipe.Broker.Answers
import YTPipe.Broker.FailurePolicy
import YTPipe.Broker.Gateway
import YTPipe.Broker.Idempotency
import YTPipe.Broker.Output
import YTPipe.Broker.OutputContract
import YTPipe.Broker.OutputNormal
import YTPipe.Broker.PlanAgreement
import YTPipe.Broker.PlanValidity
import YTPipe.BrokerFacts
import YTPipe.Dispositions
import YTPipe.Epochs.Coordinator
import YTPipe.ExecutionLock.Runs
import YTPipe.Json
import YTPipe.LedgerProgress
import YTPipe.LedgerRows
import YTPipe.OperatorAudit
import YTPipe.Pipeline.Budgets
import YTPipe.Pipeline.Failures
import YTPipe.Pipeline.Manual
import YTPipe.Pipeline.Once
import YTPipe.Pipeline.Skips
import YTPipe.Pipeline.Terminal
import YTPipe.Plans
import YTPipe.PollLoop
import YTPipe.Polling.Baseline
import YTPipe.Polling.Durations
import YTPipe.Polling.Incidents
import YTPipe.Polling.Notifications
import YTPipe.Polling.Quota
import YTPipe.Polling.QuotaAlerts
import YTPipe.Polling.Rerun
import YTPipe.Process
import YTPipe.Push.Consent
import YTPipe.Push.Secrets
import YTPipe.Refinement.Run
import YTPipe.Requests
import YTPipe.RouteSwitches
import YTPipe.Session
import YTPipe.SignIn.Reauth
import YTPipe.SignIn.Safety
import YTPipe.SignedState
import YTPipe.Stage
import YTPipe.StageRun
import YTPipe.Subscriptions
import YTPipe.Summarization.SamePrompts
import YTPipe.Summarization.Splitting
import YTPipe.Telegram.Delivery
import YTPipe.Telegram.Exhaustion
import YTPipe.Telegram.Intake
import YTPipe.Telegram.Leader
import YTPipe.Telegram.Queue
import YTPipe.Telegram.Reply
import YTPipe.Telegram.VideoUrl
import YTPipe.UnitOfWork
