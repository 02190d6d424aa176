import CloudWard.Ai.Advice
import CloudWard.Ai.Spending
import CloudWard.Ai.Totality
import CloudWard.Alerts.Identity
import CloudWard.Alerts.Latest
import CloudWard.Alerts.Redelivery
import CloudWard.Alerts.Schemas
import CloudWard.Approvals.Named
import CloudWard.Approvals.Once
import CloudWard.Approvals.Unchanged
import CloudWard.ClusterAgent.Intake
import CloudWard.Db.Columns
import CloudWard.Events.Stream
import CloudWard.Finops.Attribution
import CloudWard.Finops.Durability
import CloudWard.Finops.Enough
import CloudWard.Finops.Frame
import CloudWard.Finops.Lowering
import CloudWard.Finops.Monotone
import CloudWard.Finops.Observed
import CloudWard.Forwarder.Rate
import CloudWard.Github.Issues
import CloudWard.Github.Resumable
import CloudWard.IncidentMemory.Closing
import CloudWard.IncidentMemory.Ranked
import CloudWard.IncidentMemory.Recall
import CloudWard.Incidents.Gauge
import CloudWard.Kubernetes.Atomic
import CloudWard.Lab.Absorbing
import CloudWard.Lab.Attributed
import CloudWard.Lab.Deadline
import CloudWard.Lab.Monitored
import CloudWard.Lab.Verified
import CloudWard.Notifications.Outbox
import CloudWard.Policies.Callers
import CloudWard.Policies.Client
import CloudWard.Reliability.Scaling
import CloudWard.Reliability.Target
import CloudWard.Remediation.ClaimsAlone
import CloudWard.Remediation.Ending
import CloudWard.Remediation.Executed
import CloudWard.Security.Agreement
import CloudWard.Security.Ingestion
import CloudWard.Security.Isolation
import CloudWard.Security.Machine
import CloudWard.Security.Reversible
import CloudWard.Security.Signatures
import CloudWard.Security.Stored
import CloudWard.Verification.Storable
import CloudWard.Alerts.Attempts
import CloudWard.Auth.Accounts
import CloudWard.Auth.Authority
import CloudWard.Security.RateLimited
import CloudWard.Remediation.Published
import CloudWard.Security.Delivered
import CloudWard.Lab.Contained
