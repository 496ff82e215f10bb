import TokenFactory.Subscription.Requests
import TokenFactory.Subscription.Group
import TokenFactory.Polling.Payments
import TokenFactory.Relay.Pricing
import TokenFactory.Relay.Headers
import TokenFactory.Subscription.Concurrent
import TokenFactory.Auth.Revocation
import TokenFactory.Payment.Redemption
import TokenFactory.Polling.Submission
import TokenFactory.Realtime.Session
import TokenFactory.Relay.Isolation
import TokenFactory.Distributor.Pinned
import TokenFactory.Billing.Batch
import TokenFactory.Auth.Hierarchy
import TokenFactory.Distributor.Traversal
import TokenFactory.Affiliate.Conservation
import TokenFactory.Profile.Update
import TokenFactory.Payment.Completion
import TokenFactory.Distributor.Race
import TokenFactory.Quota.ImageSettlement
import TokenFactory.Quota.TaskRatios
import TokenFactory.Quota.ProfitShare
import TokenFactory.Subscription.Orders
import TokenFactory.Subscription.CatchUp
import TokenFactory.Distributor.CacheLoad
import TokenFactory.Channels.MirrorRuns
import TokenFactory.Channels.SlugRuns
import TokenFactory.Channels.KeyRuns
import TokenFactory.Midjourney.Secrets
import TokenFactory.Midjourney.Billing
import TokenFactory.RateLimit.Successes
import TokenFactory.Auth.Lockout
import TokenFactory.Auth.BackupCodes
import TokenFactory.Options.Tiers
import TokenFactory.Quota.PerVideo
import TokenFactory.Quota.VideoLog
import TokenFactory.Quota.ClaudeText
import TokenFactory.Convert.Chat
import TokenFactory.Tokens.Update
import TokenFactory.Quota.JsonComments
