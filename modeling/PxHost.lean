import PxHost.Agent.RecoveredSpec
import PxHost.System.SlotLimit
import PxHost.System.Delivery
import PxHost.System.Enqueueing
import PxHost.Payments.WebhookController
import PxHost.System.Storefront
import PxHost.System.Uninterrupted
import PxHost.Databases.ServiceLaws
import PxHost.Agent.SwapLaws
import PxHost.Agent.Restores
import PxHost.Agent.ModpackQuota
import PxHost.Agent.QuotaLaws
import PxHost.System.OrphanSweep
import PxHost.System.NodeCounts
import PxHost.Agent.SuspendedServers
import PxHost.Agent.WatcherRuns
import PxHost.Agent.DataDirectory
import PxHost.System.Price
import PxHost.System.Refunds
import PxHost.System.Convergence
import PxHost.System.RefundedServers
import PxHost.System.Debtors
import PxHost.System.PaymentRecords
import PxHost.System.ProvisioningQueue
import PxHost.System.StoppedServices
import PxHost.Agent.FileTokens
import PxHost.Security.SigningKeys
import PxHost.Auth.RefreshFamilies
import PxHost.Auth.AccessTokens
import PxHost.System.OneTimeSecrets
import PxHost.Authorization.PermissionCache
import PxHost.Agent.ConsoleSession
import PxHost.Agent.ConsoleDelivery
import PxHost.Agent.Reinstall
import PxHost.Agent.Extraction
import PxHost.Agent.ConsoleRing
import PxHost.Agent.Environment
import PxHost.Schedules.NextRun
import PxHost.Servers.Setup
