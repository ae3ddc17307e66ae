import ScrubbingGateway.Apply.DenyCodec
import ScrubbingGateway.Apply.InstalledRates
import ScrubbingGateway.Apply.NextHops
import ScrubbingGateway.Apply.PacketView
import ScrubbingGateway.Apply.RateChanges
import ScrubbingGateway.Apply.RuleOverlap
import ScrubbingGateway.Apply.WhitelistLoop
import ScrubbingGateway.Control.AlertIsolation
import ScrubbingGateway.Control.AlertLifecycle
import ScrubbingGateway.Control.ApplyTruth
import ScrubbingGateway.Control.BilledBytes
import ScrubbingGateway.Control.BillingMetrics
import ScrubbingGateway.Control.Containment
import ScrubbingGateway.Control.Credentials
import ScrubbingGateway.Control.DenyConvergence
import ScrubbingGateway.Control.DryRun
import ScrubbingGateway.Control.FeedCompletion
import ScrubbingGateway.Control.FeedDeletion
import ScrubbingGateway.Control.LastAdmin
import ScrubbingGateway.Control.NodeSwitches
import ScrubbingGateway.Control.ServiceConvergence
import ScrubbingGateway.Control.ServiceDelivery
import ScrubbingGateway.Control.TenantDeletion
import ScrubbingGateway.Control.VersionBump
import ScrubbingGateway.DataPlane.Conforming
import ScrubbingGateway.DataPlane.CounterBalance
import ScrubbingGateway.DataPlane.FrameGrammar
