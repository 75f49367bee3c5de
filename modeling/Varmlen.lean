import Varmlen.Foundation.Run
import Varmlen.Foundation.Trace
import Varmlen.Foundation.Json
import Varmlen.Foundation.JsonTree
import Varmlen.Foundation.JsonReading
import Varmlen.Foundation.Text
import Varmlen.Foundation.TextParts
import Varmlen.Foundation.Replacement
import Varmlen.Foundation.Base64
import Varmlen.Foundation.Nft
import Varmlen.Foundation.Serde
import Varmlen.Daemon.Lifecycle
import Varmlen.Daemon.AbstractBackend
import Varmlen.Daemon.KillSwitch
import Varmlen.Daemon.Clean
import Varmlen.Daemon.Rejected
import Varmlen.Daemon.Controller
import Varmlen.Daemon.Nft
import Varmlen.Daemon.Split
import Varmlen.Daemon.System
import Varmlen.Daemon.Teardown
import Varmlen.Daemon.Document
import Varmlen.Daemon.Accepted
import Varmlen.Daemon.Request
import Varmlen.Daemon.Envelope
import Varmlen.Daemon.SplitFlag
import Varmlen.Helper.KillSwitch
import Varmlen.Core.Outbound
import Varmlen.Core.LinkOutbound
import Varmlen.Core.Plan
import Varmlen.Core.Dns
import Varmlen.Core.Config
import Varmlen.Core.Target
import Varmlen.Core.DnsPins
import Varmlen.Core.Rules
import Varmlen.Core.DnsRoute
import Varmlen.Core.LanRoute
import Varmlen.Core.Proxies
import Varmlen.Core.Checked
import Varmlen.Core.ShareLink
import Varmlen.Core.Decoding
import Varmlen.Core.Import
import Varmlen.Core.FullProfiles
import Varmlen.Core.Shadowsocks
import Varmlen.Core.Bodies
import Varmlen.Core.Endpoints
import Varmlen.Core.Literals
import Varmlen.Core.SplitPolicy
import Varmlen.Core.References
import Varmlen.Core.Assets
import Varmlen.Core.AntiLoop
import Varmlen.Core.LinkNames
import Varmlen.Core.StreamReading
import Varmlen.Core.LinkRoundTrip
import Varmlen.Core.ProbeTarget
import Varmlen.Core.Fetch
import Varmlen.Cli.Choice
import Varmlen.Cli.Confined
import Varmlen.Cli.Update
import Varmlen.Cli.Listing
import Varmlen.Cli.Reconnect
import Varmlen.Contract.FileKeys
import Varmlen.Contract.Plans
import Varmlen.Contract.Sections
import Varmlen.Contract.Documents
import Varmlen.Contract.Connection
import Varmlen.Cli.Migration
import Varmlen.Cli.Naming
import Varmlen.Cli.Redaction
import Varmlen.Foundation.Replacement
import Varmlen.Daemon.LogStore
import Varmlen.Daemon.FailureDetail
import Varmlen.Foundation.Routing
import Varmlen.Foundation.NftTables
import Varmlen.Daemon.Routing
import Varmlen.Helper.RouteRollback
import Varmlen.Helper.RouteUp
import Varmlen.Daemon.AppSelector
import Varmlen.Daemon.SplitWatch
import Varmlen.Daemon.Reconcile
import Varmlen.Daemon.Evictions
import Varmlen.Foundation.JsonCompact
import Varmlen.Daemon.ValidationPorts
import Varmlen.Foundation.JsonSize
import Varmlen.Contract.Ping
import Varmlen.Daemon.FrameSize
import Varmlen.Cli.Fetching
import Varmlen.Foundation.UrlText
import Varmlen.Cli.Masking
import Varmlen.Daemon.Subtree
import Varmlen.Daemon.LogTail
import Varmlen.Cli.Dates
import Varmlen.Core.SafeDns
import Varmlen.Daemon.StateStore
import Varmlen.Cli.Setup
import Varmlen.Cli.Saving
import Varmlen.Contract.ByteSafety
import Varmlen.Daemon.RecoveryScope
import Varmlen.Daemon.DirectDnsProxy
import Varmlen.Daemon.DnsProbe
import Varmlen.Daemon.PermissionMarks
import Varmlen.Helper.FlowPins
import Varmlen.Daemon.SocketMark
import Varmlen.Foundation.RecordCodec
import Varmlen.Cli.StoreCodecs
import Varmlen.Cli.StoredConfig
