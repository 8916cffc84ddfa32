import Switchyard.Cache.Basic
import Switchyard.Cache.Key
import Switchyard.Cache.Snapshot
import Switchyard.CommandLine
import Switchyard.Config.Basic
import Switchyard.Config.Document
import Switchyard.Config.Reload
import Switchyard.Config.Violation
import Switchyard.Files.Path
import Switchyard.Files.System
import Switchyard.Http.Header
import Switchyard.Http.Method
import Switchyard.Http.Request
import Switchyard.Http.RequestId
import Switchyard.Http.Response
import Switchyard.Http.Status
import Switchyard.Http.Target
import Switchyard.Http.Wire
import Switchyard.Json.Quoted
import Switchyard.Json.Reader
import Switchyard.Json.Typed
import Switchyard.Json.Value
import Switchyard.Log.Directive
import Switchyard.Log.Event
import Switchyard.Log.Line
import Switchyard.Main
import Switchyard.Net.Address
import Switchyard.Net.Connections
import Switchyard.Net.HostName
import Switchyard.Net.KeyFiles
import Switchyard.Net.Listener
import Switchyard.Net.Network
import Switchyard.Net.Transport
import Switchyard.Proofs.Cache.CanonicalQuery
import Switchyard.Proofs.Text.Cuts
import Switchyard.Proofs.Text.Pieces
import Switchyard.Roster
import Switchyard.Route.Binding
import Switchyard.Route.Compile
import Switchyard.Route.Pattern
import Switchyard.Route.Table
import Switchyard.Server
import Switchyard.Server.Exchange
import Switchyard.Server.Lifecycle
import Switchyard.Server.Pool
import Switchyard.Server.Shutdown
import Switchyard.Site.Access
import Switchyard.Site.Builtin
import Switchyard.Site.Context
import Switchyard.Site.Dispatch
import Switchyard.Site.Files
import Switchyard.Site.Handler
import Switchyard.Site.Upkeep
import Switchyard.Table
import Switchyard.Text.Blank
import Switchyard.Text.Case
import Switchyard.Text.Parser
import Switchyard.Text.Quoted
import Switchyard.Text.Split
import Switchyard.Text.Utf8
import Switchyard.Text.Visible
import Switchyard.Toml.Document
import Switchyard.Toml.Scalar
import Switchyard.Toml.Tree
import Switchyard.Toml.Value
import Switchyard.Proofs.Cache.History
import Switchyard.Proofs.Site.Run
import Switchyard.Proofs.Route.Registration
import Switchyard.Proofs.Site.Provenance
import Switchyard.Proofs.Site.Transparency
import Switchyard.Proofs.Route.Compiled
import Switchyard.Proofs.Route.Matching
import Switchyard.Proofs.Route.Grammar
import Switchyard.Proofs.Route.Completeness
import Switchyard.Proofs.Cache.Interchange
import Switchyard.Proofs.Site.Methods
import Switchyard.Proofs.Route.Router
import Switchyard.Proofs.Text.Octets
import Switchyard.Proofs.Json.Scalars
import Switchyard.Proofs.Json.Reading
import Switchyard.Proofs.Json.Yields
import Switchyard.Proofs.Cache.Stored
import Switchyard.Proofs.Files.Walking
import Switchyard.Proofs.Files.Writing
import Switchyard.Proofs.Cache.Saving
import Switchyard.Proofs.Cache.Restart
import Switchyard.Proofs.Server.Pool
import Switchyard.Proofs.Site.Builtin
import Switchyard.Proofs.Server.Startup
import Switchyard.Proofs.Files.Children
import Switchyard.Proofs.Site.Files
import Switchyard.Proofs.Site.Excluded
import Switchyard.Proofs.Config.Forwarding
import Switchyard.Proofs.Server.Settings
import Switchyard.Proofs.Site.Access
import Switchyard.Proofs.Site.Admin
import Switchyard.Proofs.Cache.Room
import Switchyard.Proofs.Route.Precedence
import Switchyard.Proofs.Site.Effects
import Switchyard.Proofs.Server.Lifetime
import Switchyard.Proofs.Cache.TimeToLive
import Switchyard.Proofs.Cache.Loading
import Switchyard.Proofs.Cache.Disk
import Switchyard.Proofs.Net.PortSearch
import Switchyard.Proofs.Server.Listeners
import Switchyard.Proofs.Route.AbsentExtension
import Switchyard.Proofs.Route.Naming
import Switchyard.Proofs.Route.Building
import Switchyard.Proofs.Http.Building
import Switchyard.Proofs.Config.Overriding
import Switchyard.Proofs.Roster
import Switchyard.Proofs.Net.Tracking
import Switchyard.Proofs.Net.Guards
