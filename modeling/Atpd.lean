import Atpd.Lib.Run
import Atpd.Lib.Custody
import Atpd.Lib.Phases
import Atpd.Lib.Stream
import Atpd.Lib.Words
import Atpd.Reactor.Timer
import Atpd.Reactor.Pass
import Atpd.Reactor.Semantics
import Atpd.Reactor.Handle
import Atpd.Reactor.OneShot
import Atpd.Reactor.Table
import Atpd.Reactor.Batch
import Atpd.Reactor.Registry
import Atpd.Reactor.Destroy
import Atpd.Config.Basic
import Atpd.Config.Reload
import Atpd.Config.File
import Atpd.Config.Precedence
import Atpd.Lib.Overlay
import Atpd.Config.Settings
import Atpd.Config.Grammar
import Atpd.Config.Accepted
import Atpd.Config.Explicit
import Atpd.Config.JsonPort
import Atpd.Lib.Ring
import Atpd.Daemon.Errors
import Atpd.Service.Types
import Atpd.Service.Args
import Atpd.Service.Ops
import Atpd.Service.Frame
import Atpd.Service.Step
import Atpd.Service.Health
import Atpd.Service.Stop
import Atpd.Service.Child
import Atpd.Service.Failure
import Atpd.Service.Breaker
import Atpd.Service.Storm
import Atpd.Service.Tenure
import Atpd.Service.Identity
import Atpd.Service.Timers
import Atpd.Service.Handles
import Atpd.Service.StopWait
import Atpd.Service.AsyncValidate
import Atpd.Daemon.Context
import Atpd.Daemon.PidFile
import Atpd.Daemon.Teardown
import Atpd.Api.VpnMode
import Atpd.Api.Mailbox
import Atpd.Lib.Protobuf
import Atpd.Api.GrpcWeb
import Atpd.Api.StatusMessage
import Atpd.Api.Framing
import Atpd.Api.ClashMode
import Atpd.Lib.Buffer
import Atpd.Api.Decoders
import Atpd.Api.Unary
import Atpd.Api.Agreement
import Atpd.Api.Refresh
import Atpd.Daemon.Reload
import Atpd.Daemon.EventLoop
import Atpd.Session.Datapath
import Atpd.Session.Gate
import Atpd.Session.Pump
import Atpd.Session.Conserve
import Atpd.Session.Account
import Atpd.Session.Refs
import Atpd.Session.Ledger
import Atpd.Session.Register
import Atpd.Session.Evolve
import Atpd.Session.Exact
import Atpd.Session.Destroy
import Atpd.Session.Threads
import Atpd.Session.Closer
import Atpd.Lib.Linked
import Atpd.Session.Listed
import Atpd.Session.Drain
import Atpd.Session.Splice
import Atpd.Session.Forwarded
import Atpd.Control.Uds
import Atpd.Lib.Chain
import Atpd.Lib.Outcome
import Atpd.Control.Command
import Atpd.Control.Clients
import Atpd.Control.Table
import Atpd.Control.Callbacks
import Atpd.Control.Requests
import Atpd.Lib.Walk
import Atpd.Netlink.Message
import Atpd.Netlink.Inside
import Atpd.Netlink.Dump
import Atpd.Netlink.Vpn
import Atpd.Netlink.Stats
import Atpd.Lib.Utf8
import Atpd.Daemon.Ui
import Atpd.Service.ProcStat
import Atpd.Lib.Directory
import Atpd.Daemon.LogRotate
import Atpd.Reactor.Pointers
import Atpd.Reactor.Owned
import Atpd.Reactor.TimerRuns
import Atpd.Reactor.PassEnds
import Atpd.Reactor.Refines
import Atpd.Daemon.VpnContext
import Atpd.Netlink.Refresh
import Atpd.Api.VpnSync
import Atpd.Daemon.Resources
import Atpd.Daemon.Init
import Atpd.Daemon.Lifetime
import Atpd.Daemon.Launch
