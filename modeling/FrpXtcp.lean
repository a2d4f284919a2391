import FrpXtcp.Lib.Transition
import FrpXtcp.Lib.Simulation
import FrpXtcp.Lib.Line
import FrpXtcp.Lib.Tasks
import FrpXtcp.Lib.GoMap
import FrpXtcp.Lib.Chan
import FrpXtcp.Lib.Mutex
import FrpXtcp.Lib.Index
import FrpXtcp.Lib.Handshake
import FrpXtcp.Lib.FirstMax
import FrpXtcp.Lib.HostPort
import FrpXtcp.Lib.BigEndian
import FrpXtcp.Lib.Bytes
import FrpXtcp.Lib.Word
import FrpXtcp.Lib.Text
import FrpXtcp.Lib.Descent
import FrpXtcp.Lib.LockProgram
import FrpXtcp.Lib.LockOrder
import FrpXtcp.Lib.Allowance
import FrpXtcp.Lib.Decimal
import FrpXtcp.Lib.Deadlines
import FrpXtcp.Lib.Translation
import FrpXtcp.Lib.Traced
import FrpXtcp.Naming
import FrpXtcp.Wire.Frame
import FrpXtcp.Wire.Message
import FrpXtcp.Wire.FrameStream
import FrpXtcp.Wire.UDPPacket
import FrpXtcp.Wire.UDPGrammar
import FrpXtcp.Wire.UDPRoundTrip
import FrpXtcp.Wire.ReadWriter
import FrpXtcp.Wire.Hello
import FrpXtcp.Wire.Transcript
import FrpXtcp.Wire.ControlKeys
import FrpXtcp.Nathole.Controller
import FrpXtcp.Nathole.VisitorAuth
import FrpXtcp.Nathole.MakeHole
import FrpXtcp.Nathole.Classify
import FrpXtcp.Nathole.Classification
import FrpXtcp.Nathole.Analysis
import FrpXtcp.Nathole.AnalyzerRuns
import FrpXtcp.Nathole.AnalyzerClean
import FrpXtcp.Nathole.Response
import FrpXtcp.Nathole.CandidatePorts
import FrpXtcp.Nathole.AnalysisKey
import FrpXtcp.Nathole.Exploration
import FrpXtcp.Nathole.SuccessKept
import FrpXtcp.Nathole.Sessions
import FrpXtcp.Nathole.SessionTables
import FrpXtcp.Nathole.SessionEnd
import FrpXtcp.Nathole.SessionPairing
import FrpXtcp.Nathole.Detection
import FrpXtcp.Nathole.HolePunch
import FrpXtcp.Nathole.MeetingPlans
import FrpXtcp.Server.Proxy
import FrpXtcp.Server.ProxyOwnership
import FrpXtcp.Server.ProxyNames
import FrpXtcp.Server.Registry
import FrpXtcp.Server.RegistryRuns
import FrpXtcp.Server.Control
import FrpXtcp.Server.Lifecycle
import FrpXtcp.Server.LifecycleTables
import FrpXtcp.Server.LifecycleOrder
import FrpXtcp.Server.ManagerCore
import FrpXtcp.Server.ManagerInvariant
import FrpXtcp.Server.Handoff
import FrpXtcp.Server.OnlineOwner
import FrpXtcp.Server.ControlManager
import FrpXtcp.Server.ManagerFrame
import FrpXtcp.Server.ManagerGates
import FrpXtcp.Server.ManagerSteps
import FrpXtcp.Server.ManagerRuns
import FrpXtcp.Server.Generations
import FrpXtcp.Server.LoginCommit
import FrpXtcp.Server.WorkConns
import FrpXtcp.Server.WorkConnPool
import FrpXtcp.Server.ManagerLocks
import FrpXtcp.Server.ManagerSections
import FrpXtcp.Server.ManagerDeadlock
import FrpXtcp.Server.Connection
import FrpXtcp.Server.RegistryIdentity
import FrpXtcp.Auth.Token
import FrpXtcp.Util.Backoff
import FrpXtcp.Util.RetryLimit
import FrpXtcp.Util.RangeNumbers
import FrpXtcp.Client.ServiceConfig
import FrpXtcp.Client.ServiceRuns
import FrpXtcp.Client.ProxyManager
import FrpXtcp.Client.ProxyInvariant
import FrpXtcp.Client.Reload
import FrpXtcp.Client.Reconcile
import FrpXtcp.Client.VisitorManager
import FrpXtcp.Client.Closing
import FrpXtcp.Client.XTCPVisitor
import FrpXtcp.Client.Login
import FrpXtcp.Client.UserConns
import FrpXtcp.Client.UserConnsClosing
import FrpXtcp.Client.TunnelSessions
import FrpXtcp.Client.TunnelProgress
import FrpXtcp.Config.Store
import FrpXtcp.Config.StoreMutations
import FrpXtcp.Config.StoreReload
import FrpXtcp.Config.Aggregator
import FrpXtcp.Config.Startup
import FrpXtcp.Session.ProxySession
import FrpXtcp.Session.SessionInvariant
import FrpXtcp.Session.Agreement
import FrpXtcp.Session.LoginAgreement
import FrpXtcp.Session.Heartbeat
import FrpXtcp.Transport.Lanes
import FrpXtcp.Transport.LaneOrder
import FrpXtcp.Transport.LaneInvariant
import FrpXtcp.Transport.LaneRouting
import FrpXtcp.Transport.Dispatcher
import FrpXtcp.Transport.DispatcherProgress
