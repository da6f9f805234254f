import ThreadHaul.Lib.Runs
import ThreadHaul.Lib.Streak
import ThreadHaul.Actuator.ThreadControl
import ThreadHaul.Actuator.StateMachine
import ThreadHaul.Actuator.Window
import ThreadHaul.Telemetry.AdaptiveThresholds
import ThreadHaul.Actuator.Dominance
import ThreadHaul.Actuator.Manager
import ThreadHaul.Actuator.Shutdown
import ThreadHaul.Lib.Framing
import ThreadHaul.Channel.Frame
import ThreadHaul.Channel.Segmentation
import ThreadHaul.Common.Json
import ThreadHaul.Channel.Handshake
import ThreadHaul.Channel.Malformed
import ThreadHaul.Channel.Stream
import ThreadHaul.Lib.Knowledge
import ThreadHaul.Channel.Network
import ThreadHaul.Channel.Agreement
import ThreadHaul.Controller.Leveling
import ThreadHaul.Controller.Rebalance
import ThreadHaul.Lib.Decimal
import ThreadHaul.Telemetry.ProcessSafety
import ThreadHaul.Service.Daemon
import ThreadHaul.Service.Command
import ThreadHaul.Service.Restrain
import ThreadHaul.Lib.Transcode
import ThreadHaul.Service.Safety
import ThreadHaul.Service.Dashboard
import ThreadHaul.Actuator.Operations
import ThreadHaul.Actuator.Protection
import ThreadHaul.Actuator.Suspension
import ThreadHaul.Lib.OrderedMap
import ThreadHaul.Telemetry.ProcessIdentity
import ThreadHaul.Service.Reload
import ThreadHaul.Config.Parse
import ThreadHaul.Telemetry.ProcessMonitor
import ThreadHaul.Service.AutoProtect
import ThreadHaul.Actuator.Holding
import ThreadHaul.Service.Poll
import ThreadHaul.Service.System
import ThreadHaul.Service.Thresholds
import ThreadHaul.Service.CriticalProcesses
import ThreadHaul.Service.AutomaticControl
import ThreadHaul.Service.TwoControllers
import ThreadHaul.Service.IdentityPins
import ThreadHaul.Actuator.Reuse
import ThreadHaul.Actuator.Undisturbed
import ThreadHaul.Service.SessionGuard
import ThreadHaul.Service.Lockout
import ThreadHaul.Service.AccessKey
import ThreadHaul.Service.Access
import ThreadHaul.Service.Outbox
import ThreadHaul.Lib.Slots
import ThreadHaul.Lib.TextLines
import ThreadHaul.Lib.HashChain
import ThreadHaul.Logging.Chain
import ThreadHaul.Logging.Tamper
import ThreadHaul.Logging.Logger
import ThreadHaul.Logging.Rotation
import ThreadHaul.Logging.Intact
import ThreadHaul.Logging.Settings
import ThreadHaul.Logging.Confirmed
import ThreadHaul.Logging.Failures
import ThreadHaul.Lib.Locking
import ThreadHaul.Service.Threads
import ThreadHaul.Service.Deadlocks
import ThreadHaul.Controller.Failures
import ThreadHaul.Service.Priorities
import ThreadHaul.Service.Exemptions
import ThreadHaul.Config.Sound
import ThreadHaul.Service.Settings
import ThreadHaul.Service.AutoLimits
import ThreadHaul.Service.AutoLevels
import ThreadHaul.Service.Independence
import ThreadHaul.Logging.Blocked
import ThreadHaul.Config.Throwing
import ThreadHaul.Config.SetProcessRole
import ThreadHaul.Config.Roles
import ThreadHaul.Lib.LeastSquares
import ThreadHaul.Telemetry.Trend
import ThreadHaul.Service.Trackers
import ThreadHaul.Service.Residue
import ThreadHaul.Lib.LineCursor
import ThreadHaul.Service.ReadLog
import ThreadHaul.Service.LogReader
import ThreadHaul.Logging.Live
import ThreadHaul.Service.LogFollower
import ThreadHaul.Channel.Refusals
import ThreadHaul.Service.AutoSlots
import ThreadHaul.Service.ThresholdEvents
import ThreadHaul.Service.Causes
import ThreadHaul.Actuator.Success
import ThreadHaul.Service.Answers
import ThreadHaul.Telemetry.IdentityCache
import ThreadHaul.Telemetry.PollEvents
import ThreadHaul.Telemetry.Lifecycle
import ThreadHaul.Lib.Search
import ThreadHaul.Service.HttpServer
import ThreadHaul.Logging.LastLine
import ThreadHaul.Service.LogProgress
import ThreadHaul.Channel.Nonces
