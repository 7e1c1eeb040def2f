import UntitledGame.Net.Connection
import UntitledGame.Net.Snapshot
import UntitledGame.Sim.Acknowledgement
import UntitledGame.Client.Prediction
import UntitledGame.Client.Rollback
import UntitledGame.Client.NetClient
import UntitledGame.Client.Application
import UntitledGame.Client.Replication
import UntitledGame.Client.Mirror
import UntitledGame.Client.Numbering
import UntitledGame.Server.Database
import UntitledGame.Server.DbLink
import UntitledGame.Server.TcpServer
import UntitledGame.Server.WorldServer
import UntitledGame.Server.Membership
import UntitledGame.Server.PlayerTables
import UntitledGame.Server.Provenance
import UntitledGame.Server.Presence
import UntitledGame.Server.AuthServer
import UntitledGame.Server.AuthProvenance
import UntitledGame.Server.Clock
import UntitledGame.Server.Privilege
import UntitledGame.Server.Redemption
import UntitledGame.Server.DbMessages
import UntitledGame.Server.DbServer
import UntitledGame.Lib.TreeMaps
import UntitledGame.Server.AuthTurns
import UntitledGame.Server.Responses
import UntitledGame.Server.Chronicle
import UntitledGame.Server.Login
import UntitledGame.Server.DbCalls
import UntitledGame.Server.Commands
import UntitledGame.Server.RpcClient
import UntitledGame.Server.Codecs
import UntitledGame.Server.Endpoints
import UntitledGame.Server.UdpSteps
import UntitledGame.Server.UdpBinding
import UntitledGame.Server.UdpAddresses
import UntitledGame.Server.Console
import UntitledGame.Server.AccountStore
import UntitledGame.Client.Session
import UntitledGame.Sim.SpeedLimit
import UntitledGame.Lib.Binary32
import UntitledGame.Server.InputSanity
import UntitledGame.Client.Staleness
import UntitledGame.Client.Isolation
import UntitledGame.Net.Reader
import UntitledGame.Server.SocketServer
import UntitledGame.Server.ConnectionLife
import UntitledGame.Server.CloseRequests
import UntitledGame.Server.DbSocket
import UntitledGame.Server.Hangups
import UntitledGame.Server.PendingWrites
import UntitledGame.Client.Voice
import UntitledGame.Lib.Keepalive
import UntitledGame.Server.LastHeard
import UntitledGame.Server.Registration
import UntitledGame.Server.UdpSilence
import UntitledGame.Lib.Rates
import UntitledGame.Sim.WorldClock
import UntitledGame.Net.Chunks
import UntitledGame.Net.SnapshotCodec
import UntitledGame.Client.PendingHistory
import UntitledGame.Lib.Queues
import UntitledGame.Server.UdpDrain
import UntitledGame.Sim.InputOrder
import UntitledGame.Sim.SnapshotContents
import UntitledGame.Server.SimulatedLink
import UntitledGame.Sim.GroundContact
import UntitledGame.Net.ReaderMemory
import UntitledGame.Terrain.Heightfield
import UntitledGame.Lib.Decimals
import UntitledGame.Server.ConsoleNumbers
import UntitledGame.Client.Password
import UntitledGame.Client.Easing
import UntitledGame.Lib.Attempts
import UntitledGame.Lib.Shelves
import UntitledGame.Ui.Font
import UntitledGame.Ui.GlyphPacking
import UntitledGame.Ui.UiBatch
import UntitledGame.Ui.UiRenderer
import UntitledGame.Server.RpcRefinement
import UntitledGame.Server.TcpRefinement
import UntitledGame.Server.WorldTurns
import UntitledGame.Server.WorldResponses
import UntitledGame.Server.Incumbents
import UntitledGame.Server.JoinTurn
import UntitledGame.Server.Handshake
import UntitledGame.Ui.Widgets
import UntitledGame.Ui.Presses
import UntitledGame.Client.Screens
import UntitledGame.Client.CameraController
import UntitledGame.Client.Shell
import UntitledGame.Client.ShellRefinement
import UntitledGame.Client.Veil
import UntitledGame.Client.Unseen
import UntitledGame.Client.TypedLogin
import UntitledGame.Sim.OwnLife
import UntitledGame.Lib.Pacing
import UntitledGame.Server.MainLoop
import UntitledGame.Client.Pace
import UntitledGame.Server.Cadence
import UntitledGame.Server.Backlog
import UntitledGame.Tools.RemoteConsole
import UntitledGame.Tools.SameAsTyped
import UntitledGame.Tools.AccountsAsTyped
import UntitledGame.Tools.ClockShown
import UntitledGame.Lib.Grids
import UntitledGame.Client.Meshes
import UntitledGame.Client.Winding
import UntitledGame.Client.TerrainMesh
import UntitledGame.Client.Sky
