import IotGateway.Gateway.MaxOn
import IotGateway.Gateway.Race
import IotGateway.Gateway.Redelivery
import IotGateway.Gateway.Shutdown
import IotGateway.Gateway.Bus
import IotGateway.Gateway.Connection
import IotGateway.Gateway.AutoOff
import IotGateway.Gateway.LocalDb
import IotGateway.Gateway.Queue
import IotGateway.Gateway.Startup
import IotGateway.Gateway.Reading
import IotGateway.Server.LastSeen
import IotGateway.Server.Overlap
import IotGateway.Server.Latest
import IotGateway.Server.Repeat
import IotGateway.Server.Replay
import IotGateway.Server.CommandStatus
import IotGateway.Server.Isolation
import IotGateway.Server.Mediation
import IotGateway.Server.Auth
import IotGateway.Server.Partitions
import IotGateway.Lifetime
import IotGateway.Topics
import IotGateway.Hal.Serial
import IotGateway.Num.Crc
import IotGateway.Hal.Corruption
import IotGateway.Hal.Write
import IotGateway.Gateway.Execute
import IotGateway.Gateway.PollOnce
import IotGateway.Gateway.Narrowing
import IotGateway.Server.Listing
import IotGateway.Server.Deletion
import IotGateway.ChannelNames
import IotGateway.Hal.Threads
import IotGateway.Hal.Timed
import IotGateway.Db.Smallest
import IotGateway.Gateway.Drain
import IotGateway.Hal.Slots
import IotGateway.Gateway.Health
import IotGateway.Gateway.Relays
import IotGateway.Server.MonthTiles
import IotGateway.Db.Ttl
import IotGateway.Server.Revocation
import IotGateway.Server.Staleness
import IotGateway.Python.IsoText
import IotGateway.Timestamps
import IotGateway.Text.Lexicographic
import IotGateway.Text.DateOrder
import IotGateway.Gateway.QueueOrder
import IotGateway.Lts.Periodic
import IotGateway.Server.Scheduler
import IotGateway.Heartbeats
import IotGateway.Server.Dashboard
import IotGateway.Server.Uncached
import IotGateway.Server.Grants
import IotGateway.Server.SignIn
import IotGateway.Readings
import IotGateway.Gateway.Watchdog
import IotGateway.Migrations
import IotGateway.Gateway.Backlog
import IotGateway.Gateway.Simulation
import IotGateway.Gateway.Process
import IotGateway.Server.WorkerProcess
