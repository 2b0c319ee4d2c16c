import RoomModeration.Command.Grammar
import RoomModeration.Feed.Batch
import RoomModeration.Homeserver.Body
import RoomModeration.Homeserver.Reply
import RoomModeration.Homeserver.Failure
import RoomModeration.Homeserver.InMemory
import RoomModeration.Room.Transition
import RoomModeration.Welcome.Registry
import RoomModeration.Welcome.Greeting
import RoomModeration.Config.Store
import RoomModeration.Config.Validation
import RoomModeration.Bot.Schedule
import RoomModeration.Markdown.Html
import RoomModeration.Url.Reader
import RoomModeration.Client.Login
import RoomModeration.Log.Line
import RoomModeration.Metrics.Page
import RoomModeration.Program.Run
import RoomModeration.Main
import RoomModeration.Proofs.Deed
import RoomModeration.Proofs.Keeping
import RoomModeration.Proofs.Config.Rooms
import RoomModeration.Proofs.Speaking
import RoomModeration.Proofs.Upkeep
import RoomModeration.Proofs.Chat
import RoomModeration.Proofs.Run
import RoomModeration.Proofs.Outward
import RoomModeration.Proofs.Parallel
import RoomModeration.Proofs.Routine
import RoomModeration.Proofs.BanList.Sanction
import RoomModeration.Proofs.BanList.Carrying
import RoomModeration.Proofs.BanList.Propagation
import RoomModeration.Proofs.BanList.Reconciliation
import RoomModeration.Proofs.BanList.Agreement
import RoomModeration.Proofs.BanList.Warrant
import RoomModeration.Proofs.Task
import RoomModeration.Proofs.DryRun
import RoomModeration.Proofs.Room.Operation
import RoomModeration.Proofs.Room.Disjoint
import RoomModeration.Proofs.Room.Commuting
import RoomModeration.Proofs.Room.Order
import RoomModeration.Proofs.Room.Status
import RoomModeration.Proofs.Room.Joining
import RoomModeration.Proofs.Room.Atomicity
import RoomModeration.Proofs.Abiding
import RoomModeration.Proofs.Room.Monitored
import RoomModeration.Proofs.Room.Absence
import RoomModeration.Proofs.Room.Mirroring
import RoomModeration.Proofs.Room.Welcoming
import RoomModeration.Proofs.Resemblance
import RoomModeration.Proofs.Agenda
import RoomModeration.Proofs.Room.Presence
import RoomModeration.Proofs.Room.Ledger
import RoomModeration.Proofs.Steadiness
import RoomModeration.Proofs.Room.Expiry
import RoomModeration.Proofs.Staleness
import RoomModeration.Proofs.Authority
import RoomModeration.Proofs.Secrecy
import RoomModeration.Proofs.Starting
import RoomModeration.Proofs.Passive
import RoomModeration.Proofs.Polling
import RoomModeration.Proofs.Rejoining
import RoomModeration.Proofs.Gates
import RoomModeration.Proofs.Room.Arrival
import RoomModeration.Proofs.BanList.Echo
import RoomModeration.Proofs.BanList.Pardon
import RoomModeration.Proofs.BanList.Commanding
import RoomModeration.Proofs.Command.Rendering
import RoomModeration.Proofs.Toml.Quoted
import RoomModeration.Proofs.Toml.Scalar
import RoomModeration.Proofs.Toml.Statement
import RoomModeration.Proofs.Toml.Document
import RoomModeration.Proofs.Config.RoundTrip
import RoomModeration.Proofs.Config.Persistence
import RoomModeration.Proofs.Config.Params
import RoomModeration.Proofs.Ordered
import RoomModeration.Proofs.Json.Record
import RoomModeration.Proofs.Event
import RoomModeration.Proofs.Feed.Batch
import RoomModeration.Proofs.Greeting
import RoomModeration.Proofs.Command.Position
import RoomModeration.Proofs.Login
import RoomModeration.Proofs.Url.Path
import RoomModeration.Proofs.Endpoint
import RoomModeration.Proofs.Identifier
import RoomModeration.Proofs.Gauges
