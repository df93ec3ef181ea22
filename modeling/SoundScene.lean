import SoundScene.Address
import SoundScene.Api.Document
import SoundScene.Api.Endpoint
import SoundScene.Api.Move
import SoundScene.Api.Schema
import SoundScene.Api.Service
import SoundScene.Calendar
import SoundScene.Command
import SoundScene.Decimal
import SoundScene.Event
import SoundScene.Failure
import SoundScene.Feed
import SoundScene.Filter
import SoundScene.Geometry
import SoundScene.Gesture
import SoundScene.Http.MediaType
import SoundScene.Http.Message
import SoundScene.Http.Percent
import SoundScene.Hub
import SoundScene.Json.Cursor
import SoundScene.Json.Fault
import SoundScene.Json.Geometry
import SoundScene.Json.Parser
import SoundScene.Json.Pointer
import SoundScene.Json.Record
import SoundScene.Json.Skip
import SoundScene.Json.Text
import SoundScene.Json.Token
import SoundScene.Json.Typed
import SoundScene.Json.Value
import SoundScene.Keyed
import SoundScene.Link
import SoundScene.Loudspeaker
import SoundScene.Message
import SoundScene.Outbox
import SoundScene.PoseRequest
import SoundScene.Reference
import SoundScene.Scene
import SoundScene.Server
import SoundScene.Settings
import SoundScene.Settings.EnvFile
import SoundScene.Settings.SocketAddress
import SoundScene.Snapshot
import SoundScene.Source
import SoundScene.Text.Blank
import SoundScene.Text.Digits
import SoundScene.Text.Quoted
import SoundScene.Text.Ranges
import SoundScene.Text.Scan
import SoundScene.Text.Split
import SoundScene.Text.Unprintable
import SoundScene.Text.Utf8
import SoundScene.Text.Word
import SoundScene.Timestamp
import SoundScene.Viewer.Answer
import SoundScene.Viewer.Connection
import SoundScene.Viewer.Envelope
import SoundScene.Viewer.Handshake
import SoundScene.Viewer.Request
import SoundScene.Proofs.Calls
import SoundScene.Proofs.Following
import SoundScene.Proofs.Traffic
import SoundScene.Proofs.BusOrder
import SoundScene.Proofs.QueueOrder
import SoundScene.Proofs.CommandText
import SoundScene.Proofs.DecodedCommands
import SoundScene.Proofs.InPlace
import SoundScene.Proofs.MessageCut
import SoundScene.Proofs.Lockstep
import SoundScene.Proofs.LastWriter
import SoundScene.Proofs.Lives
import SoundScene.Proofs.Visits
import SoundScene.Proofs.Pump
import SoundScene.Proofs.Understood
import SoundScene.Proofs.Requests
import SoundScene.Proofs.Feeds
import SoundScene.Proofs.FrameText
import SoundScene.Proofs.Replies
import SoundScene.Proofs.Viewing
import SoundScene.Proofs.Grammar
import SoundScene.Proofs.ReadPaths
import SoundScene.Proofs.StoredNumbers
import SoundScene.Proofs.LoudspeakerSet
import SoundScene.Proofs.Batches
import SoundScene.Proofs.Unfollowing
import SoundScene.Proofs.StateCommands
import SoundScene.Proofs.GestureFrame
import SoundScene.Proofs.Commuting
import SoundScene.Proofs.Depth
import SoundScene.Proofs.EncodedText
import SoundScene.Proofs.Redelivery
import SoundScene.Proofs.Rotations
import SoundScene.Proofs.TextLength
import SoundScene.Proofs.PoseText
import SoundScene.Proofs.MovePaths
import SoundScene.Proofs.Counts
import SoundScene.Proofs.TopicList
import SoundScene.Proofs.Layout
