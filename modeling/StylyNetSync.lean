import StylyNetSync.Foundation.Alternating
import StylyNetSync.Foundation.Cooldown
import StylyNetSync.Foundation.DoubleArith
import StylyNetSync.Foundation.DoubleReal
import StylyNetSync.Foundation.DropOldest
import StylyNetSync.Foundation.ExactDouble
import StylyNetSync.Foundation.ExactReal
import StylyNetSync.Foundation.Extended
import StylyNetSync.Foundation.Heartbeat
import StylyNetSync.Foundation.History
import StylyNetSync.Foundation.LatchedScan
import StylyNetSync.Foundation.LatestSlot
import StylyNetSync.Foundation.Ledger
import StylyNetSync.Foundation.LittleEndian
import StylyNetSync.Foundation.NearestInteger
import StylyNetSync.Foundation.OrderedMap
import StylyNetSync.Foundation.ParserImage
import StylyNetSync.Foundation.RecordedAccess
import StylyNetSync.Foundation.Run
import StylyNetSync.Foundation.SlidingWindow
import StylyNetSync.Foundation.TextParse
import StylyNetSync.Foundation.TurnedArgument
import StylyNetSync.Foundation.TwoRuns
import StylyNetSync.Foundation.UnitVectors
import StylyNetSync.Foundation.Utf8
import StylyNetSync.Protocol.BinaryIO
import StylyNetSync.Protocol.Deserialize
import StylyNetSync.Protocol.MessageTypes
import StylyNetSync.Protocol.Messages
import StylyNetSync.Protocol.PoseBody
import StylyNetSync.Protocol.PoseCodec
import StylyNetSync.Protocol.PoseDisclosure
import StylyNetSync.Protocol.PrefixExact
import StylyNetSync.Protocol.Quantisation
import StylyNetSync.Protocol.ReaderSafety
import StylyNetSync.Protocol.RoomPoseAlignment
import StylyNetSync.Protocol.RotationAccuracy
import StylyNetSync.Protocol.RotationCodec
import StylyNetSync.Protocol.RoundTrip
import StylyNetSync.Protocol.SmallestThree
import StylyNetSync.Protocol.Truncation
import StylyNetSync.Protocol.Utf8Truncation
import StylyNetSync.Protocol.YawExtraction
import StylyNetSync.Transport.ControlOutbox
import StylyNetSync.Transport.Endpoint
import StylyNetSync.Transport.LatestSlots
import StylyNetSync.Transport.NetworkLoop
import StylyNetSync.Transport.ReceiveLoop
import StylyNetSync.Transport.RoomTopics
import StylyNetSync.Transport.ServerDiscovery
import StylyNetSync.Transport.ZmqTransport
import StylyNetSync.Core.AlikeManagers
import StylyNetSync.Core.AlikeSession
import StylyNetSync.Core.AlikeShared
import StylyNetSync.Core.Callbacks
import StylyNetSync.Core.ClientTarget
import StylyNetSync.Core.Debounce
import StylyNetSync.Core.DeviceMapping
import StylyNetSync.Core.EventReplay
import StylyNetSync.Core.ExactChanges
import StylyNetSync.Core.FirstPublication
import StylyNetSync.Core.GlobalIntent
import StylyNetSync.Core.HelloFirst
import StylyNetSync.Core.IdentityWire
import StylyNetSync.Core.InboxHandoff
import StylyNetSync.Core.JsonConversions
import StylyNetSync.Core.JsonFaithful
import StylyNetSync.Core.JsonGrammar
import StylyNetSync.Core.JsonNumbers
import StylyNetSync.Core.JsonNumerals
import StylyNetSync.Core.JsonParser
import StylyNetSync.Core.JsonRoundTrip
import StylyNetSync.Core.JsonStrings
import StylyNetSync.Core.JsonUtil
import StylyNetSync.Core.NetSyncClient
import StylyNetSync.Core.NetworkVariableManager
import StylyNetSync.Core.ObjectSyncManager
import StylyNetSync.Core.OutboxRetention
import StylyNetSync.Core.OwnPresence
import StylyNetSync.Core.OwnershipPeriod
import StylyNetSync.Core.OwnershipTransitions
import StylyNetSync.Core.PollParts
import StylyNetSync.Core.PoseClock
import StylyNetSync.Core.PoseSchedule
import StylyNetSync.Core.Presence
import StylyNetSync.Core.QuotaWaste
import StylyNetSync.Core.Readiness
import StylyNetSync.Core.RpcAccounting
import StylyNetSync.Core.RpcDelivery
import StylyNetSync.Core.RpcManager
import StylyNetSync.Core.RpcOrder
import StylyNetSync.Core.RpcProgress
import StylyNetSync.Core.RpcQuota
import StylyNetSync.Core.SendRecord
import StylyNetSync.Core.SendSide
import StylyNetSync.Core.SessionIsolation
import StylyNetSync.Core.SessionMoves
import StylyNetSync.Core.SessionRule
import StylyNetSync.Core.SharedState
import StylyNetSync.Core.SingleWriter
import StylyNetSync.Core.SnapshotBlock
import StylyNetSync.Core.Standing
import StylyNetSync.Core.SwallowedWrite
import StylyNetSync.Core.VariableRule
import StylyNetSync.Core.VariableSystem
import StylyNetSync.Core.VariableWire
import StylyNetSync.Godot.CoordinateConverter
import StylyNetSync.Godot.LocalPose
import StylyNetSync.Godot.Locomotion
import StylyNetSync.Godot.RotationBasis
import StylyNetSync.Transport.NetworkThread
import StylyNetSync.Transport.ThreadCallbacks
import StylyNetSync.Foundation.Ranking
import StylyNetSync.Transport.ThreadStop
import StylyNetSync.Core.ThreadSimulation
import StylyNetSync.Transport.DiscoverySearch
import StylyNetSync.Core.ConnectionStates
import StylyNetSync.Core.StealthSecrecy
import StylyNetSync.Foundation.QuaternionTurns
import StylyNetSync.Protocol.PoseFidelity
import StylyNetSync.Godot.NetSyncObject
import StylyNetSync.Godot.SceneObjects
import StylyNetSync.Godot.FrameRate
import StylyNetSync.Core.ObjectMachine
import StylyNetSync.Core.ObjectSchedule
import StylyNetSync.Core.ObjectHistory
import StylyNetSync.Core.DeviceId
