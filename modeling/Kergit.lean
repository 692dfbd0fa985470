import Kergit.KeyConfidentiality
import Kergit.KeyAgreement
import Kergit.HealthyUsers
import Kergit.SingleUse
import Kergit.AccessRevocation
import Kergit.ReliableStream
import Kergit.GhostSessions
import Kergit.CacheCoherence
import Kergit.RemovalStands
import Kergit.AcceptOrder
import Kergit.Focus
import Kergit.PriorityQueues
import Kergit.SessionIndex
import Kergit.VoiceMembership
import Kergit.SubscriptionSnapshots
import Kergit.StagedIntents
import Kergit.KeyPairs
import Kergit.WebSocketTransport
import Kergit.IdentityBinding
import Kergit.KeyConvergence
import Kergit.MessageOrder
import Kergit.InviteService
import Kergit.MessageNumbers
import Kergit.TransactionRunner
import Kergit.VoiceResume
import Kergit.ConnectionPool
import Kergit.MessageHistory
import Kergit.LeaveRedelivery
import Kergit.CacheKeys
import Kergit.ChannelSelection
import Kergit.HubUpdate
import Kergit.InFlight
import Kergit.MetadataCodec
import Kergit.Names
import Kergit.ResourceLimits
import Kergit.RoomAccounting
import Kergit.EnvLoader
import Kergit.InviteLinks
import Kergit.KeyBlobs
import Kergit.WriteQueue
import Kergit.WriterShutdown
