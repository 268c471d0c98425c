import Blert.Bank.Api
import Blert.Lifecycle.Dormancy
import Blert.Lifecycle.Membership
import Blert.Lifecycle.Progress
import Blert.Lifecycle.Termination
import Blert.Live.Attendance
import Blert.Manager.Meeting
import Blert.Merging.Length
import Blert.Merging.Matchings
import Blert.Merging.Optimality
import Blert.Merging.Partition
import Blert.Merging.Remapping
import Blert.Merging.Trust
import Blert.Names.Consolidation
import Blert.Names.Parties
import Blert.Redis.Append
import Blert.Redis.Belonging
import Blert.Redis.Projection
import Blert.Redis.Sessions
import Blert.Repository.ChallengeData
import Blert.Socket.Announced
import Blert.Socket.Entitlement
import Blert.Streams.Closed
import Blert.Bcf.Exported
import Blert.Timeline.Correction
import Blert.Timeline.Reconstruction
import Blert.Timeline.Derivation
import Blert.Timeline.Ties
import Blert.Theatre.Safety
import Blert.Theatre.Deaths
import Blert.Theatre.MaidenSpawn
import Blert.Colosseum.Recorded
import Blert.Processing.Sessions
import Blert.Names.Statistics
import Blert.Live.Replay
import Blert.Live.Counts
import Blert.Bcf.Validation
import Blert.Bcf.Resolver
import Blert.Gear.History
import Blert.Web.Convolution
import Blert.Web.Paging
import Blert.Web.Feed
import Blert.Web.QueryParser
import Blert.Web.Filters
import Blert.Manager.HashFields
import Blert.Redis.StageStream
