import TvStack.TsReads
import TvStack.SectionPackets
import TvStack.QueueEpoch
import TvStack.FilterGateRuns
import TvStack.AvAccounting
import TvStack.AudioPacking
import TvStack.DiscoveryConverges
import TvStack.EitVersions
import TvStack.EitCollection
import TvStack.CollectorReads
import TvStack.CleanupAttempts
import TvStack.DescramblerSessions
import TvStack.TransportErrors
import TvStack.RecordMirrors
import TvStack.YakisobaRuns
import TvStack.AribStrings
import TvStack.LnbRails
import TvStack.StartCodes
import TvStack.PtsReports
import TvStack.DuplicatePackets
import TvStack.PesPackets
import TvStack.TemporaryUnblocks
import TvStack.BroadcastClock
