import Parp.AccessRanges
import Parp.AppBindTable
import Parp.AppProcessIndexLaws
import Parp.AppReclaimGating
import Parp.CgroupRouterCoverage
import Parp.ChronologicalSplit
import Parp.ColdReclaimLaws
import Parp.ConfigFile
import Parp.ContextReaders
import Parp.DailyExecutorLaws
import Parp.DailySchedule
import Parp.DatasetLabelsLaws
import Parp.DatasetResume
import Parp.DebugfsDelivery
import Parp.DesktopStreamLaws
import Parp.DiskSwapOutLaws
import Parp.EbpfEventLaws
import Parp.EffectiveTierReference
import Parp.EvidenceAdmission
import Parp.EvidenceLookup
import Parp.EvidenceWindowRuns
import Parp.FramedBinary
import Parp.FrontierSelection
import Parp.IdleBitmap
import Parp.LegacyUpdates
import Parp.LifecycleLaws
import Parp.LostSamples
import Parp.MemcgLruLaws
import Parp.OnlineCausalMarkovRuns
import Parp.OperationBudget
import Parp.OperationLookupLaws
import Parp.PageHotsetFlushes
import Parp.PageHotsetTimelines
import Parp.PredictRequests
import Parp.PredictionTime
import Parp.PsiBrake
import Parp.PulseWorkerProtocol
import Parp.RandomClaim
import Parp.RankProp
import Parp.RateTopUp
import Parp.RecentReserve
import Parp.ReclaimBinScores
import Parp.ReclaimDaemonWrites
import Parp.ReclaimWorkload
import Parp.RegionObservationLaws
import Parp.RegionResolve
import Parp.RegionRows
import Parp.RetrySchedulerAuthority
import Parp.RollingCharges
import Parp.RunIsolation
import Parp.ScanBudgetAdapter
import Parp.ScanBudgetReference
import Parp.ScanFactors
import Parp.ScanScaling
import Parp.SegmentLabels
import Parp.SequenceProtocol
import Parp.SnapshotWire
import Parp.SortFolioRaces
import Parp.Test4BBallastSession
import Parp.Test4BReclaimSession
import Parp.WorkingsetActions
import Parp.ZswapQuotas
