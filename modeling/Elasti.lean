import Elasti.Breaker
import Elasti.ScaleTarget
import Elasti.Modes
import Elasti.ScalingRuns
import Elasti.RoutingRuns
import Elasti.Cluster
import Elasti.Cooldown
import Elasti.KedaPause
import Elasti.Deletion
import Elasti.SliceCleanup
import Elasti.Redirect
import Elasti.Informers
import Elasti.GoJson
import Elasti.Prometheus
import Elasti.SemaphoreRuns
import Elasti.BreakerLimits
import Elasti.RetrySlots
import Elasti.QueueSize
import Elasti.KeyedRuns
import Elasti.OperatorRPC
import Elasti.WatchScope
import Elasti.Reconciler
import Elasti.TargetInformers
import Elasti.CRDDirectory
import Elasti.HostTraffic
import Elasti.RPCLocks
import Elasti.ScaleDecision
import Elasti.SliceIsolation
import Elasti.StatusPatch
import Elasti.TryOutcome
import Elasti.InformerLeaks
import Elasti.CronWindow
import Elasti.Rounding
import Elasti.ScaleToZero
import Elasti.ScalerVerdict
import Elasti.SliceShape
import Elasti.GoURL
import Elasti.ProxyTarget
import Elasti.ServerAddress
import Elasti.GoRegexp
import Elasti.HostExtraction
import Elasti.HostTarget
import Elasti.ResponseOnce
import Elasti.ProbePath
import Elasti.GoHeader
import Elasti.ProbeRules
import Elasti.GoQuery
import Elasti.QueryEscape
import Elasti.DialBackoff
import Elasti.GeneratedNames
import Elasti.InformerKeys
import Elasti.InformerStops
import Elasti.GoJsonCodec
import Elasti.SpecText
import Elasti.CRDFeed
import Elasti.ReadyCache
import Elasti.LabelSelector
import Elasti.PrivateMirror
import Elasti.ResolverRefresh
import Elasti.TargetReady
import Elasti.DialGuard
import Elasti.Startup
import Elasti.ForwardedRequest
import Elasti.PromHeaders
import Elasti.Confinement
import Elasti.PromDecision
import Elasti.TickPasses
