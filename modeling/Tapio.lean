import Tapio.Transition.Machine
import Tapio.Transition.Locality
import Tapio.Correlation.History
import Tapio.Numeric.Saturating
import Tapio.Sequences.Tracking
import Tapio.Controller.Regressions
import Tapio.Wire.Reasoning
import Tapio.Wire.ForwardCompatible
import Tapio.Ebpf.StorageRuns
import Tapio.Ebpf.Cleanup
import Tapio.Ebpf.Emission
import Tapio.Ebpf.ExitFilter
import Tapio.Agent.CarrierRace
import Tapio.Agent.Descriptors
import Tapio.Agent.Health
import Tapio.Agent.Judgement
import Tapio.Sink.Timestamps
import Tapio.Profile.Delivery
import Tapio.Profile.Documented
import Tapio.Controller.Registration
import Tapio.Controller.Sequences
import Tapio.Controller.Isolation
import Tapio.Controller.Convergence
import Tapio.Controller.Polling
import Tapio.Agent.ConfigUrl
import Tapio.Agent.Exchange
import Tapio.Sink.Limits
import Tapio.Sink.Http
import Tapio.Sink.BodySize
import Tapio.Agent.PmcIntervals
import Tapio.Cli.Watch
import Tapio.Agent.MemoryLimit
import Tapio.Agent.Evidence
import Tapio.Controller.Compatibility
import Tapio.Ebpf.IgnoreList
import Tapio.Agent.StorageSeverity
import Tapio.Common.Layouts
import Tapio.Cli.Mcp
import Tapio.Ebpf.RttSpike
import Tapio.Ebpf.ThreadExits
import Tapio.Agent.MetricsServer
import Tapio.Agent.PmcCascade
import Tapio.Cli.Rendering
import Tapio.Sink.HttpFifo
import Tapio.Sink.Otlp
import Tapio.Transition.Trace
import Tapio.Transition.Simulation
import Tapio.Sink.Order
import Tapio.Controller.Delivery
import Tapio.Controller.DeliveryRefinement
import Tapio.Pipeline.Records
import Tapio.Pipeline.System
import Tapio.Pipeline.Provenance
import Tapio.Pipeline.Conservation
import Tapio.Protobuf.Varint
import Tapio.Protobuf.Message
import Tapio.Protobuf.Schema
import Tapio.Sink.OtlpRequest
import Tapio.Sink.OtlpBuffer
import Tapio.Sink.OtlpRuns
import Tapio.Sink.FanOut
import Tapio.Json.Parse
import Tapio.Json.Spelling
import Tapio.Json.Ordered
import Tapio.Json.Written
import Tapio.Json.Pretty
import Tapio.Json.Accepted
import Tapio.Wire.RequestEncoding
import Tapio.Wire.RoundTrip
import Tapio.Wire.StatusEncoding
import Tapio.Controller.Router
import Tapio.Agent.Arrival
import Tapio.Agent.Transport
