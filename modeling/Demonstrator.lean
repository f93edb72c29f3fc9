import Demonstrator.Transition.Runs
import Demonstrator.Transition.Exchange
import Demonstrator.Celix.SampleQueue.Sections
import Demonstrator.Celix.SampleQueue.Clients
import Demonstrator.Celix.SampleQueue.Transfer
import Demonstrator.Celix.SampleQueue.Histories
import Demonstrator.Celix.SampleQueue.Conservation
import Demonstrator.Celix.SampleQueue.Bookkeeping
import Demonstrator.Celix.SampleQueue.Handover
import Demonstrator.Celix.Worker.StopRequest
import Demonstrator.Arithmetic.Shares
import Demonstrator.Arithmetic.Int32
import Demonstrator.Java.Util.ConfigUtils
import Demonstrator.Java.Coordinator.Service
import Demonstrator.Java.Coordinator.Stub
import Demonstrator.Java.Coordinator.Kubernetes
import Demonstrator.Java.Coordinator.Scaling
import Demonstrator.Java.Coordinator.SetThenGet
import Demonstrator.Java.Coordinator.Contract
import Demonstrator.Java.Coordinator.Backend
import Demonstrator.Java.AutoScaler.Config
import Demonstrator.Java.AutoScaler.Polls
import Demonstrator.Java.AutoScaler.Range
import Demonstrator.Java.Servlet.Parameters
import Demonstrator.Java.Servlet.ScaleProducer
import Demonstrator.Java.Servlet.ProductionRate
import Demonstrator.Java.Pipeline.Rounds
import Demonstrator.Java.Pipeline.Queryable
import Demonstrator.Celix.Producer.SampleRate
import Demonstrator.Java.Coordinator.ScaleRequests
import Demonstrator.Java.Coordinator.Reconfiguration
import Demonstrator.Java.Pipeline.Capacity
import Demonstrator.Java.Pipeline.Throughput
import Demonstrator.Celix.SampleQueue.Removal
import Demonstrator.Fifo.Bounded
import Demonstrator.Java.SampleQueue.SimpleSampleQueue
import Demonstrator.Java.SampleQueue.Interchange
import Demonstrator.Arithmetic.Truncation
import Demonstrator.Java.Servlet.Utilisation
import Demonstrator.Celix.DataStore.Buffers
import Demonstrator.Celix.DataStore.Ownership
import Demonstrator.Text.Patterns
import Demonstrator.Text.Words
import Demonstrator.Java.LogSender.LogsToTCP
import Demonstrator.Java.LogSender.RoundTrip
import Demonstrator.Celix.Processor.Receive
import Demonstrator.Celix.Processor.Services
import Demonstrator.Celix.Processor.QueueReferences
import Demonstrator.Celix.Processor.StoreReferences
import Demonstrator.Celix.Processor.Removal
import Demonstrator.Celix.StatisticTracker.Polling
import Demonstrator.Celix.StatisticTracker.References
import Demonstrator.Celix.Removal
import Demonstrator.Java.Coordinator.Division
import Demonstrator.Java.AutoScaler.Decision
import Demonstrator.Java.AutoScaler.Steady
import Demonstrator.Java.AutoScaler.Headroom
import Demonstrator.Java.Util.StringValues
import Demonstrator.Java.Coordinator.KubernetesConfig
import Demonstrator.Arithmetic.FirstPlaces
import Demonstrator.Java.Coordinator.ConfiguredNames
import Demonstrator.Java.Coordinator.StubRuns
import Demonstrator.Celix.SampleQueue.Batches
import Demonstrator.Celix.DataStore.Batches
import Demonstrator.Celix.DataStore.Bookkeeping
import Demonstrator.Java.Pipeline.BatchStore
import Demonstrator.Celix.Producer.Rounds
import Demonstrator.Celix.Producer.Throughput
import Demonstrator.Java.Producer.Production
import Demonstrator.Celix.SampleQueue.Answers
import Demonstrator.Java.DataStore.TimeQuery
import Demonstrator.Java.Producer.Cancellation
import Demonstrator.Java.Utilization.UtilitizationAggegrator
import Demonstrator.Collections.LinkedMap
import Demonstrator.Java.Servlet.TimestampMap
import Demonstrator.Collections.SortedSet
import Demonstrator.Java.Servlet.Names
import Demonstrator.Text.CodeUnits
import Demonstrator.Java.Servlet.Statistics
import Demonstrator.Java.Servlet.DoPost
import Demonstrator.Java.Servlet.Registration
import Demonstrator.Java.Util.NameLists
import Demonstrator.Java.Producer.SampleRate
import Demonstrator.Java.LogSender.Connections
import Demonstrator.Java.Pipeline.Averages
import Demonstrator.Collections.FirstMatch
import Demonstrator.Java.ClusterInfo.DockerHelper
import Demonstrator.Web.RenderStats
import Demonstrator.Celix.Processor.Rounds
import Demonstrator.Celix.Producer.BurstLength
import Demonstrator.Celix.Processor.Forwarding
import Demonstrator.Celix.OneSecond
import Demonstrator.Collections.Tallies
import Demonstrator.Java.Pipeline.EndToEnd
import Demonstrator.Java.Pipeline.Order
import Demonstrator.Java.Lifecycle.Loops
import Demonstrator.Web.Polling
import Demonstrator.Web.Slider
import Demonstrator.Web.UtilisationGraph
import Demonstrator.Celix.Producer.Control
import Demonstrator.Celix.Producer.Utilization
import Demonstrator.Json.Documents
import Demonstrator.Json.Generator
import Demonstrator.Java.Servlet.DoGet
import Demonstrator.Collections.Recent
import Demonstrator.Java.Servlet.History
import Demonstrator.Java.Servlet.Counts
import Demonstrator.Java.ClusterInfo.UpdateLoop
import Demonstrator.Transition.Simulation
import Demonstrator.Celix.Processor.Refinement
