import FlowEdge.Adapters.MambaStream
import FlowEdge.Client.ActionOverlap
import FlowEdge.Client.RolloutAlignment
import FlowEdge.Heads.DiffusionWorkspace
import FlowEdge.Heads.FlowSessions
import FlowEdge.Jobs.CapsuleCodec
import FlowEdge.Loader.SafetensorsMetadata
import FlowEdge.Loader.SafetensorsPasses
import FlowEdge.Loader.SafetensorsScan
import FlowEdge.Models.MambaStreaming
import FlowEdge.Models.TransformerCache
import FlowEdge.Protocol.DeadlineFlowChoice
import FlowEdge.Protocol.FingerprintChanges
import FlowEdge.Protocol.MessageBuilders
import FlowEdge.Protocol.Snapshot
import FlowEdge.Runtime.ArenaRuns
import FlowEdge.Runtime.ExpertBudget
import FlowEdge.Runtime.TransformerBudget
import FlowEdge.Scheduler.EdfMonotone
import FlowEdge.SharedMemory.RingLayout
import FlowEdge.Telemetry.Histogram
import FlowEdge.Worker.JobCancellation
import FlowEdge.Worker.JobControlService
import FlowEdge.Worker.JobEventLog
import FlowEdge.Worker.JobReserves
import FlowEdge.Worker.JobSessions
