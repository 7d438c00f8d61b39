import FlowEdge.Foundation.Layouts
import FlowEdge.Protocol.Trace

/-!
# Messages in memory

How the messages lie in the memory of a host: the fields in the order of their declaration,
without padding, each word in the byte order of the host. The wire bytes of a message are
the bytes of the object up to its wire size.
-/

namespace FlowEdge

open Bytes Layouts Layout

section Records

variable (order : ByteOrder)

def messageKindLayout : Layout MessageKind :=
  (word16 order).coded MessageKind.toCode MessageKind.ofCode MessageKind.toCode_ofCode

def envelopeLayout : Layout MessageEnvelope :=
  ((word32 order).pair <| (word16 order).pair <| (messageKindLayout order).pair <|
    (word32 order).pair <| (word32 order).pair <| (word64 order).pair (word64 order)).record
    (fun envelope => (envelope.magic, envelope.version, envelope.kind, envelope.structSize,
      envelope.flags, envelope.sequence, envelope.sessionId))
    (fun (magic, version, kind, structSize, flags, sequence, sessionId) =>
      { magic, version, kind, structSize, flags, sequence, sessionId })
    (fun _ => rfl) (fun _ => rfl)

def conditionMetadataLayout : Layout ConditionMetadata :=
  ((word32 order).pair <| (word32 order).pair <| (word32 order).pair <| (word32 order).pair <|
    (bytes 16).pair <| (word64 order).pair <| (word64 order).pair <| (word64 order).pair <|
    (word64 order).pair <| (word64 order).pair <| (word64 order).pair (word64 order)).record
    (fun metadata => (metadata.structSize, metadata.protocolVersion, metadata.solver,
      metadata.reserved, metadata.modelDigest, metadata.timestampNs, metadata.deadlineNs,
      metadata.generation, metadata.conditionDim, metadata.actionDim, metadata.solverSteps,
      metadata.remainingNfe))
    (fun (structSize, protocolVersion, solver, reserved, modelDigest, timestampNs, deadlineNs,
      generation, conditionDim, actionDim, solverSteps, remainingNfe) =>
      { structSize, protocolVersion, solver, reserved, modelDigest, timestampNs, deadlineNs,
        generation, conditionDim, actionDim, solverSteps, remainingNfe })
    (fun _ => rfl) (fun _ => rfl)

def actionMetadataLayout : Layout ActionMetadata :=
  ((word32 order).pair <| (word32 order).pair <| (word32 order).pair <| (word32 order).pair <|
    (bytes 16).pair <| (word64 order).pair <| (word64 order).pair <| (word64 order).pair <|
    (word64 order).pair <| (word64 order).pair (word64 order)).record
    (fun metadata => (metadata.structSize, metadata.protocolVersion, metadata.solver,
      metadata.status, metadata.modelDigest, metadata.timestampNs, metadata.deadlineNs,
      metadata.generation, metadata.conditionDim, metadata.actionDim, metadata.remainingNfe))
    (fun (structSize, protocolVersion, solver, status, modelDigest, timestampNs, deadlineNs,
      generation, conditionDim, actionDim, remainingNfe) =>
      { structSize, protocolVersion, solver, status, modelDigest, timestampNs, deadlineNs,
        generation, conditionDim, actionDim, remainingNfe })
    (fun _ => rfl) (fun _ => rfl)

def jobKindLayout : Layout JobKind :=
  (word16 order).coded JobKind.toCode JobKind.ofCode JobKind.toCode_ofCode

def jobStateLayout : Layout JobState :=
  (word16 order).coded JobState.toCode JobState.ofCode JobState.toCode_ofCode

def serviceClassLayout : Layout JobServiceClass :=
  (word32 order).coded JobServiceClass.toCode JobServiceClass.ofCode JobServiceClass.toCode_ofCode

def resultCodeLayout : Layout JobResultCode :=
  (word32 order).coded JobResultCode.toFlags JobResultCode.ofCode JobResultCode.toFlags_ofCode

def eventKindLayout : Layout JobEventKind :=
  (word16 order).coded JobEventKind.toCode JobEventKind.ofCode JobEventKind.toCode_ofCode

def jobDescriptorLayout : Layout JobDescriptor :=
  ((word32 order).pair <| (jobKindLayout order).pair <| (word16 order).pair <| (bytes 16).pair <|
    (word64 order).pair <| (word64 order).pair <| (word64 order).pair <| (word64 order).pair
    (word64 order)).record
    (fun descriptor => (descriptor.protocolVersion, descriptor.kind, descriptor.reserved,
      descriptor.modelDigest, descriptor.stateSchema, descriptor.sessionId, descriptor.generation,
      descriptor.deadlineNs, descriptor.totalWorkUnits))
    (fun (protocolVersion, kind, reserved, modelDigest, stateSchema, sessionId, generation,
      deadlineNs, totalWorkUnits) =>
      { protocolVersion, kind, reserved, modelDigest, stateSchema, sessionId, generation,
        deadlineNs, totalWorkUnits })
    (fun _ => rfl) (fun _ => rfl)

def jobProgressLayout : Layout JobProgress :=
  ((jobStateLayout order).pair <| (word16 order).pair <| (word32 order).pair <|
    (word64 order).pair (word64 order)).record
    (fun progress => (progress.state, progress.reserved0, progress.reserved1,
      progress.completedWorkUnits, progress.remainingWorkUnits))
    (fun (state, reserved0, reserved1, completedWorkUnits, remainingWorkUnits) =>
      { state, reserved0, reserved1, completedWorkUnits, remainingWorkUnits })
    (fun _ => rfl) (fun _ => rfl)

def jobRequestMetadataLayout : Layout JobRequestMetadata :=
  ((word32 order).pair <| (serviceClassLayout order).pair <| (jobDescriptorLayout order).pair <|
    (word64 order).pair (word64 order)).record
    (fun metadata => (metadata.structSize, metadata.serviceClass, metadata.descriptor,
      metadata.timestampNs, metadata.payloadBytes))
    (fun (structSize, serviceClass, descriptor, timestampNs, payloadBytes) =>
      { structSize, serviceClass, descriptor, timestampNs, payloadBytes })
    (fun _ => rfl) (fun _ => rfl)

def jobResultMetadataLayout : Layout JobResultMetadata :=
  ((word32 order).pair <| (serviceClassLayout order).pair <| (jobDescriptorLayout order).pair <|
    (jobProgressLayout order).pair <| (word64 order).pair (word64 order)).record
    (fun metadata => (metadata.structSize, metadata.serviceClass, metadata.descriptor,
      metadata.progress, metadata.timestampNs, metadata.payloadBytes))
    (fun (structSize, serviceClass, descriptor, progress, timestampNs, payloadBytes) =>
      { structSize, serviceClass, descriptor, progress, timestampNs, payloadBytes })
    (fun _ => rfl) (fun _ => rfl)

def jobEventTimingLayout : Layout JobEventTiming :=
  ((word64 order).pair <| (word64 order).pair <| (word64 order).pair (word64 order)).record
    (fun timing => (timing.queueNs, timing.executionNs, timing.endToEndNs, timing.cancellationNs))
    (fun (queueNs, executionNs, endToEndNs, cancellationNs) =>
      { queueNs, executionNs, endToEndNs, cancellationNs })
    (fun _ => rfl) (fun _ => rfl)

def jobEventMetadataLayout : Layout JobEventMetadata :=
  ((word32 order).pair <| (word16 order).pair <| (eventKindLayout order).pair <|
    (jobDescriptorLayout order).pair <| (jobProgressLayout order).pair <| (word64 order).pair <|
    (jobEventTimingLayout order).pair <| (word64 order).pair <| (word32 order).pair <|
    (word32 order).pair <| (word32 order).pair <| (resultCodeLayout order).pair <|
    (serviceClassLayout order).pair (word32 order)).record
    (fun metadata => (metadata.structSize, metadata.protocolVersion, metadata.event,
      metadata.descriptor, metadata.progress, metadata.timestampNs, metadata.timing,
      metadata.relatedGeneration, metadata.workerIndex, metadata.peerWorkerIndex,
      metadata.queueDepth, metadata.resultCode, metadata.serviceClass, metadata.reserved2))
    (fun (structSize, protocolVersion, event, descriptor, progress, timestampNs, timing,
      relatedGeneration, workerIndex, peerWorkerIndex, queueDepth, resultCode, serviceClass,
      reserved2) =>
      { structSize, protocolVersion, event, descriptor, progress, timestampNs, timing,
        relatedGeneration, workerIndex, peerWorkerIndex, queueDepth, resultCode, serviceClass,
        reserved2 })
    (fun _ => rfl) (fun _ => rfl)

end Records

/-! ## Objects -/

/-- An array of a message: what was written, and its initial value elsewhere. -/
def arrayOf {α : Type} (size : Nat) (initial : α) (written : List α) : List α :=
  (written ++ List.replicate (size - written.length) initial).take size

@[simp] theorem length_arrayOf {α : Type} (size : Nat) (initial : α) (written : List α) :
    (arrayOf size initial written).length = size := by
  rw [arrayOf, List.length_take, List.length_append, List.length_replicate]
  omega

/-- The memory of an object of the given size that was zero before the source was copied to its
front. -/
def copyIn (size : Nat) (source : List UInt8) : List UInt8 :=
  source ++ List.replicate (size - source.length) 0

def jobRequestMessageBytes : Nat := jobRequestPayloadOffset + maxJobPayloadBytes

section Objects

variable (order : ByteOrder)

def ConditionMessage.ofMemory (memory : List UInt8) : ConditionMessage where
  envelope := (envelopeLayout order).get memory
  metadata := (conditionMetadataLayout order).get (memory.drop envelopeBytes)
  payload := (word32 order).getAll (maxConditionDim + maxActionDim)
    (memory.drop conditionPayloadOffset)

def ActionMessage.ofMemory (memory : List UInt8) : ActionMessage where
  envelope := (envelopeLayout order).get memory
  metadata := (actionMetadataLayout order).get (memory.drop envelopeBytes)
  action := (word32 order).getAll maxActionDim (memory.drop actionPayloadOffset)

def JobRequestMessage.ofMemory (memory : List UInt8) : JobRequestMessage where
  envelope := (envelopeLayout order).get memory
  metadata := (jobRequestMetadataLayout order).get (memory.drop envelopeBytes)
  payload := (memory.drop jobRequestPayloadOffset).take maxJobPayloadBytes

def JobResultMessage.ofMemory (memory : List UInt8) : JobResultMessage where
  envelope := (envelopeLayout order).get memory
  metadata := (jobResultMetadataLayout order).get (memory.drop envelopeBytes)
  payload := (memory.drop jobResultPayloadOffset).take maxJobPayloadBytes

def JobEventMessage.ofMemory (memory : List UInt8) : JobEventMessage where
  envelope := (envelopeLayout order).get memory
  metadata := (jobEventMetadataLayout order).get (memory.drop envelopeBytes)

def ControlMessage.ofMemory (memory : List UInt8) : ControlMessage where
  envelope := (envelopeLayout order).get memory
  reason := (word64 order).get (memory.drop envelopeBytes)

/-- The elements of the payload that are on the wire. -/
def ConditionMessage.wireValues (message : ConditionMessage) : List UInt32 :=
  (arrayOf (maxConditionDim + maxActionDim) 0 message.payload).take
    (message.conditionCount + message.noiseCount)

def ActionMessage.wireValues (message : ActionMessage) : List UInt32 :=
  (arrayOf maxActionDim 0 message.action).take (min message.metadata.actionDim.toNat maxActionDim)

def JobRequestMessage.wireValues (message : JobRequestMessage) : List UInt8 :=
  (arrayOf maxJobPayloadBytes 0 message.payload).take
    (min message.metadata.payloadBytes.toNat maxJobPayloadBytes)

def JobResultMessage.wireValues (message : JobResultMessage) : List UInt8 :=
  (arrayOf maxJobPayloadBytes 0 message.payload).take
    (min message.metadata.payloadBytes.toNat maxJobPayloadBytes)

/-- `wire_bytes`: the memory of a message up to its wire size. -/
def TraceMessage.wireBytes : TraceMessage → List UInt8
  | .condition message =>
      (envelopeLayout order).put message.envelope ++
        ((conditionMetadataLayout order).put message.metadata ++
          (word32 order).putAll message.wireValues)
  | .action message =>
      (envelopeLayout order).put message.envelope ++
        ((actionMetadataLayout order).put message.metadata ++
          (word32 order).putAll message.wireValues)
  | .jobRequest message =>
      (envelopeLayout order).put message.envelope ++
        ((jobRequestMetadataLayout order).put message.metadata ++ message.wireValues)
  | .jobResult message =>
      (envelopeLayout order).put message.envelope ++
        ((jobResultMetadataLayout order).put message.metadata ++ message.wireValues)
  | .jobEvent message =>
      (envelopeLayout order).put message.envelope ++
        (jobEventMetadataLayout order).put message.metadata
  | .control message =>
      (envelopeLayout order).put message.envelope ++ (word64 order).put message.reason

end Objects

def TraceMessage.wireSize : TraceMessage → Nat
  | .condition message => message.wireSize
  | .action message => message.wireSize
  | .jobRequest message => message.wireSize
  | .jobResult message => message.wireSize
  | .jobEvent _ => jobEventMessageBytes
  | .control _ => controlMessageBytes

end FlowEdge
