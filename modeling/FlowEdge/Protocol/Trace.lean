import FlowEdge.Foundation.Bytes
import FlowEdge.Protocol.JobEvents

/-!
# Reading a Relay trace

The decoder of `trace.cc`. Every access to the record, to a fixed message array and
to the destination is checked here, and one that lies outside ends the decoding in
`DecodeFault.outOfBounds`, which the source does not have: there such an access is
undefined. A record that the source refuses ends in `DecodeFault.rejected` with the
text of its error.
-/

namespace FlowEdge

open Bytes

inductive DecodeFault where
  | rejected (message : String)
  | outOfBounds
  deriving DecidableEq

abbrev Decode := Except DecodeFault

/-- A checked access. -/
def Decode.checked {α : Type} : Option α → Decode α
  | some value => .ok value
  | none => .error .outOfBounds

def readU16 (source : List UInt8) (offset : Nat) : Decode UInt16 :=
  Decode.checked ((readLe source offset 2).map UInt16.ofNat)

def readU32 (source : List UInt8) (offset : Nat) : Decode UInt32 :=
  Decode.checked ((readLe source offset 4).map UInt32.ofNat)

def readU64 (source : List UInt8) (offset : Nat) : Decode UInt64 :=
  Decode.checked ((readLe source offset 8).map UInt64.ofNat)

def readDigest (source : List UInt8) (offset : Nat) : Decode ModelDigest :=
  Decode.checked ((readRange source offset 16).map fun bytes =>
    Vector.ofFn fun index => bytes.getD index 0)

def subspan (source : List UInt8) (offset : Nat) : Decode (List UInt8) :=
  Decode.checked (if offset ≤ source.length then some (source.drop offset) else none)

def decodeEnvelope (source : List UInt8) : Decode MessageEnvelope := do
  let magic ← readU32 source 0
  let version ← readU16 source 4
  let kind ← readU16 source 6
  let structSize ← readU32 source 8
  let flags ← readU32 source 12
  let sequence ← readU64 source 16
  let sessionId ← readU64 source 24
  return { magic, version, kind := .ofCode kind, structSize, flags, sequence, sessionId }

def decodeConditionMetadata (source : List UInt8) : Decode ConditionMetadata := do
  let structSize ← readU32 source 0
  let protocolVersion ← readU32 source 4
  let solver ← readU32 source 8
  let reserved ← readU32 source 12
  let modelDigest ← readDigest source 16
  let timestampNs ← readU64 source 32
  let deadlineNs ← readU64 source 40
  let generation ← readU64 source 48
  let conditionDim ← readU64 source 56
  let actionDim ← readU64 source 64
  let solverSteps ← readU64 source 72
  let remainingNfe ← readU64 source 80
  return { structSize, protocolVersion, solver, reserved, modelDigest, timestampNs, deadlineNs,
           generation, conditionDim, actionDim, solverSteps, remainingNfe }

def decodeActionMetadata (source : List UInt8) : Decode ActionMetadata := do
  let structSize ← readU32 source 0
  let protocolVersion ← readU32 source 4
  let solver ← readU32 source 8
  let status ← readU32 source 12
  let modelDigest ← readDigest source 16
  let timestampNs ← readU64 source 32
  let deadlineNs ← readU64 source 40
  let generation ← readU64 source 48
  let conditionDim ← readU64 source 56
  let actionDim ← readU64 source 64
  let remainingNfe ← readU64 source 72
  return { structSize, protocolVersion, solver, status, modelDigest, timestampNs, deadlineNs,
           generation, conditionDim, actionDim, remainingNfe }

def decodeJobDescriptor (source : List UInt8) : Decode JobDescriptor := do
  let protocolVersion ← readU32 source 0
  let kind ← readU16 source 4
  let reserved ← readU16 source 6
  let modelDigest ← readDigest source 8
  let stateSchema ← readU64 source 24
  let sessionId ← readU64 source 32
  let generation ← readU64 source 40
  let deadlineNs ← readU64 source 48
  let totalWorkUnits ← readU64 source 56
  return { protocolVersion, kind := .ofCode kind, reserved, modelDigest, stateSchema, sessionId,
           generation, deadlineNs, totalWorkUnits }

def decodeJobProgress (source : List UInt8) : Decode JobProgress := do
  let state ← readU16 source 0
  let reserved0 ← readU16 source 2
  let reserved1 ← readU32 source 4
  let completedWorkUnits ← readU64 source 8
  let remainingWorkUnits ← readU64 source 16
  return { state := .ofCode state, reserved0, reserved1, completedWorkUnits, remainingWorkUnits }

def decodeJobRequestMetadata (source : List UInt8) : Decode JobRequestMetadata := do
  let structSize ← readU32 source 0
  let serviceClass ← readU32 source 4
  let descriptor ← decodeJobDescriptor (← subspan source 8)
  let timestampNs ← readU64 source 72
  let payloadBytes ← readU64 source 80
  return { structSize, serviceClass := .ofCode serviceClass, descriptor, timestampNs,
           payloadBytes }

def decodeJobResultMetadata (source : List UInt8) : Decode JobResultMetadata := do
  let structSize ← readU32 source 0
  let serviceClass ← readU32 source 4
  let descriptor ← decodeJobDescriptor (← subspan source 8)
  let progress ← decodeJobProgress (← subspan source 72)
  let timestampNs ← readU64 source 96
  let payloadBytes ← readU64 source 104
  return { structSize, serviceClass := .ofCode serviceClass, descriptor, progress, timestampNs,
           payloadBytes }

def decodeJobEventMetadata (source : List UInt8) : Decode JobEventMetadata := do
  let structSize ← readU32 source 0
  let protocolVersion ← readU16 source 4
  let event ← readU16 source 6
  let descriptor ← decodeJobDescriptor (← subspan source 8)
  let progress ← decodeJobProgress (← subspan source 72)
  let timestampNs ← readU64 source 96
  let queueNs ← readU64 source 104
  let executionNs ← readU64 source 112
  let endToEndNs ← readU64 source 120
  let cancellationNs ← readU64 source 128
  let relatedGeneration ← readU64 source 136
  let workerIndex ← readU32 source 144
  let peerWorkerIndex ← readU32 source 148
  let queueDepth ← readU32 source 152
  let resultCode ← readU32 source 156
  let serviceClass ← readU32 source 160
  let reserved2 ← readU32 source 164
  return { structSize, protocolVersion, event := .ofCode event, descriptor, progress, timestampNs,
           timing := { queueNs, executionNs, endToEndNs, cancellationNs }, relatedGeneration,
           workerIndex, peerWorkerIndex, queueDepth, resultCode := .ofCode resultCode,
           serviceClass := .ofCode serviceClass, reserved2 }

/-- The kinds that a trace may hold. -/
def validKind (kind : MessageKind) : Bool :=
  kind = .condition ∨ kind = .action ∨ kind = .shutdown ∨ kind = .jobRequest ∨
    kind = .jobResult ∨ kind = .jobEvent

/-- The loop that fills `count` elements of a float array from `index` on. -/
def copyFloats (source : List UInt8) (base : Nat) :
    (count index : Nat) → (array : List UInt32) → Decode (List UInt32)
  | 0, _, array => .ok array
  | count + 1, index, array => do
      let value ← readU32 source (base + index * floatBytes)
      if index < array.length then
        copyFloats source base count (index + 1) (array.set index value)
      else
        .error .outOfBounds

/-- Copy the rest of the record into a payload array of a job message. -/
def copyPayload (source : List UInt8) (offset : Nat) : Decode (List UInt8) := do
  let rest ← subspan source offset
  if rest.length ≤ maxJobPayloadBytes then return rest else .error .outOfBounds

/-- Copy the first `count` bytes of a message of `messageBytes` bytes to the destination. -/
def copyOut {α : Type} (count messageBytes destinationBytes : Nat) (message : α) : Decode α :=
  if count ≤ messageBytes ∧ count ≤ destinationBytes then .ok message else .error .outOfBounds

inductive TraceMessage where
  | condition (message : ConditionMessage)
  | action (message : ActionMessage)
  | jobRequest (message : JobRequestMessage)
  | jobResult (message : JobResultMessage)
  | jobEvent (message : JobEventMessage)
  | control (message : ControlMessage)
  deriving DecidableEq

def decodeCondition (source : List UInt8) (envelope : MessageEnvelope)
    (destinationBytes : Nat) : Decode TraceMessage :=
  if source.length < conditionPayloadOffset ∨
      (source.length - conditionPayloadOffset) % floatBytes ≠ 0 then
    .error (.rejected "Relay trace encoded condition size is invalid")
  else do
    let metadata ← decodeConditionMetadata (← subspan source envelopeBytes)
    let message : ConditionMessage :=
      { envelope, metadata, payload := List.replicate (maxConditionDim + maxActionDim) 0 }
    if message.wireSize ≠ source.length then
      .error (.rejected "Relay trace encoded condition dimensions are invalid")
    else
      let payload ← copyFloats source conditionPayloadOffset
        (message.conditionCount + message.noiseCount) 0 message.payload
      let message := { message with payload }
      if message.validate ≠ .success then
        .error (.rejected "Relay trace decoded condition is invalid")
      else
        copyOut source.length
          (conditionPayloadOffset + (maxConditionDim + maxActionDim) * floatBytes)
          destinationBytes (.condition message)

/-- The action branch. Its loop runs to the declared width, not to the width that
`wire_size` cuts to the array. -/
def decodeAction (source : List UInt8) (envelope : MessageEnvelope)
    (destinationBytes : Nat) : Decode TraceMessage :=
  if source.length < actionPayloadOffset ∨
      (source.length - actionPayloadOffset) % floatBytes ≠ 0 then
    .error (.rejected "Relay trace encoded action size is invalid")
  else do
    let metadata ← decodeActionMetadata (← subspan source envelopeBytes)
    let message : ActionMessage :=
      { envelope, metadata, action := List.replicate maxActionDim 0 }
    if message.wireSize ≠ source.length then
      .error (.rejected "Relay trace encoded action dimensions are invalid")
    else
      let action ← copyFloats source actionPayloadOffset message.metadata.actionDim.toNat 0
        message.action
      let message := { message with action }
      if message.validate ≠ .success then
        .error (.rejected "Relay trace decoded action is invalid")
      else
        copyOut source.length (actionPayloadOffset + maxActionDim * floatBytes) destinationBytes
          (.action message)

def decodeJobRequest (source : List UInt8) (envelope : MessageEnvelope)
    (destinationBytes : Nat) : Decode TraceMessage :=
  if source.length < jobRequestPayloadOffset ∨
      source.length - jobRequestPayloadOffset > maxJobPayloadBytes then
    .error (.rejected "Relay trace encoded job request size is invalid")
  else do
    let metadata ← decodeJobRequestMetadata (← subspan source envelopeBytes)
    let message : JobRequestMessage := { envelope, metadata }
    if message.wireSize ≠ source.length then
      .error (.rejected "Relay trace encoded job request payload is invalid")
    else
      let payload ← copyPayload source jobRequestPayloadOffset
      let message := { message with payload }
      if message.validate ≠ .success then
        .error (.rejected "Relay trace decoded job request is invalid")
      else
        copyOut source.length (jobRequestPayloadOffset + maxJobPayloadBytes) destinationBytes
          (.jobRequest message)

def decodeJobResult (source : List UInt8) (envelope : MessageEnvelope)
    (destinationBytes : Nat) : Decode TraceMessage :=
  if source.length < jobResultPayloadOffset ∨
      source.length - jobResultPayloadOffset > maxJobPayloadBytes then
    .error (.rejected "Relay trace encoded job result size is invalid")
  else do
    let metadata ← decodeJobResultMetadata (← subspan source envelopeBytes)
    let message : JobResultMessage := { envelope, metadata }
    if message.wireSize ≠ source.length then
      .error (.rejected "Relay trace encoded job result payload is invalid")
    else
      let payload ← copyPayload source jobResultPayloadOffset
      let message := { message with payload }
      if message.validate ≠ .success then
        .error (.rejected "Relay trace decoded job result is invalid")
      else
        copyOut source.length (jobResultPayloadOffset + maxJobPayloadBytes) destinationBytes
          (.jobResult message)

def decodeJobEvent (source : List UInt8) (envelope : MessageEnvelope)
    (destinationBytes : Nat) : Decode TraceMessage :=
  if source.length ≠ jobEventMessageBytes then
    .error (.rejected "Relay trace encoded job event size is invalid")
  else do
    let metadata ← decodeJobEventMetadata (← subspan source envelopeBytes)
    let message : JobEventMessage := { envelope, metadata }
    if message.validate ≠ .success then
      .error (.rejected "Relay trace decoded job event is invalid")
    else
      copyOut jobEventMessageBytes jobEventMessageBytes destinationBytes (.jobEvent message)

def decodeControl (source : List UInt8) (envelope : MessageEnvelope)
    (destinationBytes : Nat) : Decode TraceMessage :=
  if source.length ≠ controlMessageBytes then
    .error (.rejected "Relay trace encoded control size is invalid")
  else do
    let reason ← readU64 source envelopeBytes
    let message : ControlMessage := { envelope, reason }
    if validEnvelope message.envelope .shutdown controlMessageBytes = false then
      .error (.rejected "Relay trace decoded control message is invalid")
    else
      copyOut controlMessageBytes controlMessageBytes destinationBytes (.control message)

/-- `decode_message`, for a destination of the given size. -/
def decodeMessage (source : List UInt8) (destinationBytes : Nat) : Decode TraceMessage :=
  if source.length < envelopeBytes ∨ source.length > destinationBytes then
    .error (.rejected "Relay trace encoded message size is invalid")
  else do
    let envelope ← decodeEnvelope source
    if envelope.magic ≠ messageMagic ∨ envelope.version ≠ messageVersion ∨
        validKind envelope.kind = false ∨ envelope.structSize.toNat ≠ source.length then
      .error (.rejected "Relay trace encoded envelope is invalid")
    else if envelope.kind = .condition then decodeCondition source envelope destinationBytes
    else if envelope.kind = .action then decodeAction source envelope destinationBytes
    else if envelope.kind = .jobRequest then decodeJobRequest source envelope destinationBytes
    else if envelope.kind = .jobResult then decodeJobResult source envelope destinationBytes
    else if envelope.kind = .jobEvent then decodeJobEvent source envelope destinationBytes
    else decodeControl source envelope destinationBytes

def maxTraceMessageBytes : Nat := jobResultPayloadOffset + maxJobPayloadBytes

end FlowEdge
