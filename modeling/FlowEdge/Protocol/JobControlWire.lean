import FlowEdge.Protocol.JobControl
import FlowEdge.Protocol.WireLayout

/-!
# Job control messages in memory
-/

namespace FlowEdge

open Bytes Layouts Layout

def JobControlOperation.ofCode (code : UInt32) : JobControlOperation :=
  if code = 1 then .status
  else if code = 2 then .drainWorker
  else if code = 3 then .resumeWorker
  else if code = 4 then .shutdown
  else if code = 5 then .recoverWorker
  else .undeclared code

def JobControlOperation.toCode : JobControlOperation → UInt32
  | .status => 1
  | .drainWorker => 2
  | .resumeWorker => 3
  | .shutdown => 4
  | .recoverWorker => 5
  | .undeclared code => code

def JobControlCode.ofCode (code : UInt32) : JobControlCode :=
  if code = 0 then .success
  else if code = 1 then .invalidRequest
  else if code = 2 then .invalidWorker
  else if code = 3 then .alreadyDraining
  else if code = 4 then .wouldStrandWork
  else if code = 5 then .workerNotDrained
  else if code = 6 then .workerQuarantined
  else if code = 7 then .workerNotQuarantined
  else .undeclared code

def JobControlCode.toCode : JobControlCode → UInt32
  | .success => 0
  | .invalidRequest => 1
  | .invalidWorker => 2
  | .alreadyDraining => 3
  | .wouldStrandWork => 4
  | .workerNotDrained => 5
  | .workerQuarantined => 6
  | .workerNotQuarantined => 7
  | .undeclared code => code

theorem JobControlOperation.toCode_ofCode (code : UInt32) :
    (JobControlOperation.ofCode code).toCode = code := by
  simp only [JobControlOperation.ofCode, apply_ite JobControlOperation.toCode]
  simp only [JobControlOperation.toCode, Words.ite_code]

theorem JobControlCode.toCode_ofCode (code : UInt32) :
    (JobControlCode.ofCode code).toCode = code := by
  simp only [JobControlCode.ofCode, apply_ite JobControlCode.toCode]
  simp only [JobControlCode.toCode, Words.ite_code]

section Records

variable (order : ByteOrder)

def jobControlOperationLayout : Layout JobControlOperation :=
  (word32 order).coded JobControlOperation.toCode JobControlOperation.ofCode
    JobControlOperation.toCode_ofCode

def jobControlCodeLayout : Layout JobControlCode :=
  (word32 order).coded JobControlCode.toCode JobControlCode.ofCode JobControlCode.toCode_ofCode

def jobControlRequestMetadataLayout : Layout JobControlRequestMetadata :=
  ((word32 order).pair <| (word32 order).pair <| (jobControlOperationLayout order).pair <|
    (word32 order).pair (word64 order)).record
    (fun metadata => (metadata.structSize, metadata.protocolVersion, metadata.operation,
      metadata.workerIndex, metadata.reserved))
    (fun (structSize, protocolVersion, operation, workerIndex, reserved) =>
      { structSize, protocolVersion, operation, workerIndex, reserved })
    (fun _ => rfl) (fun _ => rfl)

def jobControlStatusLayout : Layout JobControlStatus :=
  ((word32 order).pair <| (word32 order).pair <| (word32 order).pair <| (word32 order).pair <|
    (word32 order).pair <| (word32 order).pair <| (word32 order).pair <| (word32 order).pair <|
    (word64 order).pair <| (word64 order).pair <| (word64 order).pair <| (word64 order).pair <|
    (word64 order).pair <| (word64 order).pair <| (word64 order).pair <| (word64 order).pair
    (word64 order)).record
    (fun status => (status.workerCount, status.acceptingWorkers, status.busyWorkers,
      status.queuedJobs, status.drainingMask, status.drainedMask, status.boundMask,
      status.quarantinedMask, status.workerFailures, status.workerQuarantines,
      status.qosRejections, status.requestsReceived, status.requestsAccepted,
      status.requestsRejected, status.resultsPublished, status.corruptInputs,
      status.publishBlocked))
    (fun (workerCount, acceptingWorkers, busyWorkers, queuedJobs, drainingMask, drainedMask,
      boundMask, quarantinedMask, workerFailures, workerQuarantines, qosRejections,
      requestsReceived, requestsAccepted, requestsRejected, resultsPublished, corruptInputs,
      publishBlocked) =>
      { workerCount, acceptingWorkers, busyWorkers, queuedJobs, drainingMask, drainedMask,
        boundMask, quarantinedMask, workerFailures, workerQuarantines, qosRejections,
        requestsReceived, requestsAccepted, requestsRejected, resultsPublished, corruptInputs,
        publishBlocked })
    (fun _ => rfl) (fun _ => rfl)

def jobControlResponseMetadataLayout : Layout JobControlResponseMetadata :=
  ((word32 order).pair <| (word32 order).pair <| (jobControlOperationLayout order).pair <|
    (jobControlCodeLayout order).pair <| (word32 order).pair <| (word32 order).pair
    (jobControlStatusLayout order)).record
    (fun metadata => (metadata.structSize, metadata.protocolVersion, metadata.operation,
      metadata.code, metadata.workerIndex, metadata.reserved, metadata.status))
    (fun (structSize, protocolVersion, operation, code, workerIndex, reserved, status) =>
      { structSize, protocolVersion, operation, code, workerIndex, reserved, status })
    (fun _ => rfl) (fun _ => rfl)

def JobControlRequest.ofMemory (memory : List UInt8) : JobControlRequest where
  envelope := (envelopeLayout order).get memory
  metadata := (jobControlRequestMetadataLayout order).get (memory.drop envelopeBytes)

/-- The bytes of the object that the service publishes. -/
def JobControlResponse.asBytes (response : JobControlResponse) : List UInt8 :=
  (envelopeLayout order).put response.envelope ++
    (jobControlResponseMetadataLayout order).put response.metadata

end Records

end FlowEdge
