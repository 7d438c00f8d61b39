import FlowEdge.Foundation.BitMasks
import FlowEdge.Protocol.Messages

/-!
# Job control messages

The requests that administer a pool of job workers and the responses with the status of
its lanes, with their validators.
-/

namespace FlowEdge

open BitMasks

def jobControlProtocolVersion : UInt32 := 2
def allJobWorkers : UInt32 := 0xffffffff
def maxJobControlWorkers : UInt32 := 8

inductive JobControlOperation where
  | status
  | drainWorker
  | resumeWorker
  | shutdown
  | recoverWorker
  | undeclared (code : UInt32)
  deriving DecidableEq

inductive JobControlCode where
  | success
  | invalidRequest
  | invalidWorker
  | alreadyDraining
  | wouldStrandWork
  | workerNotDrained
  | workerQuarantined
  | workerNotQuarantined
  | undeclared (code : UInt32)
  deriving DecidableEq

structure JobControlRequestMetadata where
  structSize : UInt32 := 24
  protocolVersion : UInt32 := jobControlProtocolVersion
  operation : JobControlOperation := .status
  workerIndex : UInt32 := allJobWorkers
  reserved : UInt64 := 0
  deriving DecidableEq

structure JobControlStatus where
  workerCount : UInt32 := 0
  acceptingWorkers : UInt32 := 0
  busyWorkers : UInt32 := 0
  queuedJobs : UInt32 := 0
  drainingMask : UInt32 := 0
  drainedMask : UInt32 := 0
  boundMask : UInt32 := 0
  quarantinedMask : UInt32 := 0
  workerFailures : UInt64 := 0
  workerQuarantines : UInt64 := 0
  qosRejections : UInt64 := 0
  requestsReceived : UInt64 := 0
  requestsAccepted : UInt64 := 0
  requestsRejected : UInt64 := 0
  resultsPublished : UInt64 := 0
  corruptInputs : UInt64 := 0
  publishBlocked : UInt64 := 0
  deriving DecidableEq

structure JobControlResponseMetadata where
  structSize : UInt32 := 128
  protocolVersion : UInt32 := jobControlProtocolVersion
  operation : JobControlOperation := .status
  code : JobControlCode := .success
  workerIndex : UInt32 := allJobWorkers
  reserved : UInt32 := 0
  status : JobControlStatus := {}
  deriving DecidableEq

structure JobControlRequest where
  envelope : MessageEnvelope := { kind := .jobControlRequest }
  metadata : JobControlRequestMetadata := {}
  deriving DecidableEq

structure JobControlResponse where
  envelope : MessageEnvelope := { kind := .jobControlResponse }
  metadata : JobControlResponseMetadata := {}
  deriving DecidableEq

def jobControlRequestMetadataBytes : Nat := 24
def jobControlResponseMetadataBytes : Nat := 128
def jobControlRequestBytes : Nat := envelopeBytes + jobControlRequestMetadataBytes
def jobControlResponseBytes : Nat := envelopeBytes + jobControlResponseMetadataBytes

def validJobControlOperation : JobControlOperation → Bool
  | .undeclared _ => false
  | _ => true

def validJobControlCode : JobControlCode → Bool
  | .undeclared _ => false
  | _ => true

def requiresWorker (operation : JobControlOperation) : Bool :=
  operation = .drainWorker ∨ operation = .resumeWorker ∨ operation = .recoverWorker

def validWorkerTarget (operation : JobControlOperation) (workerIndex : UInt32) : Bool :=
  requiresWorker operation = (workerIndex ≠ allJobWorkers : Bool)

def JobControlRequest.validate (request : JobControlRequest) : ProtocolResult :=
  if validEnvelope request.envelope .jobControlRequest jobControlRequestBytes = false then
    .invalidEnvelope
  else if request.metadata.structSize.toNat ≠ jobControlRequestMetadataBytes ∨
      request.metadata.protocolVersion ≠ jobControlProtocolVersion ∨
      validJobControlOperation request.metadata.operation = false ∨
      request.metadata.reserved ≠ 0 ∨
      validWorkerTarget request.metadata.operation request.metadata.workerIndex = false then
    .invalidMetadata
  else .success

def JobControlResponse.validate (response : JobControlResponse) : ProtocolResult :=
  let status := response.metadata.status
  let validMask := below status.workerCount
  if validEnvelope response.envelope .jobControlResponse jobControlResponseBytes = false then
    .invalidEnvelope
  else if response.metadata.structSize.toNat ≠ jobControlResponseMetadataBytes ∨
      response.metadata.protocolVersion ≠ jobControlProtocolVersion ∨
      validJobControlOperation response.metadata.operation = false ∨
      validJobControlCode response.metadata.code = false ∨ response.metadata.reserved ≠ 0 ∨
      validWorkerTarget response.metadata.operation response.metadata.workerIndex = false then
    .invalidMetadata
  else if status.workerCount > maxJobControlWorkers ∨
      status.acceptingWorkers > status.workerCount ∨
      status.busyWorkers > status.workerCount then
    .invalidMetadata
  else if (status.drainingMask ||| status.drainedMask ||| status.boundMask |||
        status.quarantinedMask) &&& ~~~validMask ≠ 0 ∨
      status.drainedMask &&& ~~~status.drainingMask ≠ 0 ∨
      status.quarantinedMask &&& ~~~status.drainingMask ≠ 0 then
    .invalidMetadata
  else .success

/-- The lanes that a status counts and shows. -/
structure JobControlStatus.WellFormed (status : JobControlStatus) : Prop where
  workers : status.workerCount ≤ maxJobControlWorkers
  accepting : status.acceptingWorkers ≤ status.workerCount
  busy : status.busyWorkers ≤ status.workerCount
  draining : Within status.drainingMask (below status.workerCount)
  drained : Within status.drainedMask status.drainingMask
  bound : Within status.boundMask (below status.workerCount)
  quarantined : Within status.quarantinedMask status.drainingMask

theorem JobControlRequest.target_of_validate {request : JobControlRequest}
    (valid : request.validate = .success) :
    validJobControlOperation request.metadata.operation = true ∧
      validWorkerTarget request.metadata.operation request.metadata.workerIndex = true := by
  simp (disch := decide) only [JobControlRequest.validate, Words.ite_eq_of_ne, not_or,
    Bool.not_eq_false] at valid
  exact ⟨valid.2.1.2.2.1, valid.2.1.2.2.2.2⟩

/-- A response that echoes a valid request and carries a well formed status is valid. -/
theorem JobControlResponse.validate_of_wellFormed {response : JobControlResponse}
    (envelope : validEnvelope response.envelope .jobControlResponse jobControlResponseBytes = true)
    (size : response.metadata.structSize.toNat = jobControlResponseMetadataBytes)
    (version : response.metadata.protocolVersion = jobControlProtocolVersion)
    (operation : validJobControlOperation response.metadata.operation = true)
    (code : validJobControlCode response.metadata.code = true)
    (reserved : response.metadata.reserved = 0)
    (target : validWorkerTarget response.metadata.operation response.metadata.workerIndex = true)
    (status : response.metadata.status.WellFormed) : response.validate = .success := by
  have masks : Within (response.metadata.status.drainingMask |||
      response.metadata.status.drainedMask ||| response.metadata.status.boundMask |||
      response.metadata.status.quarantinedMask) (below response.metadata.status.workerCount) :=
    ((status.draining.or (status.drained.trans status.draining)).or status.bound).or
      (status.quarantined.trans status.draining)
  unfold JobControlResponse.validate
  rw [if_neg (by simp [envelope]),
    if_neg (by simp [size, version, operation, code, reserved, target]),
    if_neg, if_neg]
  · simp only [not_or, not_not]
    exact ⟨masks, status.drained, status.quarantined⟩
  · simp only [not_or, gt_iff_lt, UInt32.not_lt]
    exact ⟨status.workers, status.accepting, status.busy⟩

end FlowEdge
