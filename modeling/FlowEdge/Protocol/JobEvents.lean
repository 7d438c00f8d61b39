import FlowEdge.Protocol.JobMessages

/-!
# Job lifecycle events

The event record that the worker pool emits at each transition of a job, and the
check that an event names a transition its progress and result code can have.
-/

namespace FlowEdge

def jobEventVersion : UInt16 := 1
def noWorker : UInt32 := 0xffffffff
def jobEventMetadataBytes : Nat := 168
def jobEventMessageBytes : Nat := 200

inductive JobEventKind where
  | unknown
  | admitted
  | dispatched
  | started
  | progress
  | preempted
  | migrationStarted
  | migrationCompleted
  | completed
  | cancelled
  | failed
  | rejected
  | undeclared (code : UInt16)
  deriving DecidableEq

def JobEventKind.ofCode (code : UInt16) : JobEventKind :=
  if code = 0 then .unknown
  else if code = 1 then .admitted
  else if code = 2 then .dispatched
  else if code = 3 then .started
  else if code = 4 then .progress
  else if code = 5 then .preempted
  else if code = 6 then .migrationStarted
  else if code = 7 then .migrationCompleted
  else if code = 8 then .completed
  else if code = 9 then .cancelled
  else if code = 10 then .failed
  else if code = 11 then .rejected
  else .undeclared code

def JobEventKind.toCode : JobEventKind → UInt16
  | .unknown => 0
  | .admitted => 1
  | .dispatched => 2
  | .started => 3
  | .progress => 4
  | .preempted => 5
  | .migrationStarted => 6
  | .migrationCompleted => 7
  | .completed => 8
  | .cancelled => 9
  | .failed => 10
  | .rejected => 11
  | .undeclared code => code

theorem JobEventKind.toCode_ofCode (code : UInt16) : (JobEventKind.ofCode code).toCode = code := by
  simp only [JobEventKind.ofCode, apply_ite JobEventKind.toCode]
  simp only [JobEventKind.toCode, Words.ite_code]

structure JobEventTiming where
  queueNs : UInt64 := 0
  executionNs : UInt64 := 0
  endToEndNs : UInt64 := 0
  cancellationNs : UInt64 := 0
  deriving DecidableEq

structure JobEventMetadata where
  structSize : UInt32 := 0
  protocolVersion : UInt16 := jobEventVersion
  event : JobEventKind := .unknown
  descriptor : JobDescriptor := {}
  progress : JobProgress := {}
  timestampNs : UInt64 := 0
  timing : JobEventTiming := {}
  relatedGeneration : UInt64 := 0
  workerIndex : UInt32 := noWorker
  peerWorkerIndex : UInt32 := noWorker
  queueDepth : UInt32 := 0
  resultCode : JobResultCode := .progress
  serviceClass : JobServiceClass := .bestEffort
  reserved2 : UInt32 := 0
  deriving DecidableEq

structure JobEventMessage where
  envelope : MessageEnvelope := { kind := .jobEvent }
  metadata : JobEventMetadata := {}
  deriving DecidableEq

def validJobEventKind : JobEventKind → Bool
  | .unknown => false
  | .undeclared _ => false
  | _ => true

def JobEventKind.compatible (event : JobEventKind) (progress : JobProgress)
    (code : JobResultCode) : Bool :=
  match event with
  | .unknown => false
  | .admitted | .dispatched => progress.state = .ready ∧ code = .progress
  | .started | .progress | .preempted | .migrationStarted | .migrationCompleted =>
      (progress.state = .ready ∨ progress.state = .running) ∧ code = .progress
  | .completed => progress.state = .complete ∧ code = .complete
  | .cancelled => progress.state = .cancelled ∧ code = .cancelled
  | .failed => progress.state = .failed ∧ code = .failed
  | .rejected => progress.state = .failed ∧ code.rejected
  | .undeclared _ => false

def JobEventMessage.validate (message : JobEventMessage) : ProtocolResult :=
  if validEnvelope message.envelope .jobEvent jobEventMessageBytes = false then
    .invalidEnvelope
  else if message.metadata.structSize.toNat ≠ jobEventMetadataBytes ∨
      message.metadata.protocolVersion ≠ jobEventVersion ∨ message.metadata.reserved2 ≠ 0 ∨
      validJobEventKind message.metadata.event = false ∨
      validJobServiceClass message.metadata.serviceClass = false ∨
      validJobDescriptor message.metadata.descriptor = false ∨
      validJobProgress message.metadata.descriptor message.metadata.progress = false ∨
      message.envelope.sessionId ≠ message.metadata.descriptor.sessionId ∨
      message.metadata.event.compatible message.metadata.progress
        message.metadata.resultCode = false then
    .invalidMetadata
  else .success

/-- What the emitter of an event says about it. -/
structure JobEventDetails where
  event : JobEventKind
  descriptor : JobDescriptor
  progress : JobProgress
  timestampNs : UInt64
  timing : JobEventTiming := {}
  relatedGeneration : UInt64 := 0
  workerIndex : UInt32 := noWorker
  peerWorkerIndex : UInt32 := noWorker
  queueDepth : UInt32 := 0
  resultCode : JobResultCode := .progress
  serviceClass : JobServiceClass := .bestEffort

/-- `make_job_event`: the event and whether it passes its own check. -/
def makeJobEvent (sequence : UInt64) (details : JobEventDetails) :
    JobEventMessage × ProtocolResult :=
  let message : JobEventMessage :=
    { envelope :=
        { kind := .jobEvent, structSize := UInt32.ofNat jobEventMessageBytes,
          sequence := sequence, sessionId := details.descriptor.sessionId }
      metadata :=
        { structSize := UInt32.ofNat jobEventMetadataBytes
          protocolVersion := jobEventVersion
          event := details.event
          descriptor := details.descriptor
          progress := details.progress
          timestampNs := details.timestampNs
          timing := details.timing
          relatedGeneration := details.relatedGeneration
          workerIndex := details.workerIndex
          peerWorkerIndex := details.peerWorkerIndex
          queueDepth := details.queueDepth
          resultCode := details.resultCode
          serviceClass := details.serviceClass } }
  (message, message.validate)

/-- An event about a valid descriptor and progress is valid if its kind fits them. -/
theorem validate_makeJobEvent (sequence : UInt64) {details : JobEventDetails}
    (serviceClass : validJobServiceClass details.serviceClass = true)
    (descriptor : validJobDescriptor details.descriptor = true)
    (progress : validJobProgress details.descriptor details.progress = true)
    (compatible : details.event.compatible details.progress details.resultCode = true) :
    (makeJobEvent sequence details).2 = .success := by
  have kind : validJobEventKind details.event = true := by
    cases known : details.event <;> first | rfl | (rw [known] at compatible; cases compatible)
  have envelope : validEnvelope (makeJobEvent sequence details).1.envelope .jobEvent
      jobEventMessageBytes = true := decide_eq_true ⟨rfl, rfl, rfl, rfl, rfl⟩
  show (makeJobEvent sequence details).1.validate = .success
  unfold JobEventMessage.validate
  rw [if_neg (by simp [envelope])]
  refine if_neg ?_
  simp only [not_or, Bool.not_eq_false, not_not]
  exact ⟨rfl, rfl, rfl, kind, serviceClass, descriptor, progress, rfl, compatible⟩

end FlowEdge
