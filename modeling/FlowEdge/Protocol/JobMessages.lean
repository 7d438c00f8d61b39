import FlowEdge.Protocol.JobTypes

/-!
# Job requests and results

Requests carry an opaque payload to a worker lane and results carry one back.
Builders write only messages that the matching validator accepts.
-/

namespace FlowEdge

def maxJobPayloadBytes : Nat := 65536
def jobRequestMetadataBytes : Nat := 88
def jobResultMetadataBytes : Nat := 112
def jobRequestPayloadOffset : Nat := envelopeBytes + jobRequestMetadataBytes
def jobResultPayloadOffset : Nat := envelopeBytes + jobResultMetadataBytes

inductive JobResultCode where
  | progress
  | complete
  | cancelled
  | failed
  | rejectedStale
  | rejectedDeadline
  | rejectedCapacity
  | adapterNotFound
  | invalidRequest
  | rejectedQos
  | undeclared (code : UInt32)
  deriving DecidableEq

def JobResultCode.ofCode (code : UInt32) : JobResultCode :=
  if code = 0 then .progress
  else if code = 1 then .complete
  else if code = 2 then .cancelled
  else if code = 3 then .failed
  else if code = 4 then .rejectedStale
  else if code = 5 then .rejectedDeadline
  else if code = 6 then .rejectedCapacity
  else if code = 7 then .adapterNotFound
  else if code = 8 then .invalidRequest
  else if code = 9 then .rejectedQos
  else .undeclared code

def JobResultCode.toFlags : JobResultCode → UInt32
  | .progress => 0
  | .complete => 1
  | .cancelled => 2
  | .failed => 3
  | .rejectedStale => 4
  | .rejectedDeadline => 5
  | .rejectedCapacity => 6
  | .adapterNotFound => 7
  | .invalidRequest => 8
  | .rejectedQos => 9
  | .undeclared code => code

structure JobRequestMetadata where
  structSize : UInt32 := 0
  serviceClass : JobServiceClass := .bestEffort
  descriptor : JobDescriptor := {}
  timestampNs : UInt64 := 0
  payloadBytes : UInt64 := 0
  deriving DecidableEq

structure JobResultMetadata where
  structSize : UInt32 := 0
  serviceClass : JobServiceClass := .bestEffort
  descriptor : JobDescriptor := {}
  progress : JobProgress := {}
  timestampNs : UInt64 := 0
  payloadBytes : UInt64 := 0
  deriving DecidableEq

/-- A request. Only the first `payloadBytes` bytes of the payload array are part of the
message; `payload` holds those that have been written. -/
structure JobRequestMessage where
  envelope : MessageEnvelope := { kind := .jobRequest }
  metadata : JobRequestMetadata := {}
  payload : List UInt8 := []
  deriving DecidableEq

structure JobResultMessage where
  envelope : MessageEnvelope := { kind := .jobResult }
  metadata : JobResultMetadata := {}
  payload : List UInt8 := []
  deriving DecidableEq

def JobRequestMessage.wireSize (message : JobRequestMessage) : Nat :=
  jobRequestPayloadOffset + min message.metadata.payloadBytes.toNat maxJobPayloadBytes

def JobResultMessage.wireSize (message : JobResultMessage) : Nat :=
  jobResultPayloadOffset + min message.metadata.payloadBytes.toNat maxJobPayloadBytes

def validJobResultCode : JobResultCode → Bool
  | .undeclared _ => false
  | _ => true

/-- The job states that a result code may report. -/
def JobResultCode.compatible (code : JobResultCode) (state : JobState) : Bool :=
  if code = .progress then state = .ready ∨ state = .running
  else if code = .complete then state = .complete
  else if code = .cancelled then state = .cancelled
  else state = .failed

/-- The result code of a job state. -/
def resultCode (state : JobState) : JobResultCode :=
  if state = .complete then .complete
  else if state = .cancelled then .cancelled
  else if state = .failed then .failed
  else .progress

def jobResultCode (message : JobResultMessage) : JobResultCode :=
  JobResultCode.ofCode message.envelope.flags

def JobRequestMessage.validate (message : JobRequestMessage) : ProtocolResult :=
  if message.envelope.magic ≠ messageMagic ∨ message.envelope.version ≠ messageVersion ∨
      message.envelope.kind ≠ .jobRequest ∨ message.envelope.flags ≠ 0 ∨
      message.envelope.structSize.toNat ≠ message.wireSize then
    .invalidEnvelope
  else if message.metadata.payloadBytes.toNat > maxJobPayloadBytes then
    .dimensionExceeded
  else if message.metadata.structSize.toNat ≠ jobRequestMetadataBytes ∨
      validJobServiceClass message.metadata.serviceClass = false ∨
      validJobDescriptor message.metadata.descriptor = false ∨
      message.envelope.sessionId ≠ message.metadata.descriptor.sessionId ∨
      (message.metadata.descriptor.deadlineNs ≠ 0 ∧
        message.metadata.descriptor.deadlineNs < message.metadata.timestampNs) then
    .invalidMetadata
  else .success

def JobResultMessage.validate (message : JobResultMessage) : ProtocolResult :=
  let code := jobResultCode message
  if message.envelope.magic ≠ messageMagic ∨ message.envelope.version ≠ messageVersion ∨
      message.envelope.kind ≠ .jobResult ∨ validJobResultCode code = false ∨
      message.envelope.structSize.toNat ≠ message.wireSize then
    .invalidEnvelope
  else if message.metadata.payloadBytes.toNat > maxJobPayloadBytes then
    .dimensionExceeded
  else if message.metadata.structSize.toNat ≠ jobResultMetadataBytes ∨
      validJobServiceClass message.metadata.serviceClass = false ∨
      validJobDescriptor message.metadata.descriptor = false ∨
      message.envelope.sessionId ≠ message.metadata.descriptor.sessionId ∨
      validJobProgress message.metadata.descriptor message.metadata.progress = false ∨
      code.compatible message.metadata.progress.state = false then
    .invalidMetadata
  else .success

/-- `make_job_result`. A refused call leaves the destination as it was. -/
def makeJobResult (sequence : UInt64) (descriptor : JobDescriptor) (progress : JobProgress)
    (timestampNs : UInt64) (code : JobResultCode) (payload : List UInt8 := [])
    (serviceClass : JobServiceClass := .bestEffort) : Except ProtocolResult JobResultMessage :=
  if validJobDescriptor descriptor = false ∨ validJobProgress descriptor progress = false ∨
      validJobResultCode code = false ∨ code.compatible progress.state = false ∨
      validJobServiceClass serviceClass = false then
    .error .invalidMetadata
  else if payload.length > maxJobPayloadBytes then
    .error .dimensionExceeded
  else
    let message : JobResultMessage :=
      { envelope :=
          { kind := .jobResult, flags := code.toFlags, sequence := sequence,
            sessionId := descriptor.sessionId }
        metadata :=
          { structSize := UInt32.ofNat jobResultMetadataBytes
            serviceClass := serviceClass
            descriptor := descriptor
            progress := progress
            timestampNs := timestampNs
            payloadBytes := UInt64.ofNat payload.length }
        payload := payload }
    .ok { message with
      envelope := { message.envelope with structSize := UInt32.ofNat message.wireSize } }

/-- The codes a request can be rejected with. -/
def JobResultCode.rejected (code : JobResultCode) : Bool :=
  code = .rejectedStale ∨ code = .rejectedDeadline ∨ code = .rejectedCapacity ∨
    code = .adapterNotFound ∨ code = .invalidRequest ∨ code = .rejectedQos

def makeRejectedJobResult (request : JobRequestMessage) (timestampNs : UInt64)
    (code : JobResultCode) : Except ProtocolResult JobResultMessage :=
  if code.rejected = false then
    .error .invalidMetadata
  else
    makeJobResult request.envelope.sequence request.metadata.descriptor
      { state := .failed, completedWorkUnits := 0,
        remainingWorkUnits := request.metadata.descriptor.totalWorkUnits }
      timestampNs code [] request.metadata.serviceClass

/-! ## What the validators and builders guarantee -/

/-- What a valid request promises its readers. -/
structure JobRequestMessage.Valid (message : JobRequestMessage) : Prop where
  serviceClass : validJobServiceClass message.metadata.serviceClass = true
  descriptor : validJobDescriptor message.metadata.descriptor = true
  session : message.envelope.sessionId = message.metadata.descriptor.sessionId
  payload : message.metadata.payloadBytes.toNat ≤ maxJobPayloadBytes

theorem JobRequestMessage.valid_of_validate {message : JobRequestMessage}
    (accepted : message.validate = .success) : message.Valid := by
  simp (disch := decide) only [JobRequestMessage.validate, Words.ite_eq_of_ne, not_or,
    Bool.not_eq_false, not_not] at accepted
  obtain ⟨-, fits, ⟨-, serviceClass, descriptor, session, -⟩, -⟩ := accepted
  exact ⟨serviceClass, descriptor, session, by omega⟩

/-- What a valid result promises its readers. -/
structure JobResultMessage.Valid (message : JobResultMessage) : Prop where
  code : validJobResultCode (jobResultCode message) = true
  descriptor : validJobDescriptor message.metadata.descriptor = true
  session : message.envelope.sessionId = message.metadata.descriptor.sessionId
  progress : validJobProgress message.metadata.descriptor message.metadata.progress = true
  compatible : (jobResultCode message).compatible message.metadata.progress.state = true

variable {message : JobResultMessage}

theorem JobResultMessage.valid_of_validate (accepted : message.validate = .success) :
    message.Valid := by
  simp (disch := decide) only [JobResultMessage.validate, Words.ite_eq_of_ne, not_or,
    Bool.not_eq_false, not_not] at accepted
  obtain ⟨⟨-, -, -, code, -⟩, -, ⟨-, -, descriptor, session, progress, compatible⟩, -⟩ := accepted
  exact ⟨code, descriptor, session, progress, compatible⟩

theorem JobResultCode.toFlags_ofCode (code : UInt32) :
    (JobResultCode.ofCode code).toFlags = code := by
  simp only [JobResultCode.ofCode, apply_ite JobResultCode.toFlags]
  simp only [JobResultCode.toFlags, Words.ite_code]

variable {code : JobResultCode}

theorem JobResultCode.ofCode_toFlags (valid : validJobResultCode code = true) :
    JobResultCode.ofCode code.toFlags = code := by
  cases code <;> first | decide | simp [validJobResultCode] at valid

variable {serviceClass : JobServiceClass} {sequence timestampNs : UInt64}
  {descriptor : JobDescriptor} {progress : JobProgress} {payload : List UInt8}

/-- Every result that a builder returns passes the validator. -/
theorem validate_makeJobResult
    (built : makeJobResult sequence descriptor progress timestampNs code payload serviceClass =
      .ok message) : message.validate = .success := by
  simp only [makeJobResult, Words.ite_error_eq_ok, not_or, Bool.not_eq_false] at built
  obtain ⟨⟨descriptorValid, progressValid, codeValid, matching, classValid⟩, fits, ⟨⟩⟩ := built
  have small : payload.length ≤ 65536 := by simpa [maxJobPayloadBytes] using fits
  have count : (UInt64.ofNat payload.length).toNat = payload.length := by
    rw [UInt64.toNat_ofNat']
    exact Nat.mod_eq_of_lt (by omega)
  simp only [JobResultMessage.validate, JobResultMessage.wireSize, jobResultCode,
    JobResultCode.ofCode_toFlags codeValid, count, codeValid, descriptorValid, progressValid,
    matching, classValid, jobResultPayloadOffset, envelopeBytes, jobResultMetadataBytes,
    maxJobPayloadBytes]
  have word : ¬ 4294967296 ≤ 144 + payload.length := by omega
  simp [small, word]

theorem makeJobResult_code
    (built : makeJobResult sequence descriptor progress timestampNs code payload serviceClass =
      .ok message) :
    jobResultCode message = code ∧ message.envelope.sequence = sequence ∧
      message.metadata.descriptor = descriptor := by
  simp only [makeJobResult, Words.ite_error_eq_ok, not_or, Bool.not_eq_false] at built
  obtain ⟨⟨-, -, valid, -⟩, -, ⟨⟩⟩ := built
  exact ⟨JobResultCode.ofCode_toFlags valid, rfl, rfl⟩

theorem makeJobResult_content
    (built : makeJobResult sequence descriptor progress timestampNs code payload serviceClass =
      .ok message) : message.metadata.progress = progress ∧ message.payload = payload := by
  simp only [makeJobResult, Words.ite_error_eq_ok] at built
  obtain ⟨-, -, ⟨⟩⟩ := built
  exact ⟨rfl, rfl⟩

/-- A valid result that carries the sequence and the descriptor of a request. -/
structure JobResultMessage.Answers (result : JobResultMessage) (request : JobRequestMessage) :
    Prop where
  valid : result.validate = .success
  sequence : result.envelope.sequence = request.envelope.sequence
  descriptor : result.metadata.descriptor = request.metadata.descriptor

variable {request : JobRequestMessage}

/-- An answer also carries the session of the request. -/
theorem JobResultMessage.Answers.session {result : JobResultMessage}
    (answers : result.Answers request) (valid : request.Valid) :
    result.envelope.sessionId = request.envelope.sessionId := by
  rw [(JobResultMessage.valid_of_validate answers.valid).session, answers.descriptor,
    valid.session]

/-- The service class of an answer may be replaced by a valid one. -/
theorem JobResultMessage.Answers.withClass {result : JobResultMessage}
    (answers : result.Answers request) (valid : validJobServiceClass serviceClass = true) :
    JobResultMessage.Answers
      { result with metadata := { result.metadata with serviceClass } } request := by
  refine ⟨?_, answers.sequence, answers.descriptor⟩
  have checked := answers.valid
  unfold JobResultMessage.validate at checked ⊢
  dsimp only at checked ⊢
  split at checked
  · cases checked
  · next envelope =>
      refine (if_neg envelope).trans ?_
      split at checked
      · cases checked
      · next fits =>
          refine (if_neg fits).trans ?_
          split at checked
          · cases checked
          · next refused =>
              simp only [not_or] at refused
              refine if_neg ?_
              simp only [not_or]
              exact ⟨refused.1, by simp [valid], refused.2.2⟩

/-- A valid request can always be answered with a code of failure. -/
theorem makeJobResult_failed (valid : request.Valid) (timestampNs : UInt64)
    (codeValid : validJobResultCode code = true) (failure : code.compatible .failed = true) :
    ∃ result, makeJobResult request.envelope.sequence request.metadata.descriptor
        { state := .failed, completedWorkUnits := 0,
          remainingWorkUnits := request.metadata.descriptor.totalWorkUnits }
        timestampNs code [] request.metadata.serviceClass = .ok result ∧
      result.Answers request ∧ jobResultCode result = code := by
  have built : ∃ result, makeJobResult request.envelope.sequence request.metadata.descriptor
      { state := .failed, completedWorkUnits := 0,
        remainingWorkUnits := request.metadata.descriptor.totalWorkUnits }
      timestampNs code [] request.metadata.serviceClass = .ok result := by
    unfold makeJobResult
    rw [if_neg, if_neg (by simp [maxJobPayloadBytes])]
    · exact ⟨_, rfl⟩
    · simp only [not_or, Bool.not_eq_false]
      exact ⟨valid.descriptor, validJobProgress_failed _, codeValid, failure, valid.serviceClass⟩
  obtain ⟨result, built⟩ := built
  obtain ⟨sameCode, sequence, descriptor⟩ := makeJobResult_code built
  exact ⟨result, built, ⟨validate_makeJobResult built, sequence, descriptor⟩, sameCode⟩

theorem makeRejectedJobResult_ok (valid : request.Valid) (timestampNs : UInt64)
    (rejected : code.rejected = true) :
    ∃ result, makeRejectedJobResult request timestampNs code = .ok result ∧
      result.Answers request ∧ jobResultCode result = code := by
  unfold makeRejectedJobResult
  rw [if_neg (by simp [rejected])]
  apply makeJobResult_failed valid
  all_goals
    simp only [JobResultCode.rejected, decide_eq_true_eq] at rejected
    rcases rejected with rfl | rfl | rfl | rfl | rfl | rfl <;> decide

end FlowEdge
