import FlowEdge.Protocol.TraceCodec

/-!
# Message builders

What the builders of messages write is accepted by the validators and is what the accessors of
the message read. The accessor `payload_values` of a job message is `wireValues`, and so are the
values of an action. A copy of the wire bytes of a valid message over any memory is as good as the
message.
-/

namespace FlowEdge

open Words Layouts

/-- The part of `fe_model_metadata` that the messages are checked against. -/
structure RelayModel where
  protocolVersion : UInt32
  modelDigest : ModelDigest
  conditionDim : UInt64
  actionDim : UInt64
  deriving DecidableEq

/-! ## Accessors -/

namespace ConditionMessage

/-- The whole payload array. -/
def payloadArray (message : ConditionMessage) : List UInt32 :=
  arrayOf (maxConditionDim + maxActionDim) 0 message.payload

def conditionValues (message : ConditionMessage) : List UInt32 :=
  message.payloadArray.take message.conditionCount

def noiseValues (message : ConditionMessage) : List UInt32 :=
  (message.payloadArray.drop message.conditionCount).take message.noiseCount

theorem conditionValues_eq (message : ConditionMessage) :
    message.conditionValues = message.wireValues.take message.conditionCount := by
  rw [wireValues, List.take_take, Nat.min_eq_left (Nat.le_add_right _ _)]
  rfl

theorem noiseValues_eq (message : ConditionMessage) :
    message.noiseValues = message.wireValues.drop message.conditionCount := by
  rw [wireValues, List.drop_take, Nat.add_sub_cancel_left]
  rfl

end ConditionMessage

/-- What an event says. -/
def JobEventMessage.details (message : JobEventMessage) : JobEventDetails where
  event := message.metadata.event
  descriptor := message.metadata.descriptor
  progress := message.metadata.progress
  timestampNs := message.metadata.timestampNs
  timing := message.metadata.timing
  relatedGeneration := message.metadata.relatedGeneration
  workerIndex := message.metadata.workerIndex
  peerWorkerIndex := message.metadata.peerWorkerIndex
  queueDepth := message.metadata.queueDepth
  resultCode := message.metadata.resultCode
  serviceClass := message.metadata.serviceClass

/-! ## Builders -/

/-- `make_condition_message`. It writes to the destination, and nothing where it refuses. -/
def makeConditionMessage (destination : ConditionMessage) (model : RelayModel)
    (sequence sessionId timestampNs deadlineNs generation steps : UInt64) (solver : UInt32)
    (condition noise : List UInt32) : ConditionMessage × ProtocolResult :=
  if model.protocolVersion ≠ protocolVersion ∨ steps = 0 ∨ solver > 2 ∨
      (deadlineNs ≠ 0 ∧ deadlineNs < timestampNs) then
    (destination, .invalidMetadata)
  else if condition.length ≠ model.conditionDim.toNat ∨ noise.length ≠ model.actionDim.toNat ∨
      condition.length > maxConditionDim ∨ noise.length > maxActionDim then
    (destination, .dimensionExceeded)
  else
    let message : ConditionMessage :=
      { envelope := { kind := .condition, sequence, sessionId }
        metadata :=
          { structSize := UInt32.ofNat conditionMetadataBytes
            protocolVersion := protocolVersion
            solver
            modelDigest := model.modelDigest
            timestampNs
            deadlineNs
            generation
            conditionDim := model.conditionDim
            actionDim := model.actionDim
            solverSteps := steps
            remainingNfe := requiredNfe steps solver }
        payload := destination.payload }
    let message := { message with
      envelope := { message.envelope with structSize := UInt32.ofNat message.wireSize } }
    -- The condition is copied to the front of the array and the noise behind it.
    ({ message with
        payload := condition ++ noise ++
          message.payloadArray.drop (condition.length + noise.length) }, .success)

/-- `make_job_request`. A refused call leaves the destination as it was. -/
def makeJobRequest (sequence : UInt64) (descriptor : JobDescriptor) (timestampNs : UInt64)
    (payload : List UInt8) (serviceClass : JobServiceClass := .bestEffort) :
    Except ProtocolResult JobRequestMessage :=
  if validJobDescriptor descriptor = false ∨ validJobServiceClass serviceClass = false ∨
      (descriptor.deadlineNs ≠ 0 ∧ descriptor.deadlineNs < timestampNs) then
    .error .invalidMetadata
  else if payload.length > maxJobPayloadBytes then
    .error .dimensionExceeded
  else
    let message : JobRequestMessage :=
      { envelope := { kind := .jobRequest, sequence, sessionId := descriptor.sessionId }
        metadata :=
          { structSize := UInt32.ofNat jobRequestMetadataBytes
            serviceClass
            descriptor
            timestampNs
            payloadBytes := UInt64.ofNat payload.length }
        payload }
    .ok { message with
      envelope := { message.envelope with structSize := UInt32.ofNat message.wireSize } }

/-- Memory after `memcpy` of the first `wire_size` bytes of a message to its front. -/
def copyOver (order : ByteOrder) (message : TraceMessage) (memory : List UInt8) : List UInt8 :=
  message.wireBytes order ++ memory.drop message.wireSize

/-! ## Built messages -/

theorem arrayOf_of_length {α : Type} {size : Nat} {initial : α} {written : List α}
    (whole : written.length = size) : arrayOf size initial written = written := by
  rw [arrayOf, whole, Nat.sub_self, List.replicate_zero, List.append_nil, ← whole, List.take_length]

/-- The size of a message fits its field in the envelope. -/
theorem TraceMessage.toNat_wireSize (message : TraceMessage) :
    (UInt32.ofNat message.wireSize).toNat = message.wireSize :=
  UInt32.toNat_ofNat_of_lt' (message.wireSize_le.trans_lt (by decide))

section Condition

variable {destination message : ConditionMessage} {model : RelayModel}
  {sequence sessionId timestampNs deadlineNs generation steps : UInt64} {solver : UInt32}
  {condition noise : List UInt32}

theorem validate_makeConditionMessage
    (built : makeConditionMessage destination model sequence sessionId timestampNs deadlineNs
      generation steps solver condition noise = (message, .success)) :
    message.validate = .success := by
  unfold makeConditionMessage at built
  split at built
  next => exact nomatch (congrArg Prod.snd built)
  next metadata =>
    split at built
    next => exact nomatch (congrArg Prod.snd built)
    next dimensions =>
      obtain rfl : _ = message := congrArg Prod.fst built
      simp only [ne_eq, not_or, not_not, gt_iff_lt, not_lt] at metadata dimensions
      obtain ⟨-, nonzero, method, deadline⟩ := metadata
      obtain ⟨conditionSize, noiseSize, conditionFits, noiseFits⟩ := dimensions
      rw [conditionSize] at conditionFits
      rw [noiseSize] at noiseFits
      refine (if_neg (by simp)).trans ((if_neg ?_).trans ((if_neg ?_).trans (if_neg ?_)))
      · simp only [gt_iff_lt, not_or, not_lt]
        exact ⟨conditionFits, noiseFits⟩
      · exact not_not.mpr (TraceMessage.toNat_wireSize (.condition _))
      · simp only [not_or, ne_eq, not_not, gt_iff_lt]
        exact ⟨by decide, trivial, trivial, method, nonzero, trivial, deadline⟩

theorem makeConditionMessage_values
    (built : makeConditionMessage destination model sequence sessionId timestampNs deadlineNs
      generation steps solver condition noise = (message, .success)) :
    message.conditionValues = condition ∧ message.noiseValues = noise := by
  unfold makeConditionMessage at built
  split at built
  next => exact nomatch (congrArg Prod.snd built)
  next metadata =>
    split at built
    next => exact nomatch (congrArg Prod.snd built)
    next dimensions =>
      simp only [ne_eq, not_or, not_not, gt_iff_lt, not_lt] at dimensions
      obtain ⟨conditionSize, noiseSize, conditionFits, noiseFits⟩ := dimensions
      have array : message.payloadArray = condition ++ (noise ++
          (destination.payloadArray.drop (condition.length + noise.length))) := by
        obtain rfl : _ = message := congrArg Prod.fst built
        rw [← List.append_assoc]
        apply arrayOf_of_length
        simp only [List.length_append, List.length_drop, ConditionMessage.payloadArray,
          length_arrayOf]
        omega
      have conditionCount : message.conditionCount = condition.length := by
        obtain rfl : _ = message := congrArg Prod.fst built
        rw [ConditionMessage.conditionCount, ← conditionSize, Nat.min_eq_left conditionFits]
      have noiseCount : message.noiseCount = noise.length := by
        obtain rfl : _ = message := congrArg Prod.fst built
        rw [ConditionMessage.noiseCount, ← noiseSize, Nat.min_eq_left noiseFits]
      constructor
      · rw [ConditionMessage.conditionValues, array, conditionCount, List.take_left]
      · rw [ConditionMessage.noiseValues, array, conditionCount, noiseCount, List.drop_left,
          List.take_left]

end Condition

section Jobs

variable {sequence timestampNs : UInt64} {descriptor : JobDescriptor} {progress : JobProgress}
  {payload : List UInt8} {serviceClass : JobServiceClass}

theorem toNat_payloadBytes (fits : payload.length ≤ maxJobPayloadBytes) :
    (UInt64.ofNat payload.length).toNat = payload.length :=
  UInt64.toNat_ofNat_of_lt' (fits.trans_lt (by decide))

theorem take_payload (fits : payload.length ≤ maxJobPayloadBytes) :
    (arrayOf maxJobPayloadBytes 0 payload).take
      (min (UInt64.ofNat payload.length).toNat maxJobPayloadBytes) = payload := by
  rw [toNat_payloadBytes fits, Nat.min_eq_left fits, take_arrayOf fits le_rfl, List.take_length]

theorem makeJobRequest_spec {message : JobRequestMessage}
    (built : makeJobRequest sequence descriptor timestampNs payload serviceClass = .ok message) :
    message.validate = .success ∧ message.wireValues = payload := by
  simp only [makeJobRequest, ite_error_eq_ok, not_or, Bool.not_eq_false, not_lt] at built
  obtain ⟨⟨descriptorValid, classValid, deadline⟩, fits, ⟨⟩⟩ := built
  refine ⟨(if_neg ?_).trans ((if_neg ?_).trans (if_neg ?_)), take_payload fits⟩
  · simp only [not_or, not_not, ne_eq]
    exact ⟨trivial, trivial, trivial, trivial, TraceMessage.toNat_wireSize (.jobRequest _)⟩
  · rw [gt_iff_lt, not_lt, toNat_payloadBytes fits]
    exact fits
  · simp only [not_or, not_not, ne_eq, Bool.not_eq_false]
    exact ⟨rfl, classValid, descriptorValid, trivial, deadline⟩

theorem makeJobResult_payload {code : JobResultCode} {message : JobResultMessage}
    (built : makeJobResult sequence descriptor progress timestampNs code payload serviceClass =
      .ok message) : message.wireValues = payload := by
  simp only [makeJobResult, ite_error_eq_ok] at built
  obtain ⟨-, fits, ⟨⟩⟩ := built
  exact take_payload (Nat.not_lt.mp fits)

end Jobs

/-- What a valid condition says of its metadata. -/
structure ConditionMessage.ValidMetadata (metadata : ConditionMetadata) : Prop where
  conditionDim : metadata.conditionDim.toNat ≤ maxConditionDim
  actionDim : metadata.actionDim.toNat ≤ maxActionDim
  size : ¬ metadata.structSize.toNat < conditionMetadataBytes
  version : metadata.protocolVersion = protocolVersion
  reserved : metadata.reserved = 0
  solver : ¬ metadata.solver > 2
  steps : metadata.solverSteps ≠ 0
  nfe : metadata.remainingNfe = requiredNfe metadata.solverSteps metadata.solver
  deadline : ¬ (metadata.deadlineNs ≠ 0 ∧ metadata.deadlineNs < metadata.timestampNs)

theorem ConditionMessage.validMetadata_of_validate {message : ConditionMessage}
    (accepted : message.validate = .success) : ValidMetadata message.metadata := by
  simp (disch := decide) only [validate, ite_eq_of_ne, ne_eq, not_or, not_not, gt_iff_lt,
    Nat.not_lt] at accepted
  obtain ⟨-, narrow, -, ⟨size, version, reserved, solver, steps, nfe, deadline⟩, -⟩ := accepted
  exact ⟨narrow.1, narrow.2, Nat.not_lt.mpr size, version, reserved, solver, steps, nfe, deadline⟩

/-- The rejection of a valid condition is valid. -/
theorem validate_makeRejectedAction {request : ConditionMessage}
    (accepted : request.validate = .success) (timestampNs : UInt64) (code : RelayActionCode) :
    (makeRejectedAction request timestampNs code).validate = .success := by
  obtain ⟨conditionFits, actionFits, -, -, -, method, -, -, -⟩ :=
    ConditionMessage.validMetadata_of_validate accepted
  refine (if_neg ?_).trans ((if_neg ?_).trans ((if_neg ?_).trans (if_neg ?_)))
  · have declared : ¬ code.toFlags > RelayActionCode.expired.toFlags := by cases code <;> decide
    simp only [not_or, not_not, ne_eq]
    exact ⟨rfl, rfl, rfl, declared⟩
  · simp only [not_or, gt_iff_lt, not_lt]
    exact ⟨conditionFits, actionFits⟩
  · exact not_not.mpr (TraceMessage.toNat_wireSize (.action _))
  · have size : ¬ (UInt32.ofNat actionMetadataBytes).toNat < actionMetadataBytes := by decide
    have status : ¬ actionFailed > actionFailed := by decide
    simp only [not_or, not_and, not_not, ne_eq]
    exact ⟨size, rfl, method, status, fun _ => rfl⟩

/-- **Builders and validators.** Every message that a builder reports as made passes its validator
and reads back what it was made from. Every valid request can be rejected with a valid message. A
copy of the wire bytes of a valid message is valid and reads the same, whatever lies behind. -/
theorem builders_agree (order : ByteOrder) (memory : List UInt8) :
    (∀ destination message model sequence sessionId timestampNs deadlineNs generation steps solver
        condition noise,
      makeConditionMessage destination model sequence sessionId timestampNs deadlineNs generation
        steps solver condition noise = (message, .success) →
      message.validate = .success ∧ message.envelope.structSize.toNat = message.wireSize ∧
        message.conditionValues = condition ∧ message.noiseValues = noise) ∧
    (∀ sequence descriptor timestampNs payload serviceClass message,
      makeJobRequest sequence descriptor timestampNs payload serviceClass = .ok message →
      message.validate = .success ∧ message.envelope.structSize.toNat = message.wireSize ∧
        message.wireValues = payload) ∧
    (∀ sequence descriptor progress timestampNs code payload serviceClass message,
      makeJobResult sequence descriptor progress timestampNs code payload serviceClass =
        .ok message →
      message.validate = .success ∧ message.envelope.structSize.toNat = message.wireSize ∧
        message.wireValues = payload) ∧
    (∀ request timestampNs code message,
      makeRejectedJobResult request timestampNs code = .ok message →
      message.validate = .success ∧ message.envelope.structSize.toNat = message.wireSize ∧
        message.wireValues = []) ∧
    (∀ sequence details message, makeJobEvent sequence details = (message, .success) →
      message.validate = .success ∧ message.envelope.structSize.toNat = jobEventMessageBytes ∧
        message.details = details) ∧
    (∀ (request : ConditionMessage) timestampNs code, request.validate = .success →
      (makeRejectedAction request timestampNs code).validate = .success ∧
        (makeRejectedAction request timestampNs code).envelope.sequence =
          request.envelope.sequence ∧
        (makeRejectedAction request timestampNs code).envelope.sessionId =
          request.envelope.sessionId ∧
        (makeRejectedAction request timestampNs code).metadata.generation =
          request.metadata.generation) ∧
    (∀ (request : JobRequestMessage) timestampNs code, request.validate = .success →
      code.rejected = true →
      ∃ message, makeRejectedJobResult request timestampNs code = .ok message ∧
        message.validate = .success ∧ message.envelope.sequence = request.envelope.sequence ∧
        message.envelope.sessionId = request.envelope.sessionId ∧
        message.metadata.descriptor.generation = request.metadata.descriptor.generation) ∧
    (∀ message : ConditionMessage, message.validate = .success →
      let copied := ConditionMessage.ofMemory order (copyOver order (.condition message) memory)
      copied.validate = .success ∧ copied.envelope = message.envelope ∧
        copied.metadata = message.metadata ∧ copied.conditionValues = message.conditionValues ∧
        copied.noiseValues = message.noiseValues) ∧
    (∀ message : ActionMessage, message.validate = .success →
      let copied := ActionMessage.ofMemory order (copyOver order (.action message) memory)
      copied.validate = .success ∧ copied.envelope = message.envelope ∧
        copied.metadata = message.metadata ∧ copied.wireValues = message.wireValues) ∧
    (∀ message : JobRequestMessage, message.validate = .success →
      let copied := JobRequestMessage.ofMemory order (copyOver order (.jobRequest message) memory)
      copied.validate = .success ∧ copied.envelope = message.envelope ∧
        copied.metadata = message.metadata ∧ copied.wireValues = message.wireValues) ∧
    (∀ message : JobResultMessage, message.validate = .success →
      let copied := JobResultMessage.ofMemory order (copyOver order (.jobResult message) memory)
      copied.validate = .success ∧ copied.envelope = message.envelope ∧
        copied.metadata = message.metadata ∧ copied.wireValues = message.wireValues) ∧
    (∀ message : JobEventMessage, message.validate = .success →
      JobEventMessage.ofMemory order (copyOver order (.jobEvent message) memory) = message) := by
  refine ⟨?_, ?_, ?_, ?_, ?_, ?_, ?_, ?_, ?_, ?_, ?_,
    fun _ accepted => JobEventMessage.ofMemory_wireBytes order accepted _⟩
  · intro _ message _ _ _ _ _ _ _ _ _ _ built
    have accepted := validate_makeConditionMessage built
    exact ⟨accepted, (ConditionMessage.seals accepted).size, makeConditionMessage_values built⟩
  · intro _ _ _ _ _ message built
    obtain ⟨accepted, values⟩ := makeJobRequest_spec built
    exact ⟨accepted, (JobRequestMessage.seals accepted).size, values⟩
  · intro _ _ _ _ _ _ _ message built
    have accepted := validate_makeJobResult built
    exact ⟨accepted, (JobResultMessage.seals accepted).1.size, makeJobResult_payload built⟩
  · intro request _ code message built
    unfold makeRejectedJobResult at built
    split at built
    next => cases built
    next =>
      have accepted := validate_makeJobResult built
      exact ⟨accepted, (JobResultMessage.seals accepted).1.size, makeJobResult_payload built⟩
  · intro sequence details message built
    obtain rfl : (makeJobEvent sequence details).1 = message := congrArg Prod.fst built
    have accepted : (makeJobEvent sequence details).1.validate = .success :=
      congrArg Prod.snd built
    exact ⟨accepted, (JobEventMessage.valid_of_validate accepted).seals.size, rfl⟩
  · intro request timestampNs code accepted
    exact ⟨validate_makeRejectedAction accepted timestampNs code, rfl, rfl, rfl⟩
  · intro request timestampNs code accepted rejected
    have valid := JobRequestMessage.valid_of_validate accepted
    obtain ⟨message, built, answers, -⟩ := makeRejectedJobResult_ok valid timestampNs rejected
    exact ⟨message, built, answers.valid, answers.sequence, answers.session valid,
      congrArg JobDescriptor.generation answers.descriptor⟩
  -- What is read from a copy differs from the message behind the values it holds only.
  · intro message accepted
    obtain ⟨_, read, values⟩ := ConditionMessage.ofMemory_wireBytes order accepted (memory.drop _)
    rw [copyOver, read]
    refine ⟨accepted, rfl, rfl, ?_, ?_⟩
    · rw [ConditionMessage.conditionValues_eq, values, ConditionMessage.conditionValues_eq]
      rfl
    · rw [ConditionMessage.noiseValues_eq, values, ConditionMessage.noiseValues_eq]
      rfl
  · intro message accepted
    obtain ⟨_, read, values⟩ := ActionMessage.ofMemory_wireBytes order accepted (memory.drop _)
    rw [copyOver, read]
    exact ⟨accepted, rfl, rfl, values⟩
  · intro message accepted
    obtain ⟨_, read, values⟩ := JobRequestMessage.ofMemory_wireBytes order accepted (memory.drop _)
    rw [copyOver, read]
    exact ⟨accepted, rfl, rfl, values⟩
  · intro message accepted
    obtain ⟨_, read, values⟩ := JobResultMessage.ofMemory_wireBytes order accepted (memory.drop _)
    rw [copyOver, read]
    exact ⟨accepted, rfl, rfl, values⟩

/-- A condition of two values and one of noise for a model of that shape. -/
private def pairedModel : RelayModel :=
  { protocolVersion := protocolVersion, modelDigest := Vector.replicate 16 9, conditionDim := 2
    actionDim := 1 }

theorem builders_agree_paired :
    ∃ message, makeConditionMessage {} pairedModel 4 5 10 20 6 3 1 [7, 8] [9] =
        (message, .success) ∧
      message.validate = .success ∧ message.conditionValues = [7, 8] ∧
      ((ConditionMessage.ofMemory .big (copyOver .big (.condition message) [1, 2, 3])).noiseValues =
        message.noiseValues) := by
  have agree := builders_agree .big [1, 2, 3]
  refine ⟨_, rfl, ?_⟩
  obtain ⟨accepted, -, values, -⟩ := agree.1 {} _ pairedModel 4 5 10 20 6 3 1 [7, 8] [9] rfl
  exact ⟨accepted, values, (agree.2.2.2.2.2.2.2.1 _ accepted).2.2.2.2⟩

end FlowEdge
