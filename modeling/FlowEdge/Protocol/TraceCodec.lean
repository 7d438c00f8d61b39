import FlowEdge.Protocol.TraceBounds
import FlowEdge.Protocol.WireLayout

/-!
# Encoding and decoding messages

A trace holds the fields of a message in little-endian order at fixed offsets, whatever the
byte order of the host is. The encoder reads a message as it lies in memory and the decoder
leaves one there. Both go through the same object: the one that lies in memory on a
little-endian host. So decoding undoes encoding, and encoding undoes decoding.
-/

namespace FlowEdge

open Bytes Layouts Layout

/-! ## What the validators check -/

/-- The envelope names the protocol, the kind and the size of its message. -/
structure MessageEnvelope.Seals (envelope : MessageEnvelope) (kind : MessageKind) (size : Nat) :
    Prop where
  magic : envelope.magic = messageMagic
  version : envelope.version = messageVersion
  kind : envelope.kind = kind
  size : envelope.structSize.toNat = size

theorem seals_of_validEnvelope {envelope : MessageEnvelope} {kind : MessageKind} {size : Nat}
    (valid : validEnvelope envelope kind size = true) : envelope.Seals kind size := by
  simp only [validEnvelope, decide_eq_true_eq] at valid
  exact ⟨valid.1, valid.2.1, valid.2.2.1, valid.2.2.2.1⟩

theorem ConditionMessage.seals {message : ConditionMessage}
    (accepted : message.validate = .success) :
    message.envelope.Seals .condition message.wireSize := by
  simp (disch := decide) only [validate, Words.ite_eq_of_ne, not_or, not_not] at accepted
  obtain ⟨envelope, -, size, -⟩ := accepted
  exact ⟨envelope.1, envelope.2.1, envelope.2.2.1, size⟩

theorem ActionMessage.seals {message : ActionMessage} (accepted : message.validate = .success) :
    message.envelope.Seals .action message.wireSize ∧
      message.metadata.actionDim.toNat ≤ maxActionDim := by
  simp (disch := decide) only
    [validate, Words.ite_eq_of_ne, not_or, not_not, Nat.not_lt] at accepted
  obtain ⟨envelope, narrow, size, -⟩ := accepted
  exact ⟨⟨envelope.1, envelope.2.1, envelope.2.2.1, size⟩, narrow.2⟩

theorem JobRequestMessage.seals {message : JobRequestMessage}
    (accepted : message.validate = .success) :
    message.envelope.Seals .jobRequest message.wireSize := by
  simp (disch := decide) only [validate, Words.ite_eq_of_ne, not_or, not_not] at accepted
  obtain ⟨magic, version, kind, -, size⟩ := accepted.1
  exact ⟨magic, version, kind, size⟩

theorem JobResultMessage.seals {message : JobResultMessage}
    (accepted : message.validate = .success) :
    message.envelope.Seals .jobResult message.wireSize ∧
      validJobServiceClass message.metadata.serviceClass = true := by
  simp (disch := decide) only [validate, Words.ite_eq_of_ne, not_or, not_not,
    Bool.not_eq_false] at accepted
  obtain ⟨⟨magic, version, kind, -, size⟩, -, metadata, -⟩ := accepted
  exact ⟨⟨magic, version, kind, size⟩, metadata.2.1⟩

/-- What a valid event promises its readers. -/
structure JobEventMessage.Valid (message : JobEventMessage) : Prop where
  seals : message.envelope.Seals .jobEvent jobEventMessageBytes
  event : validJobEventKind message.metadata.event = true
  serviceClass : validJobServiceClass message.metadata.serviceClass = true
  descriptor : validJobDescriptor message.metadata.descriptor = true
  progress : validJobProgress message.metadata.descriptor message.metadata.progress = true
  compatible : message.metadata.event.compatible message.metadata.progress
    message.metadata.resultCode = true

theorem JobEventMessage.valid_of_validate {message : JobEventMessage}
    (accepted : message.validate = .success) : message.Valid := by
  simp (disch := decide) only [validate, Words.ite_eq_of_ne, not_or, not_not,
    Bool.not_eq_false] at accepted
  obtain ⟨envelope, ⟨-, -, -, event, serviceClass, descriptor, progress, -, compatible⟩, -⟩ :=
    accepted
  exact ⟨seals_of_validEnvelope envelope, event, serviceClass, descriptor, progress, compatible⟩

/-! Fields of enumerations that a validator accepts have declared codes. -/

section Proper

variable (order : ByteOrder)

theorem proper_envelope {envelope : MessageEnvelope} {kind : MessageKind} {size : Nat}
    (declared : MessageKind.ofCode kind.toCode = kind) (seals : envelope.Seals kind size) :
    (envelopeLayout order).Proper envelope := by
  refine ⟨trivial, trivial, ⟨trivial, ?_⟩, trivial, trivial, trivial, trivial⟩
  show MessageKind.ofCode envelope.kind.toCode = envelope.kind
  rw [seals.kind, declared]

theorem proper_conditionMetadata (metadata : ConditionMetadata) :
    (conditionMetadataLayout order).Proper metadata :=
  ⟨trivial, trivial, trivial, trivial, trivial, trivial, trivial, trivial, trivial, trivial,
    trivial, trivial⟩

theorem proper_actionMetadata (metadata : ActionMetadata) :
    (actionMetadataLayout order).Proper metadata :=
  ⟨trivial, trivial, trivial, trivial, trivial, trivial, trivial, trivial, trivial, trivial,
    trivial⟩

theorem proper_jobDescriptor {descriptor : JobDescriptor}
    (valid : validJobDescriptor descriptor = true) :
    (jobDescriptorLayout order).Proper descriptor := by
  simp only [validJobDescriptor, decide_eq_true_eq] at valid
  exact ⟨trivial, ⟨trivial, JobKind.ofCode_toCode valid.2.1⟩, trivial, trivial, trivial, trivial,
    trivial, trivial, trivial⟩

theorem proper_jobProgress {descriptor : JobDescriptor} {progress : JobProgress}
    (valid : validJobProgress descriptor progress = true) :
    (jobProgressLayout order).Proper progress := by
  unfold validJobProgress at valid
  split at valid
  · cases valid
  next checked =>
  simp only [not_or, Bool.not_eq_false] at checked
  exact ⟨⟨trivial, JobState.ofCode_toCode checked.1⟩, trivial, trivial, trivial, trivial⟩

theorem proper_serviceClass {serviceClass : JobServiceClass}
    (valid : validJobServiceClass serviceClass = true) :
    (serviceClassLayout order).Proper serviceClass :=
  ⟨trivial, JobServiceClass.ofCode_toCode valid⟩

theorem JobEventKind.ofCode_toCode {event : JobEventKind} (valid : validJobEventKind event = true) :
    JobEventKind.ofCode event.toCode = event := by
  cases event <;> first | rfl | simp [validJobEventKind] at valid

theorem JobEventKind.declared_of_compatible {event : JobEventKind} {progress : JobProgress}
    {code : JobResultCode} (compatible : event.compatible progress code = true) :
    validJobResultCode code = true := by
  cases code with
  | undeclared =>
      cases event <;> simp [JobEventKind.compatible, JobResultCode.rejected] at compatible
  | _ => rfl

theorem proper_jobEventMetadata {message : JobEventMessage} (valid : message.Valid) :
    (jobEventMetadataLayout order).Proper message.metadata :=
  ⟨trivial, trivial, ⟨trivial, JobEventKind.ofCode_toCode valid.event⟩,
    proper_jobDescriptor order valid.descriptor, proper_jobProgress order valid.progress, trivial,
    ⟨trivial, trivial, trivial, trivial⟩, trivial, trivial, trivial, trivial,
    ⟨trivial, JobResultCode.ofCode_toFlags (JobEventKind.declared_of_compatible valid.compatible)⟩,
    proper_serviceClass order valid.serviceClass, trivial⟩

end Proper

/-! ## Objects and their wire bytes -/

theorem take_arrayOf {α : Type} {size count : Nat} {initial : α} {written : List α}
    (within : count ≤ size) (filled : count ≤ written.length) :
    (arrayOf size initial written).take count = written.take count := by
  rw [arrayOf, List.take_take, Nat.min_eq_left within, List.take_append_of_le_length filled]

section Parts

variable {α : Type} (order : ByteOrder) (layout : Layout α) (envelope : MessageEnvelope)
  (metadata : α)

theorem drop_envelope (rest : List UInt8) :
    ((envelopeLayout order).put envelope ++ rest).drop envelopeBytes = rest :=
  (envelopeLayout order).drop_put envelope rest

theorem drop_header (rest : List UInt8) {offset : Nat}
    (behind : offset = envelopeBytes + layout.width) :
    ((envelopeLayout order).put envelope ++ (layout.put metadata ++ rest)).drop offset = rest := by
  rw [behind, ← List.drop_drop, drop_envelope, drop_put]

end Parts

namespace ConditionMessage

theorem count_le (message : ConditionMessage) :
    message.conditionCount + message.noiseCount ≤ maxConditionDim + maxActionDim :=
  Nat.add_le_add (Nat.min_le_right _ _) (Nat.min_le_right _ _)

theorem length_wireValues (message : ConditionMessage) :
    message.wireValues.length = message.conditionCount + message.noiseCount := by
  rw [wireValues, List.length_take, length_arrayOf, Nat.min_eq_left message.count_le]

theorem wireValues_of_length {message : ConditionMessage}
    (whole : message.payload.length = maxConditionDim + maxActionDim) :
    message.wireValues = message.payload.take (message.conditionCount + message.noiseCount) :=
  take_arrayOf message.count_le (whole.symm ▸ message.count_le)

variable (order : ByteOrder)

theorem ofMemory_wireBytes {message : ConditionMessage} (accepted : message.validate = .success)
    (rest : List UInt8) :
    ∃ payload, ofMemory order (TraceMessage.wireBytes order (.condition message) ++ rest) =
      { message with payload } ∧ wireValues { message with payload } = message.wireValues := by
  have read := getAll_putAll (word32 order)
    (fun value (_ : value ∈ message.wireValues) => (trivial : (word32 order).Proper value)) rest
  rw [length_wireValues] at read
  refine ⟨(word32 order).getAll (maxConditionDim + maxActionDim)
    ((word32 order).putAll message.wireValues ++ rest), ?_, ?_⟩
  · rw [ofMemory, TraceMessage.wireBytes, List.append_assoc, List.append_assoc,
      get_put _ (proper_envelope order rfl (seals accepted)), drop_envelope,
      get_put _ (proper_conditionMetadata order message.metadata),
      drop_header order (conditionMetadataLayout order) _ _ _
        (show conditionPayloadOffset = _ from rfl)]
  · exact (wireValues_of_length (length_getAll _ _ _)).trans
      ((take_getAll _ message.count_le _).trans read)

end ConditionMessage

namespace ActionMessage

theorem length_wireValues (message : ActionMessage) :
    message.wireValues.length = min message.metadata.actionDim.toNat maxActionDim := by
  rw [wireValues, List.length_take, length_arrayOf, Nat.min_assoc, Nat.min_self]

theorem wireValues_of_length {message : ActionMessage}
    (whole : message.action.length = maxActionDim) :
    message.wireValues = message.action.take (min message.metadata.actionDim.toNat maxActionDim) :=
  take_arrayOf (Nat.min_le_right _ _) (whole.symm ▸ Nat.min_le_right _ _)

variable (order : ByteOrder)

theorem ofMemory_wireBytes {message : ActionMessage} (accepted : message.validate = .success)
    (rest : List UInt8) :
    ∃ action, ofMemory order (TraceMessage.wireBytes order (.action message) ++ rest) =
      { message with action } ∧ wireValues { message with action } = message.wireValues := by
  have read := getAll_putAll (word32 order)
    (fun value (_ : value ∈ message.wireValues) => (trivial : (word32 order).Proper value)) rest
  rw [length_wireValues] at read
  refine ⟨(word32 order).getAll maxActionDim ((word32 order).putAll message.wireValues ++ rest),
    ?_, ?_⟩
  · rw [ofMemory, TraceMessage.wireBytes, List.append_assoc, List.append_assoc,
      get_put _ (proper_envelope order rfl (seals accepted).1), drop_envelope,
      get_put _ (proper_actionMetadata order message.metadata),
      drop_header order (actionMetadataLayout order) _ _ _ (show actionPayloadOffset = _ from rfl)]
  · exact (wireValues_of_length (length_getAll _ _ _)).trans
      ((take_getAll _ (Nat.min_le_right _ _) _).trans read)

end ActionMessage

/-- The payload of a job message that is read back begins with the values that were written. -/
theorem take_payload_read {values : List UInt8} {count : Nat}
    (length : values.length = min count maxJobPayloadBytes) (rest : List UInt8) :
    (arrayOf maxJobPayloadBytes 0 ((values ++ rest).take maxJobPayloadBytes)).take
      (min count maxJobPayloadBytes) = values := by
  have within : min count maxJobPayloadBytes ≤ maxJobPayloadBytes := Nat.min_le_right _ _
  rw [take_arrayOf within, List.take_take, Nat.min_eq_left within, List.take_left' length]
  rw [List.length_take, List.length_append, length]
  omega

namespace JobRequestMessage

theorem length_wireValues (message : JobRequestMessage) :
    message.wireValues.length = min message.metadata.payloadBytes.toNat maxJobPayloadBytes := by
  rw [wireValues, List.length_take, length_arrayOf, Nat.min_assoc, Nat.min_self]

variable (order : ByteOrder)

theorem ofMemory_wireBytes {message : JobRequestMessage} (accepted : message.validate = .success)
    (rest : List UInt8) :
    ∃ payload, ofMemory order (TraceMessage.wireBytes order (.jobRequest message) ++ rest) =
      { message with payload } ∧ wireValues { message with payload } = message.wireValues := by
  have valid := valid_of_validate accepted
  have proper : (jobRequestMetadataLayout order).Proper message.metadata :=
    ⟨trivial, proper_serviceClass order valid.serviceClass,
      proper_jobDescriptor order valid.descriptor, trivial, trivial⟩
  refine ⟨(message.wireValues ++ rest).take maxJobPayloadBytes, ?_, ?_⟩
  · rw [ofMemory, TraceMessage.wireBytes, List.append_assoc, List.append_assoc,
      get_put _ (proper_envelope order rfl (seals accepted)), drop_envelope,
      get_put _ proper, drop_header order (jobRequestMetadataLayout order) _ _ _
        (show jobRequestPayloadOffset = _ from rfl)]
  · exact take_payload_read message.length_wireValues rest

end JobRequestMessage

namespace JobResultMessage

theorem length_wireValues (message : JobResultMessage) :
    message.wireValues.length = min message.metadata.payloadBytes.toNat maxJobPayloadBytes := by
  rw [wireValues, List.length_take, length_arrayOf, Nat.min_assoc, Nat.min_self]

variable (order : ByteOrder)

theorem ofMemory_wireBytes {message : JobResultMessage} (accepted : message.validate = .success)
    (rest : List UInt8) :
    ∃ payload, ofMemory order (TraceMessage.wireBytes order (.jobResult message) ++ rest) =
      { message with payload } ∧ wireValues { message with payload } = message.wireValues := by
  have valid := valid_of_validate accepted
  have proper : (jobResultMetadataLayout order).Proper message.metadata :=
    ⟨trivial, proper_serviceClass order (seals accepted).2,
      proper_jobDescriptor order valid.descriptor, proper_jobProgress order valid.progress, trivial,
      trivial⟩
  refine ⟨(message.wireValues ++ rest).take maxJobPayloadBytes, ?_, ?_⟩
  · rw [ofMemory, TraceMessage.wireBytes, List.append_assoc, List.append_assoc,
      get_put _ (proper_envelope order rfl (seals accepted).1), drop_envelope,
      get_put _ proper, drop_header order (jobResultMetadataLayout order) _ _ _
        (show jobResultPayloadOffset = _ from rfl)]
  · exact take_payload_read message.length_wireValues rest

end JobResultMessage

theorem JobEventMessage.ofMemory_wireBytes (order : ByteOrder) {message : JobEventMessage}
    (accepted : message.validate = .success) (rest : List UInt8) :
    ofMemory order (TraceMessage.wireBytes order (.jobEvent message) ++ rest) = message := by
  have valid := valid_of_validate accepted
  rw [ofMemory, TraceMessage.wireBytes, List.append_assoc,
    get_put _ (proper_envelope order rfl valid.seals), drop_envelope,
    get_put _ (proper_jobEventMetadata order valid)]

/-! ## Encoding a loaded message -/

namespace TraceMessage

/-- No message is larger than the buffer of the writer. -/
theorem wireSize_le (message : TraceMessage) : message.wireSize ≤ maxTraceMessageBytes := by
  have values : maxTraceMessageBytes = 65680 := rfl
  rw [values]
  cases message with
  | condition message =>
      have within := message.count_le
      simp only [wireSize, ConditionMessage.wireSize, conditionPayloadOffset, envelopeBytes,
        conditionMetadataBytes, floatBytes, maxConditionDim, maxActionDim] at within ⊢
      omega
  | action message =>
      simp only [wireSize, ActionMessage.wireSize, actionPayloadOffset, envelopeBytes,
        actionMetadataBytes, floatBytes, maxActionDim]
      omega
  | jobRequest message =>
      simp only [wireSize, JobRequestMessage.wireSize, jobRequestPayloadOffset, envelopeBytes,
        jobRequestMetadataBytes, maxJobPayloadBytes]
      omega
  | jobResult message =>
      simp only [wireSize, JobResultMessage.wireSize, jobResultPayloadOffset, envelopeBytes,
        jobResultMetadataBytes, maxJobPayloadBytes]
      omega
  | jobEvent => exact show 200 ≤ 65680 by decide
  | control => exact show 40 ≤ 65680 by decide

end TraceMessage

end FlowEdge
