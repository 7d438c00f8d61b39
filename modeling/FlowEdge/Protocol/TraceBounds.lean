import Mathlib.Data.List.GetD
import FlowEdge.Protocol.Trace

/-!
# Bounds of the trace decoder

Which records make the decoder leave the record, a message array or the destination.
All branches are in range for all field values, apart from the action branch on a
record of full length: its size check uses the width that `wire_size` cuts to the
array and its loop uses the declared width.
-/

namespace FlowEdge

open Bytes

/-- The decoder made no access out of range: it decoded the record or refused it. -/
def Decode.InBounds {α : Type} (outcome : Decode α) : Prop :=
  outcome ≠ .error .outOfBounds

namespace Decode

variable {α β : Type}

@[simp] theorem inBounds_ok (value : α) : InBounds (.ok value : Decode α) := by
  simp [InBounds]

@[simp] theorem inBounds_rejected (text : String) :
    InBounds (.error (.rejected text) : Decode α) := by
  simp [InBounds]

@[simp] theorem not_inBounds_outOfBounds : ¬ InBounds (.error .outOfBounds : Decode α) := by
  simp [InBounds]

theorem InBounds.bind {outcome : Decode α} {next : α → Decode β} (first : outcome.InBounds)
    (rest : ∀ value, outcome = .ok value → (next value).InBounds) :
    (outcome >>= next).InBounds := by
  cases outcome with
  | error fault =>
      cases fault with
      | rejected text => exact inBounds_rejected text
      | outOfBounds => exact absurd rfl first
  | ok value => exact rest value rfl

/-- A check refuses the record or lets the decoder go on. -/
theorem InBounds.check {condition : Prop} [Decidable condition] {text : String} {rest : Decode α}
    (passes : ¬ condition → rest.InBounds) :
    InBounds (if condition then .error (.rejected text) else rest) := by
  split
  · exact inBounds_rejected text
  · next passed => exact passes passed

@[simp] theorem ok_bind (value : α) (next : α → Decode β) :
    ((.ok value : Decode α) >>= next) = next value := rfl

@[simp] theorem pure_eq (value : α) : (pure value : Decode α) = .ok value := rfl

end Decode

/-! ## Single reads -/

section Reads

variable {source : List UInt8} {offset : Nat}

theorem readU16_ok (inside : offset + 2 ≤ source.length) :
    readU16 source offset = .ok (UInt16.ofNat (leNat source offset 2)) := by
  rw [readU16, readLe_eq_some inside]
  rfl

theorem readU32_ok (inside : offset + 4 ≤ source.length) :
    readU32 source offset = .ok (UInt32.ofNat (leNat source offset 4)) := by
  rw [readU32, readLe_eq_some inside]
  rfl

theorem readU32_outOfBounds (outside : source.length < offset + 4) :
    readU32 source offset = .error .outOfBounds := by
  rw [readU32, readLe_eq_none outside]
  rfl

theorem readU64_ok (inside : offset + 8 ≤ source.length) :
    readU64 source offset = .ok (UInt64.ofNat (leNat source offset 8)) := by
  rw [readU64, readLe_eq_some inside]
  rfl

theorem readDigest_ok (inside : offset + 16 ≤ source.length) :
    ∃ digest, readDigest source offset = .ok digest := by
  rw [readDigest, readRange_eq_some inside]
  exact ⟨_, rfl⟩

theorem subspan_ok (inside : offset ≤ source.length) :
    subspan source offset = .ok (source.drop offset) := by
  rw [subspan, if_pos inside]
  rfl

theorem le_length_drop (source : List UInt8) (offset : Nat) {count : Nat}
    (inside : offset + count ≤ source.length) :
    count ≤ (source.drop offset).length := by
  rw [List.length_drop]
  omega

end Reads

/-! ## Fixed-size parts -/

section Parts

variable {source : List UInt8}

theorem decodeEnvelope_ok (inside : 32 ≤ source.length) :
    ∃ envelope, decodeEnvelope source = .ok envelope ∧
      envelope.magic = UInt32.ofNat (leNat source 0 4) ∧
      envelope.version = UInt16.ofNat (leNat source 4 2) ∧
      envelope.kind = .ofCode (UInt16.ofNat (leNat source 6 2)) ∧
      envelope.structSize.toNat = leNat source 8 4 := by
  simp (disch := omega) only [decodeEnvelope, readU16_ok, readU32_ok, readU64_ok,
    Decode.ok_bind, Decode.pure_eq]
  refine ⟨_, rfl, rfl, rfl, rfl, ?_⟩
  rw [UInt32.toNat_ofNat']
  exact Nat.mod_eq_of_lt (leNat_lt source 8 4)

theorem decodeConditionMetadata_ok (inside : 88 ≤ source.length) :
    ∃ metadata, decodeConditionMetadata source = .ok metadata := by
  obtain ⟨digest, read⟩ := readDigest_ok (show 16 + 16 ≤ source.length by omega)
  simp (disch := omega) only [decodeConditionMetadata, readU32_ok, readU64_ok, read,
    Decode.ok_bind, Decode.pure_eq]
  exact ⟨_, rfl⟩

theorem decodeActionMetadata_ok (inside : 80 ≤ source.length) :
    ∃ metadata, decodeActionMetadata source = .ok metadata ∧
      metadata.actionDim.toNat = leNat source 64 8 := by
  obtain ⟨digest, read⟩ := readDigest_ok (show 16 + 16 ≤ source.length by omega)
  simp (disch := omega) only [decodeActionMetadata, readU32_ok, readU64_ok, read,
    Decode.ok_bind, Decode.pure_eq]
  refine ⟨_, rfl, ?_⟩
  rw [UInt64.toNat_ofNat']
  exact Nat.mod_eq_of_lt (leNat_lt source 64 8)

theorem decodeJobDescriptor_ok (inside : 64 ≤ source.length) :
    ∃ descriptor, decodeJobDescriptor source = .ok descriptor := by
  obtain ⟨digest, read⟩ := readDigest_ok (show 8 + 16 ≤ source.length by omega)
  simp (disch := omega) only [decodeJobDescriptor, readU16_ok, readU32_ok, readU64_ok, read,
    Decode.ok_bind, Decode.pure_eq]
  exact ⟨_, rfl⟩

theorem decodeJobProgress_ok (inside : 24 ≤ source.length) :
    ∃ progress, decodeJobProgress source = .ok progress := by
  simp (disch := omega) only [decodeJobProgress, readU16_ok, readU32_ok, readU64_ok,
    Decode.ok_bind, Decode.pure_eq]
  exact ⟨_, rfl⟩

theorem decodeJobRequestMetadata_ok (inside : 88 ≤ source.length) :
    ∃ metadata, decodeJobRequestMetadata source = .ok metadata := by
  obtain ⟨descriptor, decoded⟩ :=
    decodeJobDescriptor_ok (le_length_drop source 8 (by omega))
  simp (disch := omega) only [decodeJobRequestMetadata, readU32_ok, readU64_ok, subspan_ok,
    decoded, Decode.ok_bind, Decode.pure_eq]
  exact ⟨_, rfl⟩

theorem decodeJobResultMetadata_ok (inside : 112 ≤ source.length) :
    ∃ metadata, decodeJobResultMetadata source = .ok metadata := by
  obtain ⟨descriptor, decoded⟩ :=
    decodeJobDescriptor_ok (le_length_drop source 8 (by omega))
  obtain ⟨progress, reported⟩ :=
    decodeJobProgress_ok (le_length_drop source 72 (by omega))
  simp (disch := omega) only [decodeJobResultMetadata, readU32_ok, readU64_ok, subspan_ok,
    decoded, reported, Decode.ok_bind, Decode.pure_eq]
  exact ⟨_, rfl⟩

theorem decodeJobEventMetadata_ok (inside : 168 ≤ source.length) :
    ∃ metadata, decodeJobEventMetadata source = .ok metadata := by
  obtain ⟨descriptor, decoded⟩ :=
    decodeJobDescriptor_ok (le_length_drop source 8 (by omega))
  obtain ⟨progress, reported⟩ :=
    decodeJobProgress_ok (le_length_drop source 72 (by omega))
  simp (disch := omega) only [decodeJobEventMetadata, readU16_ok, readU32_ok, readU64_ok,
    subspan_ok, decoded, reported, Decode.ok_bind, Decode.pure_eq]
  exact ⟨_, rfl⟩

end Parts

/-! ## Payload loops -/

/-- The float loop stays in range exactly when its last element does, on both sides. -/
theorem copyFloats_ok (source : List UInt8) (base count : Nat) {index : Nat}
    (array : List UInt32) (reads : base + (index + count) * floatBytes ≤ source.length)
    (writes : index + count ≤ array.length) :
    ∃ filled, copyFloats source base count index array = .ok filled := by
  induction count generalizing index array with
  | zero => exact ⟨array, rfl⟩
  | succ count ih =>
      simp only [floatBytes] at reads
      have inside : index < array.length := by omega
      rw [copyFloats, readU32_ok (by simp only [floatBytes]; omega), Decode.ok_bind,
        if_pos inside]
      exact ih _ (by simp only [floatBytes]; omega) (by rw [List.length_set]; omega)

theorem copyFloats_outOfBounds (source : List UInt8) (base count : Nat) {index : Nat}
    (array : List UInt32) (tooMany : array.length < index + count)
    (started : index ≤ array.length)
    (full : source.length < base + (array.length + 1) * floatBytes)
    (available : base + array.length * floatBytes ≤ source.length) :
    copyFloats source base count index array = .error .outOfBounds := by
  induction count generalizing index array with
  | zero => omega
  | succ count ih =>
      simp only [floatBytes] at full available
      by_cases inside : index < array.length
      · rw [copyFloats, readU32_ok (by simp only [floatBytes]; omega), Decode.ok_bind,
          if_pos inside]
        refine ih _ ?_ ?_ ?_ ?_ <;> simp only [List.length_set, floatBytes] <;> omega
      · rw [copyFloats, readU32_outOfBounds (by simp only [floatBytes]; omega)]
        rfl

variable {source : List UInt8}

theorem copyPayload_inBounds {offset : Nat} (inside : offset ≤ source.length)
    (fits : source.length - offset ≤ maxJobPayloadBytes) :
    (copyPayload source offset).InBounds := by
  rw [copyPayload, subspan_ok inside, Decode.ok_bind, List.length_drop, if_pos fits]
  exact Decode.inBounds_ok _

variable {destinationBytes : Nat}

theorem copyOut_inBounds {α : Type} {count messageBytes : Nat} (message : α)
    (inside : count ≤ messageBytes) (fits : count ≤ destinationBytes) :
    (copyOut count messageBytes destinationBytes message).InBounds := by
  rw [copyOut, if_pos ⟨inside, fits⟩]
  exact Decode.inBounds_ok _

/-! ## The branches of the decoder -/

section Branches

variable {source : List UInt8} {destinationBytes : Nat} (envelope : MessageEnvelope)

/-- The metadata behind the envelope is decoded if the record holds all of it. -/
theorem metadata_inBounds {α β : Type} {bytes : Nat} {decode : List UInt8 → Decode α}
    {next : α → Decode β}
    (decodes : ∀ {rest : List UInt8}, bytes ≤ rest.length → ∃ metadata, decode rest = .ok metadata)
    (whole : 32 + bytes ≤ source.length) (goesOn : ∀ metadata, (next metadata).InBounds) :
    (subspan source envelopeBytes >>= fun rest => decode rest >>= next).InBounds := by
  obtain ⟨metadata, decoded⟩ := decodes (le_length_drop source 32 whole)
  rw [envelopeBytes, subspan_ok (by omega), Decode.ok_bind, decoded, Decode.ok_bind]
  exact goesOn metadata

theorem decodeCondition_inBounds (fits : source.length ≤ destinationBytes) :
    (decodeCondition source envelope destinationBytes).InBounds := by
  refine .check fun sized => ?_
  simp only [conditionPayloadOffset, envelopeBytes, conditionMetadataBytes, not_or] at sized
  refine metadata_inBounds decodeConditionMetadata_ok (by omega) fun metadata =>
    .check fun exact => ?_
  rw [not_not] at exact
  -- The size check counts the same cut widths as the loop.
  have width : ∀ message : ConditionMessage,
      message.conditionCount + message.noiseCount ≤ maxConditionDim + maxActionDim :=
    fun message => Nat.add_le_add (Nat.min_le_right _ _) (Nat.min_le_right _ _)
  refine Decode.InBounds.bind ?_ fun payload _ => .check fun _ => copyOut_inBounds _ ?_ fits
  · obtain ⟨filled, copied⟩ := copyFloats_ok source conditionPayloadOffset _
      (List.replicate (maxConditionDim + maxActionDim) 0)
      (Nat.le_of_eq (by rw [← exact, ConditionMessage.wireSize, Nat.zero_add]))
      (by rw [Nat.zero_add, List.length_replicate]; exact width _)
    rw [copied]
    exact Decode.inBounds_ok _
  · rw [← exact, ConditionMessage.wireSize]
    exact Nat.add_le_add_left (Nat.mul_le_mul_right _ (width _)) _

theorem decodeJobRequest_inBounds (fits : source.length ≤ destinationBytes) :
    (decodeJobRequest source envelope destinationBytes).InBounds := by
  have offset : jobRequestPayloadOffset = 120 := rfl
  refine .check fun sized => ?_
  rw [not_or] at sized
  refine metadata_inBounds decodeJobRequestMetadata_ok (by omega) fun metadata =>
    .check fun _ => (copyPayload_inBounds (by omega) (by omega)).bind fun payload _ => ?_
  exact .check fun _ => copyOut_inBounds _ (by omega) fits

theorem decodeJobResult_inBounds (fits : source.length ≤ destinationBytes) :
    (decodeJobResult source envelope destinationBytes).InBounds := by
  have offset : jobResultPayloadOffset = 144 := rfl
  refine .check fun sized => ?_
  rw [not_or] at sized
  refine metadata_inBounds decodeJobResultMetadata_ok (by omega) fun metadata =>
    .check fun _ => (copyPayload_inBounds (by omega) (by omega)).bind fun payload _ => ?_
  exact .check fun _ => copyOut_inBounds _ (by omega) fits

theorem decodeJobEvent_inBounds (fits : source.length ≤ destinationBytes) :
    (decodeJobEvent source envelope destinationBytes).InBounds := by
  refine .check fun sized => ?_
  rw [jobEventMessageBytes, not_not] at sized
  refine metadata_inBounds decodeJobEventMetadata_ok (by omega) fun metadata => ?_
  exact .check fun _ => copyOut_inBounds _ le_rfl (by rw [jobEventMessageBytes]; omega)

theorem decodeControl_inBounds (fits : source.length ≤ destinationBytes) :
    (decodeControl source envelope destinationBytes).InBounds := by
  refine .check fun sized => ?_
  rw [controlMessageBytes, not_not] at sized
  rw [envelopeBytes, readU64_ok (by omega), Decode.ok_bind]
  exact .check fun _ => copyOut_inBounds _ le_rfl (by rw [controlMessageBytes]; omega)

/-- The action branch leaves its arrays exactly on a record of full length that declares
more values than the array holds. -/
theorem decodeAction_inBounds_iff (fits : source.length ≤ destinationBytes) :
    (decodeAction source envelope destinationBytes).InBounds ↔
      ¬ (source.length = actionPayloadOffset + maxActionDim * floatBytes ∧
        maxActionDim < leNat source 96 8) := by
  have offset : actionPayloadOffset = 112 := rfl
  have limit : maxActionDim = 1024 := rfl
  have bytes : floatBytes = 4 := rfl
  unfold decodeAction
  split
  · next refused =>
      rw [offset, bytes] at refused
      refine iff_of_true (Decode.inBounds_rejected _) ?_
      rintro ⟨size, -⟩
      rw [limit, bytes] at size
      omega
  · next sized =>
      rw [offset, bytes, not_or] at sized
      obtain ⟨metadata, decoded, width⟩ := decodeActionMetadata_ok
        (le_length_drop source 32 (by omega))
      replace width : metadata.actionDim.toNat = leNat source 96 8 := by
        rw [width, leNat_drop]
      rw [envelopeBytes, subspan_ok (by omega), Decode.ok_bind, decoded, Decode.ok_bind]
      dsimp only
      rw [ActionMessage.wireSize, width]
      split
      · next different =>
          refine iff_of_true (Decode.inBounds_rejected _) ?_
          rintro ⟨size, wide⟩
          exact different (by rw [Nat.min_eq_right wide.le, size])
      · next exact =>
          rw [not_not] at exact
          have length := exact
          rw [offset, limit, bytes] at length
          by_cases wide : maxActionDim < leNat source 96 8
          · -- The record ends with the array, so element 1024 is outside both.
            have loop := copyFloats_outOfBounds source actionPayloadOffset (leNat source 96 8)
              (List.replicate maxActionDim 0)
              (show _ < 0 + _ by rw [List.length_replicate]; omega) (Nat.zero_le _)
              (by rw [List.length_replicate, offset, limit, bytes]; omega)
              (by rw [List.length_replicate, offset, limit, bytes]; omega)
            rw [loop]
            refine iff_of_false Decode.not_inBounds_outOfBounds (not_not.mpr ⟨?_, wide⟩)
            rw [offset, limit, bytes]
            omega
          · refine iff_of_true ?_ (fun both => wide both.2)
            obtain ⟨filled, copied⟩ := copyFloats_ok source actionPayloadOffset
              (leNat source 96 8) (List.replicate maxActionDim 0)
              (show _ + (0 + _) * _ ≤ _ by rw [offset, bytes]; omega)
              (by rw [List.length_replicate]; omega)
            rw [copied, Decode.ok_bind]
            refine .check fun _ => copyOut_inBounds _ ?_ fits
            rw [offset, limit, bytes]
            omega

end Branches

/-! ## Whole records -/

/-- A record that passes the envelope and size checks of an action and declares more values
than an action message has room for. -/
structure OverlongAction (source : List UInt8) : Prop where
  size : source.length = actionPayloadOffset + maxActionDim * floatBytes
  magic : UInt32.ofNat (leNat source 0 4) = messageMagic
  version : UInt16.ofNat (leNat source 4 2) = messageVersion
  kind : MessageKind.ofCode (UInt16.ofNat (leNat source 6 2)) = .action
  structSize : leNat source 8 4 = source.length
  width : maxActionDim < leNat source 96 8

theorem decodeMessage_inBounds (fits : source.length ≤ destinationBytes)
    (bounded : ¬ OverlongAction source) : (decodeMessage source destinationBytes).InBounds := by
  refine .check fun sized => ?_
  rw [envelopeBytes, not_or] at sized
  obtain ⟨envelope, decoded, magic, version, kind, structSize⟩ :=
    decodeEnvelope_ok (show 32 ≤ source.length by omega)
  rw [decoded, Decode.ok_bind]
  refine .check fun accepted => ?_
  simp only [not_or, not_not] at accepted
  split
  · exact decodeCondition_inBounds envelope fits
  split
  · next action =>
      refine (decodeAction_inBounds_iff envelope fits).mpr fun overlong => bounded ?_
      exact
        { size := overlong.1
          magic := magic.symm.trans accepted.1
          version := version.symm.trans accepted.2.1
          kind := kind.symm.trans action
          structSize := structSize.symm.trans accepted.2.2.2
          width := overlong.2 }
  split
  · exact decodeJobRequest_inBounds envelope fits
  split
  · exact decodeJobResult_inBounds envelope fits
  split
  · exact decodeJobEvent_inBounds envelope fits
  · exact decodeControl_inBounds envelope fits

theorem OverlongAction.outOfBounds (overlong : OverlongAction source)
    (fits : source.length ≤ destinationBytes) :
    ¬ (decodeMessage source destinationBytes).InBounds := by
  have length : source.length = 4208 := overlong.size
  unfold decodeMessage
  rw [if_neg (by rw [envelopeBytes]; omega)]
  obtain ⟨envelope, decoded, magic, version, kind, structSize⟩ :=
    decodeEnvelope_ok (show 32 ≤ source.length by omega)
  have isAction : envelope.kind = .action := kind.trans overlong.kind
  have accepted : ¬ (envelope.magic ≠ messageMagic ∨ envelope.version ≠ messageVersion ∨
      validKind envelope.kind = false ∨ envelope.structSize.toNat ≠ source.length) := by
    simp [magic, overlong.magic, version, overlong.version, structSize, overlong.structSize,
      isAction, validKind]
  rw [decoded, Decode.ok_bind, if_neg accepted, if_neg (by rw [isAction]; decide),
    if_pos isAction, decodeAction_inBounds_iff envelope fits]
  exact not_not.mpr ⟨overlong.size, overlong.width⟩

/-- **Exact bounds of the decoder.** Whatever the bytes of a record are, the decoder stays in
range exactly when the record is not an overlong action. -/
theorem decodeMessage_inBounds_iff (source : List UInt8) :
    (decodeMessage source source.length).InBounds ↔ ¬ OverlongAction source :=
  ⟨fun inBounds overlong => overlong.outOfBounds le_rfl inBounds,
    decodeMessage_inBounds le_rfl⟩

/-- An action record of 4208 bytes whose width field says 1025. -/
def overlongActionRecord : List UInt8 :=
  [0x46, 0x52, 0x45, 0x31, 1, 0, 2, 0, 0x70, 0x10, 0, 0] ++ List.replicate 84 0 ++
    [1, 4, 0, 0, 0, 0, 0, 0] ++ List.replicate 4104 0

theorem overlongAction_record : OverlongAction overlongActionRecord where
  size := by decide +kernel
  magic := by decide +kernel
  version := by decide +kernel
  kind := by decide +kernel
  structSize := by decide +kernel
  width := by decide +kernel

theorem decodeMessage_leaves_bounds :
    overlongActionRecord.length ≤ maxTraceMessageBytes ∧
      decodeMessage overlongActionRecord overlongActionRecord.length = .error .outOfBounds := by
  refine ⟨by decide +kernel, ?_⟩
  by_contra inBounds
  exact overlongAction_record.outOfBounds le_rfl inBounds

end FlowEdge
