import Mathlib.Data.List.GetD
import FlowEdge.Protocol.JobTypes
import FlowEdge.Protocol.ModelIdentity

/-!
# State capsules

The byte format in which a cooperative job travels between worker lanes: a header of
96 bytes, the state that the backend saved, and a checksum of both.
-/

namespace FlowEdge

open Bytes

def stateCapsuleHeaderBytes : Nat := 96
def stateCapsuleChecksumBytes : Nat := 16
def stateCapsuleMagic : List UInt8 := [0x46, 0x45, 0x43, 0x41, 0x50, 0x30, 0x30, 0x31]
def stateCapsuleVersion : Nat := 1

/-- `StateCapsuleErrorCode`. -/
inductive StateCapsuleErrorCode where
  | bufferTooSmall
  | truncated
  | invalidHeader
  | unsupportedVersion
  | invalidMetadata
  | checksumMismatch
  deriving DecidableEq

structure StateCapsuleError where
  code : StateCapsuleErrorCode
  message : String
  deriving DecidableEq

/-- `StateCapsuleMetadata`: the job of a capsule and how far it is. -/
structure StateCapsuleMetadata where
  descriptor : JobDescriptor := {}
  state : JobState := .ready
  completedWorkUnits : UInt64 := 0
  deriving DecidableEq

/-- `StateCapsuleView`: what is read from a capsule. -/
structure StateCapsuleView where
  metadata : StateCapsuleMetadata
  payload : List UInt8
  deriving DecidableEq

/-- The size of a capsule, or zero if it does not fit a word. -/
def stateCapsuleBytes (payloadBytes : Nat) : Nat :=
  let overhead := stateCapsuleHeaderBytes + stateCapsuleChecksumBytes
  if payloadBytes ≤ 2 ^ 64 - 1 - overhead then overhead + payloadBytes else 0

/-- `valid_progress`: the work done fits the state of the job. -/
def StateCapsuleMetadata.validProgress (metadata : StateCapsuleMetadata) : Bool :=
  if validJobDescriptor metadata.descriptor = false ∨ validJobState metadata.state = false ∨
      metadata.completedWorkUnits > metadata.descriptor.totalWorkUnits then
    false
  else if metadata.state = .ready then
    metadata.completedWorkUnits = 0
  else if metadata.state = .running then
    metadata.completedWorkUnits < metadata.descriptor.totalWorkUnits
  else if metadata.state = .complete then
    metadata.completedWorkUnits = metadata.descriptor.totalWorkUnits
  else true

/-- The 96 bytes in front of the payload. -/
def StateCapsuleMetadata.header (metadata : StateCapsuleMetadata) (payloadBytes : Nat) :
    List UInt8 :=
  stateCapsuleMagic ++
    (toLe 2 stateCapsuleVersion ++
    (toLe 2 stateCapsuleHeaderBytes ++
    (toLe 2 metadata.descriptor.kind.toCode.toNat ++
    (toLe 2 metadata.state.toCode.toNat ++
    (toLe 4 0 ++
    (toLe 4 0 ++
    (metadata.descriptor.modelDigest.toList ++
    (toLe 8 metadata.descriptor.sessionId.toNat ++
    (toLe 8 metadata.descriptor.generation.toNat ++
    (toLe 8 metadata.descriptor.deadlineNs.toNat ++
    (toLe 8 metadata.descriptor.totalWorkUnits.toNat ++
    (toLe 8 metadata.completedWorkUnits.toNat ++
    (toLe 8 payloadBytes ++
      toLe 8 metadata.descriptor.stateSchema.toNat)))))))))))))

/-- `write_state_capsule` with any checksum. -/
def writeStateCapsuleWith (fingerprint : List UInt8 → ModelDigest)
    (metadata : StateCapsuleMetadata) (payload : List UInt8) (destinationBytes : Nat) :
    Except StateCapsuleError (List UInt8) :=
  if metadata.validProgress = false then
    .error ⟨.invalidMetadata, "State capsule metadata is invalid"⟩
  else
    let required := stateCapsuleBytes payload.length
    if required = 0 ∨ destinationBytes < required then
      .error ⟨.bufferTooSmall, "State capsule destination is too small"⟩
    else
      let body := metadata.header payload.length ++ payload
      .ok (body ++ (fingerprint body).toList)

/-- The bytes that `write_state_capsule` puts at the beginning of its destination. -/
def writeStateCapsule (metadata : StateCapsuleMetadata) (payload : List UInt8)
    (destinationBytes : Nat) : Except StateCapsuleError (List UInt8) :=
  writeStateCapsuleWith fingerprintBytes metadata payload destinationBytes

/-- The metadata in a header. The words of the descriptor that a capsule does not carry get
their defaults. -/
def readCapsuleMetadata (source : List UInt8) : StateCapsuleMetadata where
  descriptor :=
    { kind := JobKind.ofCode (UInt16.ofNat (leNat source 12 2))
      modelDigest := digestAt source 24
      sessionId := UInt64.ofNat (leNat source 40 8)
      generation := UInt64.ofNat (leNat source 48 8)
      deadlineNs := UInt64.ofNat (leNat source 56 8)
      totalWorkUnits := UInt64.ofNat (leNat source 64 8)
      stateSchema := UInt64.ofNat (leNat source 88 8) }
  state := JobState.ofCode (UInt16.ofNat (leNat source 14 2))
  completedWorkUnits := UInt64.ofNat (leNat source 72 8)

/-- `read_state_capsule` with any checksum. -/
def readStateCapsuleWith (fingerprint : List UInt8 → ModelDigest) (source : List UInt8) :
    Except StateCapsuleError StateCapsuleView :=
  if source.length < stateCapsuleHeaderBytes + stateCapsuleChecksumBytes then
    .error ⟨.truncated, "State capsule is truncated"⟩
  else if stateCapsuleMagic ≠ source.take 8 then
    .error ⟨.invalidHeader, "State capsule magic is invalid"⟩
  else if leNat source 8 2 ≠ stateCapsuleVersion ∨
      leNat source 10 2 ≠ stateCapsuleHeaderBytes then
    .error ⟨.unsupportedVersion, "State capsule version is unsupported"⟩
  else if leNat source 16 4 ≠ 0 ∨ leNat source 20 4 ≠ 0 then
    .error ⟨.invalidHeader, "State capsule flags are invalid"⟩
  else
    let payloadBytes := leNat source 80 8
    let required := stateCapsuleBytes payloadBytes
    if required = 0 ∨ source.length ≠ required then
      .error ⟨.truncated, "State capsule size is incompatible or truncated"⟩
    else
      let checksumOffset := stateCapsuleHeaderBytes + payloadBytes
      if (source.drop checksumOffset).take 16 ≠
          (fingerprint (source.take checksumOffset)).toList then
        .error ⟨.checksumMismatch, "State capsule checksum mismatch"⟩
      else
        let metadata := readCapsuleMetadata source
        if metadata.validProgress = false then
          .error ⟨.invalidMetadata, "State capsule metadata is invalid"⟩
        else
          .ok { metadata
                payload := (source.drop stateCapsuleHeaderBytes).take payloadBytes }

/-- `read_state_capsule`, with the checksum of the source. -/
def readStateCapsule (source : List UInt8) : Except StateCapsuleError StateCapsuleView :=
  readStateCapsuleWith fingerprintBytes source

/-! ## Round trip -/

section RoundTrip

theorem length_stateCapsuleMagic : stateCapsuleMagic.length = 8 := by decide

theorem StateCapsuleMetadata.length_header (metadata : StateCapsuleMetadata)
    (payloadBytes : Nat) : (metadata.header payloadBytes).length = 96 := by
  simp [StateCapsuleMetadata.header, length_stateCapsuleMagic]

theorem leNat_toLe_word (value : UInt64) (rest : List UInt8) :
    leNat (toLe 8 value.toNat ++ rest) 0 8 = value.toNat := by
  rw [leNat_toLe_append]
  exact Nat.mod_eq_of_lt value.toNat_lt

theorem leNat_toLe_half (value : UInt16) (rest : List UInt8) :
    leNat (toLe 2 value.toNat ++ rest) 0 2 = value.toNat := by
  rw [leNat_toLe_append]
  exact Nat.mod_eq_of_lt value.toNat_lt

theorem StateCapsuleMetadata.validProgress_fields {metadata : StateCapsuleMetadata}
    (valid : metadata.validProgress = true) :
    metadata.descriptor.protocolVersion = cooperativeJobVersion ∧
      validJobKind metadata.descriptor.kind = true ∧ validJobState metadata.state = true := by
  unfold StateCapsuleMetadata.validProgress at valid
  split at valid
  · cases valid
  · next checked =>
      simp only [not_or, Bool.not_eq_false] at checked
      obtain ⟨descriptor, state, -⟩ := checked
      simp only [validJobDescriptor, decide_eq_true_eq] at descriptor
      exact ⟨descriptor.1, descriptor.2.1, state⟩

/-- The metadata as a capsule carries it: the reserved word is not written. -/
def StateCapsuleMetadata.carried (metadata : StateCapsuleMetadata) : StateCapsuleMetadata :=
  { metadata with descriptor := { metadata.descriptor with reserved := 0 } }

theorem StateCapsuleMetadata.validProgress_carried (metadata : StateCapsuleMetadata) :
    metadata.carried.validProgress = metadata.validProgress := rfl

variable {metadata : StateCapsuleMetadata} {payloadBytes : Nat}

theorem readCapsuleMetadata_header (valid : metadata.validProgress = true)
    (rest : List UInt8) :
    readCapsuleMetadata (metadata.header payloadBytes ++ rest) = metadata.carried := by
  obtain ⟨version, kind, state⟩ := StateCapsuleMetadata.validProgress_fields valid
  unfold readCapsuleMetadata StateCapsuleMetadata.carried
  simp only [StateCapsuleMetadata.header, List.append_assoc, leNat_append_right, leNat_toLe_word,
    leNat_toLe_half, digestAt_append_right, digestAt_toList, length_stateCapsuleMagic, length_toLe,
    Vector.length_toList, Nat.reduceLeDiff, Nat.reduceSub, Nat.le_refl, Nat.sub_self,
    JobKind.ofCode_toCode kind, JobState.ofCode_toCode state, version, UInt64.ofNat_toNat,
    UInt16.ofNat_toNat]

/-- What is written with a checksum is read back with it. -/
theorem readStateCapsuleWith_write {fingerprint : List UInt8 → ModelDigest}
    {payload bytes : List UInt8} {destinationBytes : Nat}
    (written : writeStateCapsuleWith fingerprint metadata payload destinationBytes = .ok bytes) :
    readStateCapsuleWith fingerprint bytes = .ok { metadata := metadata.carried, payload } := by
  simp only [writeStateCapsuleWith, Words.ite_error_eq_ok, Bool.not_eq_false] at written
  obtain ⟨invalid, fits, ⟨⟩⟩ := written
  have small : payload.length ≤ 2 ^ 64 - 1 - 112 := by
    by_contra large
    exact fits (.inl (if_neg large))
  have size : stateCapsuleBytes payload.length = 112 + payload.length := if_pos small
  have header := metadata.length_header payload.length
  generalize checksum : fingerprint (metadata.header payload.length ++ payload) = digest
  rw [List.append_assoc]
  -- The fixed fields and the size, each at its offset.
  obtain ⟨magic, version, headerBytes, flags, reserved, word⟩ :
      stateCapsuleMagic = (metadata.header payload.length ++ (payload ++ digest.toList)).take 8 ∧
      leNat (metadata.header payload.length ++ (payload ++ digest.toList)) 8 2 =
        stateCapsuleVersion ∧
      leNat (metadata.header payload.length ++ (payload ++ digest.toList)) 10 2 =
        stateCapsuleHeaderBytes ∧
      leNat (metadata.header payload.length ++ (payload ++ digest.toList)) 16 4 = 0 ∧
      leNat (metadata.header payload.length ++ (payload ++ digest.toList)) 20 4 = 0 ∧
      leNat (metadata.header payload.length ++ (payload ++ digest.toList)) 80 8 =
        payload.length := by
    simp only [StateCapsuleMetadata.header, List.append_assoc, leNat_append_right,
      leNat_toLe_append, length_stateCapsuleMagic, length_toLe, Vector.length_toList,
      Nat.reduceLeDiff, Nat.reduceSub, Nat.le_refl, Nat.sub_self]
    refine ⟨(List.take_left' length_stateCapsuleMagic).symm, rfl, rfl, rfl, rfl,
      Nat.mod_eq_of_lt (by omega)⟩
  have length : (metadata.header payload.length ++ (payload ++ digest.toList)).length =
      112 + payload.length := by
    simp only [List.length_append, header, Vector.length_toList]
    omega
  have body : (metadata.header payload.length ++ (payload ++ digest.toList)).take
      (stateCapsuleHeaderBytes + payload.length) = metadata.header payload.length ++ payload := by
    rw [← List.append_assoc]
    exact List.take_left' (by rw [List.length_append, header]; rfl)
  have tail : ((metadata.header payload.length ++ (payload ++ digest.toList)).drop
      (stateCapsuleHeaderBytes + payload.length)).take 16 = digest.toList := by
    rw [← List.append_assoc, List.drop_left' (by rw [List.length_append, header]; rfl)]
    exact List.take_of_length_le (by rw [Vector.length_toList])
  unfold readStateCapsuleWith
  rw [if_neg (by rw [length]; simp [stateCapsuleHeaderBytes, stateCapsuleChecksumBytes]),
    if_neg (not_not.mpr magic), if_neg (by simp [version, headerBytes]),
    if_neg (by simp [flags, reserved])]
  dsimp only
  rw [word, size, if_neg (by rw [length]; omega), if_neg (by rw [body, checksum]; simp [tail]),
    readCapsuleMetadata_header invalid, StateCapsuleMetadata.validProgress_carried, invalid,
    if_neg Bool.false_ne_true.symm]
  have middle : ((metadata.header payload.length ++ (payload ++ digest.toList)).drop
      stateCapsuleHeaderBytes).take payload.length = payload := by
    rw [List.drop_left' (by rw [header]; rfl)]
    exact List.take_left' rfl
  rw [middle]

/-- What `write_state_capsule` writes, `read_state_capsule` reads back. -/
theorem readStateCapsule_write {payload bytes : List UInt8} {destinationBytes : Nat}
    (written : writeStateCapsule metadata payload destinationBytes = .ok bytes) :
    readStateCapsule bytes = .ok { metadata := metadata.carried, payload } :=
  readStateCapsuleWith_write written

end RoundTrip

end FlowEdge
