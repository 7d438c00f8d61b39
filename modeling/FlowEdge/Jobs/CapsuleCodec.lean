import FlowEdge.Jobs.StateCapsule

/-!
# The capsule codec in memory

`write_state_capsule` as it works on its destination: it clears the header, writes the fields one
after the other, copies the payload unless it is already in its place, and appends the checksum.
Whatever the checksum is, it leaves the bytes of `writeStateCapsuleWith`, and these are the only
bytes that `read_state_capsule` accepts for their contents.
-/

namespace FlowEdge

open Bytes

/-! ## Writing in place -/

/-- Where the payload is: in memory of its own, or already behind the header of the destination. -/
inductive CapsulePayload where
  | separate (bytes : List UInt8)
  | inPlace (size : Nat)
  deriving DecidableEq

namespace CapsulePayload

def size : CapsulePayload → Nat
  | .separate bytes => bytes.length
  | .inPlace size => size

/-- The bytes of the payload, given what the destination holds. -/
def bytes (destination : List UInt8) : CapsulePayload → List UInt8
  | .separate bytes => bytes
  | .inPlace size => (destination.drop stateCapsuleHeaderBytes).take size

/-- Copy the payload behind the header, unless it is there. -/
def place (headed : List UInt8) : CapsulePayload → Option (List UInt8)
  | .separate bytes => writeRange headed stateCapsuleHeaderBytes bytes
  | .inPlace _ => some headed

end CapsulePayload

/-- The writes of the header, in the order of the source. -/
def StateCapsuleMetadata.headerWrites (metadata : StateCapsuleMetadata) (payloadBytes : Nat) :
    List Write :=
  [(0, stateCapsuleMagic),
    (8, toLe 2 stateCapsuleVersion),
    (10, toLe 2 stateCapsuleHeaderBytes),
    (12, toLe 2 metadata.descriptor.kind.toCode.toNat),
    (14, toLe 2 metadata.state.toCode.toNat),
    (16, toLe 4 0),
    (20, toLe 4 0),
    (24, metadata.descriptor.modelDigest.toList),
    (40, toLe 8 metadata.descriptor.sessionId.toNat),
    (48, toLe 8 metadata.descriptor.generation.toNat),
    (56, toLe 8 metadata.descriptor.deadlineNs.toNat),
    (64, toLe 8 metadata.descriptor.totalWorkUnits.toNat),
    (72, toLe 8 metadata.completedWorkUnits.toNat),
    (80, toLe 8 payloadBytes),
    (88, toLe 8 metadata.descriptor.stateSchema.toNat)]

/-- The destination after the header, the payload and the checksum were written; `none` if a write
leaves it. -/
def fillCapsule (fingerprint : List UInt8 → ModelDigest) (metadata : StateCapsuleMetadata)
    (payload : CapsulePayload) (destination : List UInt8) : Option (List UInt8) := do
  let cleared ← writeRange destination 0 (List.replicate stateCapsuleHeaderBytes 0)
  let headed ← writeAll cleared (metadata.headerWrites payload.size)
  let filled ← payload.place headed
  let checksumOffset := stateCapsuleHeaderBytes + payload.size
  writeRange filled checksumOffset (fingerprint (filled.take checksumOffset)).toList

/-- `write_state_capsule`: the size of the capsule and the destination afterwards. -/
def writeCapsuleInto (fingerprint : List UInt8 → ModelDigest) (metadata : StateCapsuleMetadata)
    (payload : CapsulePayload) (destination : List UInt8) :
    Option (Except StateCapsuleError (Nat × List UInt8)) :=
  if metadata.validProgress = false then
    some (.error ⟨.invalidMetadata, "State capsule metadata is invalid"⟩)
  else
    let required := stateCapsuleBytes payload.size
    if required = 0 ∨ destination.length < required then
      some (.error ⟨.bufferTooSmall, "State capsule destination is too small"⟩)
    else
      (fillCapsule fingerprint metadata payload destination).map fun filled =>
        .ok (required, filled)

section Writing

variable (fingerprint : List UInt8 → ModelDigest) (metadata : StateCapsuleMetadata)

theorem gapless_headerWrites (payloadBytes : Nat) :
    Gapless 0 (metadata.headerWrites payloadBytes) := by
  simp [StateCapsuleMetadata.headerWrites, Gapless, length_stateCapsuleMagic]

theorem written_headerWrites (payloadBytes : Nat) :
    written (metadata.headerWrites payloadBytes) = metadata.header payloadBytes := by
  simp [StateCapsuleMetadata.headerWrites, StateCapsuleMetadata.header, written]

/-- The header replaces whatever the destination began with. -/
theorem writeAll_header {destination : List UInt8} (payloadBytes : Nat)
    (fits : stateCapsuleHeaderBytes ≤ destination.length) :
    ((writeRange destination 0 (List.replicate stateCapsuleHeaderBytes 0)).bind
      fun cleared => writeAll cleared (metadata.headerWrites payloadBytes)) =
      some (metadata.header payloadBytes ++ destination.drop stateCapsuleHeaderBytes) := by
  have size : (List.replicate stateCapsuleHeaderBytes (0 : UInt8)).length =
      (metadata.header payloadBytes).length := by
    rw [List.length_replicate, metadata.length_header, stateCapsuleHeaderBytes]
  have cleared := writeRange_append [] destination (List.replicate stateCapsuleHeaderBytes 0)
    (show 0 = _ from rfl) (by rwa [List.length_replicate])
  have headed := writeAll_gapless [] (List.replicate stateCapsuleHeaderBytes 0 ++
    destination.drop stateCapsuleHeaderBytes) (gapless_headerWrites metadata payloadBytes)
  rw [written_headerWrites, ← size, List.drop_left] at headed
  rw [List.nil_append, List.nil_append, List.length_replicate] at cleared
  rw [cleared, Option.bind_some]
  exact headed (by rw [List.length_append]; omega)

variable {payload : CapsulePayload} {destination : List UInt8}

theorem CapsulePayload.length_bytes
    (fits : stateCapsuleHeaderBytes + payload.size ≤ destination.length) :
    (payload.bytes destination).length = payload.size := by
  cases payload with
  | separate => rfl
  | inPlace size =>
      simp only [CapsulePayload.size] at fits
      rw [CapsulePayload.bytes, List.length_take, List.length_drop, CapsulePayload.size]
      omega

/-- Both ways the payload ends up behind the header. -/
theorem CapsulePayload.place_eq {header : List UInt8}
    (here : stateCapsuleHeaderBytes = header.length)
    (fits : stateCapsuleHeaderBytes + payload.size ≤ destination.length) :
    payload.place (header ++ destination.drop stateCapsuleHeaderBytes) =
      some (header ++ payload.bytes destination ++
        destination.drop (stateCapsuleHeaderBytes + payload.size)) := by
  cases payload with
  | separate bytes =>
      simp only [CapsulePayload.size] at fits
      have placed := writeRange_append header (destination.drop stateCapsuleHeaderBytes) bytes here
        (by rw [List.length_drop]; omega)
      rwa [List.drop_drop] at placed
  | inPlace =>
      simp only [CapsulePayload.place, CapsulePayload.bytes, CapsulePayload.size]
      rw [List.append_assoc, ← List.drop_drop, List.take_append_drop]

theorem fillCapsule_eq
    (fits : stateCapsuleHeaderBytes + payload.size + stateCapsuleChecksumBytes ≤
      destination.length) :
    fillCapsule fingerprint metadata payload destination =
      let body := metadata.header payload.size ++ payload.bytes destination
      let capsule := body ++ (fingerprint body).toList
      some (capsule ++ destination.drop capsule.length) := by
  have header : stateCapsuleHeaderBytes = (metadata.header payload.size).length :=
    (metadata.length_header payload.size).symm
  have inside : stateCapsuleHeaderBytes + payload.size ≤ destination.length := by omega
  have body : stateCapsuleHeaderBytes + payload.size =
      (metadata.header payload.size ++ payload.bytes destination).length := by
    rw [List.length_append, CapsulePayload.length_bytes inside, ← header]
  have sealed := fun digest : ModelDigest =>
    writeRange_append (metadata.header payload.size ++ payload.bytes destination)
      (destination.drop (stateCapsuleHeaderBytes + payload.size)) digest.toList body
      (by rw [List.length_drop, Vector.length_toList]
          simp only [stateCapsuleChecksumBytes] at fits
          omega)
  unfold fillCapsule
  simp only [Option.bind_eq_bind]
  rw [← Option.bind_assoc, writeAll_header metadata payload.size (by omega), Option.bind_some,
    CapsulePayload.place_eq header inside, Option.bind_some, List.take_left' body.symm, sealed,
    List.drop_drop, List.length_append, body]

theorem stateCapsuleBytes_eq {payloadBytes : Nat} (possible : stateCapsuleBytes payloadBytes ≠ 0) :
    stateCapsuleBytes payloadBytes = 112 + payloadBytes ∧ 112 + payloadBytes < 2 ^ 64 := by
  by_cases small : payloadBytes ≤ 2 ^ 64 - 1 - 112
  · have size : stateCapsuleBytes payloadBytes = 112 + payloadBytes := if_pos small
    omega
  · have size : stateCapsuleBytes payloadBytes = 0 := if_neg small
    exact absurd size possible

theorem stateCapsuleBytes_refused {payloadBytes destinationBytes : Nat}
    (short : destinationBytes < 112 + payloadBytes) :
    stateCapsuleBytes payloadBytes = 0 ∨ destinationBytes < stateCapsuleBytes payloadBytes := by
  by_cases possible : stateCapsuleBytes payloadBytes = 0
  · exact .inl possible
  · rw [(stateCapsuleBytes_eq possible).1]
    exact .inr short

/-- No write leaves the destination, and what stands there afterwards are the bytes of the capsule
and, behind them, what was there before. -/
theorem writeCapsuleInto_eq :
    writeCapsuleInto fingerprint metadata payload destination =
      some ((writeStateCapsuleWith fingerprint metadata (payload.bytes destination)
        destination.length).map fun capsule =>
          (capsule.length, capsule ++ destination.drop capsule.length)) := by
  unfold writeCapsuleInto writeStateCapsuleWith
  split
  · rfl
  by_cases inside : stateCapsuleHeaderBytes + payload.size ≤ destination.length
  · dsimp only
    rw [CapsulePayload.length_bytes inside]
    split
    · rfl
    next fits =>
    rw [not_or, Nat.not_lt] at fits
    obtain ⟨size, -⟩ := stateCapsuleBytes_eq fits.1
    rw [size] at fits
    rw [fillCapsule_eq fingerprint metadata (by
      simp only [stateCapsuleHeaderBytes, stateCapsuleChecksumBytes]
      omega)]
    simp [Except.map, size, CapsulePayload.length_bytes inside, metadata.length_header]
    omega
  · -- A payload that does not fit is refused, whatever part of it is inside.
    have outside : destination.length < 112 + (payload.bytes destination).length ∧
        destination.length < 112 + payload.size := by
      simp only [stateCapsuleHeaderBytes, Nat.not_le] at inside
      cases payload with
      | separate bytes =>
          simp only [CapsulePayload.bytes, CapsulePayload.size] at inside ⊢
          omega
      | inPlace size =>
          simp only [CapsulePayload.bytes, CapsulePayload.size, List.length_take, List.length_drop,
            stateCapsuleHeaderBytes] at inside ⊢
          omega
    rw [if_pos (stateCapsuleBytes_refused outside.1), if_pos (stateCapsuleBytes_refused outside.2)]
    rfl

end Writing

/-! ## Reading -/

section Reading

variable {source : List UInt8}

/-- The header of what was read from a header is that header. -/
theorem header_readCapsuleMetadata (long : 96 ≤ source.length)
    (magic : stateCapsuleMagic = source.take 8) (version : leNat source 8 2 = stateCapsuleVersion)
    (headerBytes : leNat source 10 2 = stateCapsuleHeaderBytes) (flags : leNat source 16 4 = 0)
    (reserved : leNat source 20 4 = 0) :
    (readCapsuleMetadata source).header (leNat source 80 8) = source.take 96 := by
  have half : ∀ offset, leNat source offset 2 = (UInt16.ofNat (leNat source offset 2)).toNat :=
    fun offset => (Nat.mod_eq_of_lt (leNat_lt source offset 2)).symm
  have word : ∀ offset, leNat source offset 8 = (UInt64.ofNat (leNat source offset 8)).toNat :=
    fun offset => (Nat.mod_eq_of_lt (leNat_lt source offset 8)).symm
  have same : ∀ write ∈ (readCapsuleMetadata source).headerWrites (leNat source 80 8),
      write.2 = (source.drop write.1).take write.2.length := by
    simp only [StateCapsuleMetadata.headerWrites, List.forall_mem_cons, length_toLe,
      length_stateCapsuleMagic, Vector.length_toList, readCapsuleMetadata,
      JobKind.toCode_ofCode, JobState.toCode_ofCode]
    exact ⟨magic, toLe_leNat (by omega) version, toLe_leNat (by omega) headerBytes,
      toLe_leNat (by omega) (half 12), toLe_leNat (by omega) (half 14), toLe_leNat (by omega) flags,
      toLe_leNat (by omega) reserved, toList_digestAt (by omega), toLe_leNat (by omega) (word 40),
      toLe_leNat (by omega) (word 48), toLe_leNat (by omega) (word 56),
      toLe_leNat (by omega) (word 64), toLe_leNat (by omega) (word 72), toLe_leNat (by omega) rfl,
      toLe_leNat (by omega) (word 88), nofun⟩
  have pieces := written_eq_take (gapless_headerWrites (readCapsuleMetadata source) _) same
  rwa [written_headerWrites, StateCapsuleMetadata.length_header, List.drop_zero] at pieces

variable {fingerprint : List UInt8 → ModelDigest} {view : StateCapsuleView}

/-- An accepted capsule is the header of its metadata, its payload and their checksum. -/
theorem capsule_of_read (read : readStateCapsuleWith fingerprint source = .ok view) :
    view.metadata.validProgress = true ∧ 112 + view.payload.length < 2 ^ 64 ∧
      source = (view.metadata.header view.payload.length ++ view.payload) ++
        (fingerprint (view.metadata.header view.payload.length ++ view.payload)).toList := by
  simp only [readStateCapsuleWith, Words.ite_error_eq_ok, not_or, not_not,
    Bool.not_eq_false] at read
  obtain ⟨-, magic, fixed, unused, sized, checksum, valid, ⟨⟩⟩ := read
  obtain ⟨size, small⟩ := stateCapsuleBytes_eq sized.1
  have length : source.length = 112 + leNat source 80 8 := sized.2.trans size
  have payload : ((source.drop stateCapsuleHeaderBytes).take (leNat source 80 8)).length =
      leNat source 80 8 := by
    rw [List.length_take, List.length_drop, stateCapsuleHeaderBytes]
    omega
  have header := header_readCapsuleMetadata (by omega) magic fixed.1 fixed.2 unused.1 unused.2
  have body : source.take 96 ++ (source.drop stateCapsuleHeaderBytes).take (leNat source 80 8) =
      source.take (stateCapsuleHeaderBytes + leNat source 80 8) := List.take_add.symm
  have rest : ((source.drop (stateCapsuleHeaderBytes + leNat source 80 8)).take 16) =
      source.drop (stateCapsuleHeaderBytes + leNat source 80 8) := by
    apply List.take_of_length_le
    rw [List.length_drop, stateCapsuleHeaderBytes]
    omega
  refine ⟨valid, by rwa [payload], ?_⟩
  rw [payload, header, body, ← checksum, rest, List.take_append_drop]

/-- Writing what was read gives back the bytes. -/
theorem writeStateCapsuleWith_read (read : readStateCapsuleWith fingerprint source = .ok view)
    {destinationBytes : Nat} (fits : source.length ≤ destinationBytes) :
    writeStateCapsuleWith fingerprint view.metadata view.payload destinationBytes = .ok source := by
  obtain ⟨valid, small, bytes⟩ := capsule_of_read read
  have size : stateCapsuleBytes view.payload.length = 112 + view.payload.length :=
    if_pos (by simp only [stateCapsuleHeaderBytes, stateCapsuleChecksumBytes]; omega)
  have length : source.length = 112 + view.payload.length := by
    rw [bytes]
    simp only [List.length_append, StateCapsuleMetadata.length_header, Vector.length_toList]
    omega
  unfold writeStateCapsuleWith
  rw [if_neg (by simp [valid])]
  dsimp only
  rw [size, if_neg (by omega), ← bytes]

end Reading

/-! ## Both ways -/

/-- The metadata is valid, the size of the capsule is a word, and the destination has room. -/
def CapsuleAccepted (metadata : StateCapsuleMetadata) (payload : CapsulePayload)
    (destination : List UInt8) : Prop :=
  metadata.validProgress = true ∧ 112 + payload.size < 2 ^ 64 ∧
    112 + payload.size ≤ destination.length

section Accepting

variable (fingerprint : List UInt8 → ModelDigest) {metadata : StateCapsuleMetadata}
  {payload : CapsulePayload} {destination : List UInt8}

theorem writeCapsuleInto_refused (refused : ¬ CapsuleAccepted metadata payload destination) :
    ∃ error, writeCapsuleInto fingerprint metadata payload destination = some (.error error) := by
  unfold writeCapsuleInto
  split
  · exact ⟨_, rfl⟩
  next valid =>
  dsimp only
  split
  · exact ⟨_, rfl⟩
  next fits =>
  rw [not_or, Nat.not_lt] at fits
  obtain ⟨size, small⟩ := stateCapsuleBytes_eq fits.1
  exact absurd ⟨Bool.not_eq_false _ ▸ valid, small, size ▸ fits.2⟩ refused

/-- What an accepted call leaves in the destination can be read back. -/
theorem writeCapsuleInto_accepted (accepted : CapsuleAccepted metadata payload destination) :
    ∃ capsule : List UInt8, capsule.length = 112 + payload.size ∧
      writeCapsuleInto fingerprint metadata payload destination =
        some (.ok (112 + payload.size, capsule ++ destination.drop (112 + payload.size))) ∧
      readStateCapsuleWith fingerprint capsule =
        .ok { metadata := metadata.carried, payload := payload.bytes destination } := by
  obtain ⟨valid, small, fits⟩ := accepted
  have length := CapsulePayload.length_bytes (show
    stateCapsuleHeaderBytes + payload.size ≤ destination.length by
      rw [stateCapsuleHeaderBytes]
      omega)
  have size : stateCapsuleBytes (payload.bytes destination).length = 112 + payload.size := by
    rw [length]
    exact if_pos (by simp only [stateCapsuleHeaderBytes, stateCapsuleChecksumBytes]; omega)
  have written : writeStateCapsuleWith fingerprint metadata (payload.bytes destination)
      destination.length = .ok (metadata.header (payload.bytes destination).length ++
        payload.bytes destination ++ (fingerprint (metadata.header
          (payload.bytes destination).length ++ payload.bytes destination)).toList) := by
    unfold writeStateCapsuleWith
    rw [if_neg (by simp [valid])]
    rw [size, if_neg (by omega)]
  have total : (metadata.header (payload.bytes destination).length ++ payload.bytes destination ++
      (fingerprint (metadata.header (payload.bytes destination).length ++
        payload.bytes destination)).toList).length = 112 + payload.size := by
    simp only [List.length_append, StateCapsuleMetadata.length_header, Vector.length_toList, length]
    omega
  refine ⟨_, total, ?_, readStateCapsuleWith_write written⟩
  rw [writeCapsuleInto_eq, written, Except.map, total]

end Accepting

/-- **The capsule codec is exact.** For any checksum: a call of `write_state_capsule` that is not
refused stays inside the destination, and reading what it wrote gives the metadata, but for the
reserved word, and the payload; and a capsule that `read_state_capsule` accepts is written again
byte for byte from what was read, with the payload in either place, so it is the only encoding of
its contents. -/
theorem capsule_codec_exact (fingerprint : List UInt8 → ModelDigest) :
    (∀ metadata payload destination,
      (¬ CapsuleAccepted metadata payload destination →
        ∃ error, writeCapsuleInto fingerprint metadata payload destination =
          some (.error error)) ∧
      (CapsuleAccepted metadata payload destination →
        ∃ capsule : List UInt8, capsule.length = 112 + payload.size ∧
          writeCapsuleInto fingerprint metadata payload destination =
            some (.ok (112 + payload.size, capsule ++ destination.drop (112 + payload.size))) ∧
          readStateCapsuleWith fingerprint capsule =
            .ok { metadata := metadata.carried, payload := payload.bytes destination })) ∧
    (∀ source view, readStateCapsuleWith fingerprint source = .ok view →
      ∀ payload destination, payload.bytes destination = view.payload →
        source.length ≤ destination.length →
        writeCapsuleInto fingerprint view.metadata payload destination =
          some (.ok (source.length, source ++ destination.drop source.length))) ∧
    ∀ first second view, readStateCapsuleWith fingerprint first = .ok view →
      readStateCapsuleWith fingerprint second = .ok view → first = second := by
  refine ⟨fun metadata payload destination => ?_,
    fun source view read payload destination same fits => ?_,
    fun first second view one two => ?_⟩
  · exact ⟨writeCapsuleInto_refused fingerprint, writeCapsuleInto_accepted fingerprint⟩
  · rw [writeCapsuleInto_eq, same, writeStateCapsuleWith_read read fits]
    rfl
  · exact (capsule_of_read one).2.2.trans (capsule_of_read two).2.2.symm

/-- A job that has done one of two units. -/
def halfDone : StateCapsuleMetadata where
  descriptor := { kind := .iterative, modelDigest := Vector.replicate 16 1, stateSchema := 1,
                  totalWorkUnits := 2 }
  state := .running
  completedWorkUnits := 1

/-- Two bytes of state that the backend saved behind the header. -/
theorem capsule_codec_exact_in_place :
    CapsuleAccepted halfDone (.inPlace 2) (List.replicate 120 7) ∧
      ∃ capsule : List UInt8, capsule.length = 114 ∧
        writeCapsuleInto fingerprintBytes halfDone (.inPlace 2) (List.replicate 120 7) =
          some (.ok (114, capsule ++ [7, 7, 7, 7, 7, 7])) ∧
        readStateCapsuleWith fingerprintBytes capsule =
          .ok { metadata := halfDone, payload := [7, 7] } := by
  have accepted : CapsuleAccepted halfDone (.inPlace 2) (List.replicate 120 7) :=
    ⟨by decide, by decide, by decide⟩
  exact ⟨accepted, ((capsule_codec_exact fingerprintBytes).1 halfDone _ _).2 accepted⟩

end FlowEdge
