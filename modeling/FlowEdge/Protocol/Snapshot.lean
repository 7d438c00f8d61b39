import FlowEdge.Protocol.ModelIdentity

/-!
# Decode snapshots

The byte format of a decode state: a header of 96 bytes that names the model, and the payload. The
checksum in the header is taken from a fingerprint of the payload, which may be any function.
-/

namespace FlowEdge

open Bytes

/-- The fields of an identity that a snapshot carries. -/
structure ModelIdentity where
  digest : ModelDigest := Vector.replicate 16 0
  architecture : UInt32 := 0
  precision : UInt32 := 0
  dModel : UInt64 := 0
  nLayers : UInt64 := 0
  dInner : UInt64 := 0
  dState : UInt64 := 0
  dConv : UInt64 := 0
  deriving DecidableEq

structure SnapshotError where
  code : Nat
  message : String
  deriving DecidableEq

namespace Snapshot

def kDecodeSnapshotHeaderBytes : Nat := 96

def kMagic : List UInt8 := [0x46, 0x45, 0x53, 0x4e, 0x41, 0x50, 0x30, 0x31]

def kVersion : Nat := 1

/-- `decode_snapshot_bytes`: the size of a snapshot, or zero if it does not fit a word. -/
def decodeSnapshotBytes (payloadBytes : Nat) : Nat :=
  if payloadBytes ≤ 2 ^ 64 - 1 - kDecodeSnapshotHeaderBytes then
    kDecodeSnapshotHeaderBytes + payloadBytes
  else 0

/-- The writes of the header, in the order of the source. -/
def headerWrites (identity : ModelIdentity) (payloadBytes : Nat) (checksum : UInt64) :
    List Write :=
  [(0, kMagic),
    (8, toLe 2 kVersion),
    (10, toLe 2 kDecodeSnapshotHeaderBytes),
    (12, toLe 4 0),
    (16, toLe 4 identity.architecture.toNat),
    (20, toLe 4 identity.precision.toNat),
    (24, identity.digest.toList),
    (40, toLe 8 identity.dModel.toNat),
    (48, toLe 8 identity.nLayers.toNat),
    (56, toLe 8 identity.dInner.toNat),
    (64, toLe 8 identity.dState.toNat),
    (72, toLe 8 identity.dConv.toNat),
    (80, toLe 8 payloadBytes),
    (88, toLe 8 checksum.toNat)]

section Codec

variable (fingerprint : List UInt8 → ModelDigest)

/-- `payload_checksum`: the first eight bytes of the fingerprint. -/
def payloadChecksum (payload : List UInt8) : UInt64 :=
  UInt64.ofNat (leNat (fingerprint payload).toList 0 8)

/-- The destination after the header and the payload were written; `none` if a write leaves it. -/
def fillSnapshot (identity : ModelIdentity) (payload destination : List UInt8) :
    Option (List UInt8) := do
  let cleared ← writeRange destination 0 (List.replicate (decodeSnapshotBytes payload.length) 0)
  let headed ← writeAll cleared
    (headerWrites identity payload.length (payloadChecksum fingerprint payload))
  writeRange headed kDecodeSnapshotHeaderBytes payload

/-- `export_decode_snapshot`: the destination afterwards. -/
def exportDecodeSnapshot (identity : ModelIdentity) (payload destination : List UInt8) :
    Option (Except SnapshotError (List UInt8)) :=
  let required := decodeSnapshotBytes payload.length
  if required = 0 ∨ destination.length < required then
    some (.error ⟨1, "Decode snapshot destination is too small"⟩)
  else (fillSnapshot fingerprint identity payload destination).map .ok

/-- The fields that name the model agree. -/
def compatible (expected : ModelIdentity) (source : List UInt8) : Bool :=
  leNat source 16 4 = expected.architecture.toNat ∧ leNat source 20 4 = expected.precision.toNat ∧
    digestAt source 24 = expected.digest ∧ leNat source 40 8 = expected.dModel.toNat ∧
    leNat source 48 8 = expected.nLayers.toNat ∧ leNat source 56 8 = expected.dInner.toNat ∧
    leNat source 64 8 = expected.dState.toNat ∧ leNat source 72 8 = expected.dConv.toNat

/-- `import_decode_snapshot`: the result, and the payload afterwards. The copy stays inside the
payload, whose size was compared. -/
def importDecodeSnapshot (expected : ModelIdentity) (source payload : List UInt8) :
    Except SnapshotError Unit × List UInt8 :=
  if source.length < kDecodeSnapshotHeaderBytes then
    (.error ⟨1, "Decode snapshot is truncated"⟩, payload)
  else if kMagic ≠ source.take 8 then
    (.error ⟨10, "Decode snapshot magic is invalid"⟩, payload)
  else if leNat source 8 2 ≠ kVersion ∨ leNat source 10 2 ≠ kDecodeSnapshotHeaderBytes then
    (.error ⟨9, "Decode snapshot version is unsupported"⟩, payload)
  else if leNat source 12 4 ≠ 0 then
    (.error ⟨10, "Decode snapshot header flags are invalid"⟩, payload)
  else
    let stateBytes := leNat source 80 8
    if stateBytes ≠ payload.length ∨ stateBytes > source.length - kDecodeSnapshotHeaderBytes ∨
        source.length ≠ kDecodeSnapshotHeaderBytes + stateBytes then
      (.error ⟨1, "Decode snapshot size is incompatible or truncated"⟩, payload)
    else if compatible expected source = false then
      (.error ⟨9, "Decode snapshot belongs to an incompatible model"⟩, payload)
    else
      let encodedPayload := source.drop kDecodeSnapshotHeaderBytes
      if leNat source 88 8 ≠ (payloadChecksum fingerprint encodedPayload).toNat then
        (.error ⟨10, "Decode snapshot checksum mismatch"⟩, payload)
      else (.ok (), (writeRange payload 0 encodedPayload).getD payload)

end Codec

/-! ## The header -/

theorem gapless_headerWrites (identity : ModelIdentity) (payloadBytes : Nat) (checksum : UInt64) :
    Gapless 0 (headerWrites identity payloadBytes checksum) := by
  simp [headerWrites, Gapless, kMagic]

theorem length_headerWrites (identity : ModelIdentity) (payloadBytes : Nat) (checksum : UInt64) :
    (written (headerWrites identity payloadBytes checksum)).length = 96 := by
  simp [headerWrites, written, kMagic]

/-- The checks of the fields, each at its offset, are that of the whole header. -/
theorem header_iff {source : List UInt8} (long : 96 ≤ source.length) (identity : ModelIdentity)
    {payloadBytes : Nat} (small : payloadBytes < 2 ^ 64) (checksum : UInt64) :
    written (headerWrites identity payloadBytes checksum) = source.take 96 ↔
      kMagic = source.take 8 ∧ leNat source 8 2 = kVersion ∧
        leNat source 10 2 = kDecodeSnapshotHeaderBytes ∧ leNat source 12 4 = 0 ∧
        compatible identity source = true ∧ leNat source 80 8 = payloadBytes ∧
        leNat source 88 8 = checksum.toNat := by
  have gapless := gapless_headerWrites identity payloadBytes checksum
  have pieces : written (headerWrites identity payloadBytes checksum) = source.take 96 ↔
      ∀ write ∈ headerWrites identity payloadBytes checksum,
        write.2 = (source.drop write.1).take write.2.length := by
    refine ⟨fun same => forall_of_written_eq_take gapless ?_, fun same => ?_⟩
    · rwa [length_headerWrites]
    · have whole := written_eq_take gapless same
      rwa [length_headerWrites] at whole
  have half : ∀ value : UInt32, value.toNat < 256 ^ 4 := fun value => value.toNat_lt
  have word : ∀ value : UInt64, value.toNat < 256 ^ 8 := fun value => value.toNat_lt
  rw [pieces]
  simp only [headerWrites, List.forall_mem_cons, length_toLe, Vector.length_toList]
  rw [toLe_eq_iff (by omega) (by decide), toLe_eq_iff (by omega) (by decide),
    toLe_eq_iff (by omega) (by decide), toLe_eq_iff (by omega) (half _),
    toLe_eq_iff (by omega) (half _), toList_eq_iff (by omega), toLe_eq_iff (by omega) (word _),
    toLe_eq_iff (by omega) (word _), toLe_eq_iff (by omega) (word _),
    toLe_eq_iff (by omega) (word _), toLe_eq_iff (by omega) (word _), toLe_eq_iff (by omega) small,
    toLe_eq_iff (by omega) (word _), compatible, decide_eq_true_eq]
  refine ⟨?_, ?_⟩
  · rintro ⟨magic, version, size, flags, architecture, precision, digest, dModel, nLayers, dInner,
      dState, dConv, payload, sum, -⟩
    exact ⟨magic, version, size, flags,
      ⟨architecture, precision, digest, dModel, nLayers, dInner, dState, dConv⟩, payload, sum⟩
  · rintro ⟨magic, version, size, flags,
      ⟨architecture, precision, digest, dModel, nLayers, dInner, dState, dConv⟩, payload, sum⟩
    exact ⟨magic, version, size, flags, architecture, precision, digest, dModel, nLayers, dInner,
      dState, dConv, payload, sum, nofun⟩

/-! ## Both ways -/

/-- The bytes of a snapshot. -/
def snapshot (fingerprint : List UInt8 → ModelDigest) (identity : ModelIdentity)
    (payload : List UInt8) : List UInt8 :=
  written (headerWrites identity payload.length (payloadChecksum fingerprint payload)) ++ payload

section Exact

variable (fingerprint : List UInt8 → ModelDigest) (identity : ModelIdentity)

theorem length_snapshot (payload : List UInt8) :
    (snapshot fingerprint identity payload).length = 96 + payload.length := by
  rw [snapshot, List.length_append, length_headerWrites]

theorem decodeSnapshotBytes_eq {payloadBytes : Nat} (possible : 96 + payloadBytes < 2 ^ 64) :
    decodeSnapshotBytes payloadBytes = 96 + payloadBytes :=
  if_pos (by rw [kDecodeSnapshotHeaderBytes]; omega)

/-- An export into a destination of the required size leaves the bytes of the snapshot there. -/
theorem exportDecodeSnapshot_eq {payload destination : List UInt8}
    (possible : 96 + payload.length < 2 ^ 64)
    (exact : destination.length = decodeSnapshotBytes payload.length) :
    exportDecodeSnapshot fingerprint identity payload destination =
      some (.ok (snapshot fingerprint identity payload)) := by
  have size := decodeSnapshotBytes_eq possible
  rw [size] at exact
  let header := headerWrites identity payload.length (payloadChecksum fingerprint payload)
  have headerSize : (written header).length = 96 := length_headerWrites _ _ _
  have cleared : writeRange destination 0 (List.replicate (96 + payload.length) 0) =
      some (List.replicate (96 + payload.length) 0) :=
    writeRange_whole (by rw [List.length_replicate, exact])
  have headed : writeAll (List.replicate (96 + payload.length) 0) header =
      some (written header ++ List.replicate payload.length 0) := by
    have filled := writeAll_gapless [] (List.replicate (96 + payload.length) 0)
      (gapless_headerWrites identity payload.length (payloadChecksum fingerprint payload))
      (by rw [headerSize, List.length_replicate]; omega)
    rwa [List.nil_append, List.nil_append, headerSize, List.drop_replicate,
      Nat.add_sub_cancel_left] at filled
  have placed : writeRange (written header ++ List.replicate payload.length 0)
      kDecodeSnapshotHeaderBytes payload = some (written header ++ payload) := by
    have put := writeRange_append (written header) (List.replicate payload.length 0) payload
      headerSize.symm (by rw [List.length_replicate])
    rwa [List.drop_eq_nil_of_le (by rw [List.length_replicate]), List.append_nil] at put
  rw [exportDecodeSnapshot, size, if_neg (by omega), fillSnapshot, size]
  simp only [Option.bind_eq_bind, cleared, Option.bind_some]
  rw [headed, Option.bind_some, placed]
  rfl

variable {fingerprint identity} {source : List UInt8}

/-- A snapshot passes every check of its header. -/
theorem checks_snapshot {state : List UInt8} (small : state.length < 2 ^ 64)
    (isSnapshot : source = snapshot fingerprint identity state) :
    source.length = 96 + state.length ∧ source.drop 96 = state ∧ kMagic = source.take 8 ∧
      leNat source 8 2 = kVersion ∧ leNat source 10 2 = kDecodeSnapshotHeaderBytes ∧
      leNat source 12 4 = 0 ∧ compatible identity source = true ∧
      leNat source 80 8 = state.length ∧
      leNat source 88 8 = (payloadChecksum fingerprint state).toNat := by
  have size : source.length = 96 + state.length := by rw [isSnapshot, length_snapshot]
  have header := length_headerWrites identity state.length (payloadChecksum fingerprint state)
  refine ⟨size, ?_, (header_iff (by omega) identity small _).mp ?_⟩
  · rw [isSnapshot, snapshot, List.drop_left' header]
  · rw [isSnapshot, snapshot, List.take_left' header]

/-- A header that passes every check is that of a snapshot. -/
theorem snapshot_of_checks (small : source.length < 2 ^ 64)
    (size : source.length = kDecodeSnapshotHeaderBytes + leNat source 80 8)
    (magic : kMagic = source.take 8) (version : leNat source 8 2 = kVersion)
    (headerBytes : leNat source 10 2 = kDecodeSnapshotHeaderBytes) (flags : leNat source 12 4 = 0)
    (model : compatible identity source = true)
    (sum : leNat source 88 8 = (payloadChecksum fingerprint (source.drop 96)).toNat) :
    source = snapshot fingerprint identity (source.drop 96) := by
  rw [kDecodeSnapshotHeaderBytes] at size
  have rest : (source.drop 96).length = leNat source 80 8 := by
    rw [List.length_drop]
    omega
  have header := (header_iff (by omega) identity (by omega : (source.drop 96).length < 2 ^ 64)
    (payloadChecksum fingerprint (source.drop 96))).mpr
      ⟨magic, version, headerBytes, flags, model, rest.symm, sum⟩
  rw [snapshot, header, List.take_append_drop]

/-- An import takes the payload out of a snapshot of the model, and leaves its buffer as it is
for every other string. -/
theorem importDecodeSnapshot_cases (payload : List UInt8) (small : source.length < 2 ^ 64) :
    (source = snapshot fingerprint identity (source.drop 96) ∧
        (source.drop 96).length = payload.length ∧
        importDecodeSnapshot fingerprint identity source payload = (.ok (), source.drop 96)) ∨
      (∀ state, source = snapshot fingerprint identity state → state.length ≠ payload.length) ∧
        ∃ error, importDecodeSnapshot fingerprint identity source payload =
          (.error error, payload) := by
  have checks : ∀ state, source = snapshot fingerprint identity state →
      state.length = payload.length → _ := fun state isSnapshot same =>
    checks_snapshot (by rw [isSnapshot, length_snapshot] at small; omega) isSnapshot
  unfold importDecodeSnapshot
  dsimp only
  split
  · next short =>
    refine .inr ⟨fun state isSnapshot same => ?_, _, rfl⟩
    have size := (checks state isSnapshot same).1
    rw [kDecodeSnapshotHeaderBytes] at short
    omega
  next long =>
  split
  · next wrong =>
    refine .inr ⟨fun state isSnapshot same => ?_, _, rfl⟩
    obtain ⟨-, -, magic, -⟩ := checks state isSnapshot same
    exact wrong magic
  next magic =>
  split
  · next wrong =>
    refine .inr ⟨fun state isSnapshot same => ?_, _, rfl⟩
    obtain ⟨-, -, -, version, size, -⟩ := checks state isSnapshot same
    exact wrong.elim (· version) (· size)
  next fixed =>
  split
  · next wrong =>
    refine .inr ⟨fun state isSnapshot same => ?_, _, rfl⟩
    obtain ⟨-, -, -, -, -, flags, -⟩ := checks state isSnapshot same
    exact wrong flags
  next flags =>
  split
  · next wrong =>
    refine .inr ⟨fun state isSnapshot same => ?_, _, rfl⟩
    obtain ⟨size, -, -, -, -, -, -, count, -⟩ := checks state isSnapshot same
    rw [kDecodeSnapshotHeaderBytes] at wrong
    omega
  next sized =>
  split
  · next wrong =>
    refine .inr ⟨fun state isSnapshot same => ?_, _, rfl⟩
    obtain ⟨-, -, -, -, -, -, model, -⟩ := checks state isSnapshot same
    exact Bool.false_ne_true (wrong.symm.trans model)
  next model =>
  split
  · next wrong =>
    refine .inr ⟨fun state isSnapshot same => ?_, _, rfl⟩
    obtain ⟨-, rest, -, -, -, -, -, -, sum⟩ := checks state isSnapshot same
    rw [kDecodeSnapshotHeaderBytes, rest] at wrong
    exact wrong sum
  next sum =>
    simp only [not_or, not_not, Bool.not_eq_false] at magic fixed flags sized model sum
    have rest : (source.drop 96).length = payload.length := by
      rw [List.length_drop, ← sized.1]
      rw [kDecodeSnapshotHeaderBytes] at sized
      omega
    refine .inl ⟨snapshot_of_checks small sized.2.2 magic fixed.1 fixed.2 flags model sum, rest, ?_⟩
    rw [kDecodeSnapshotHeaderBytes, writeRange_whole rest, Option.getD_some]

end Exact

/-- **The snapshot codec is exact and atomic**, whatever the fingerprint is: importing what was
exported into a buffer of the required size restores the payload, an accepted string is byte for
byte the export of the model and of the payload that was imported, and a refused import leaves the
payload as it was. -/
theorem snapshot_codec_exact (fingerprint : List UInt8 → ModelDigest) (identity : ModelIdentity) :
    (∀ payload destination buffer : List UInt8, decodeSnapshotBytes payload.length ≠ 0 →
      destination.length = decodeSnapshotBytes payload.length → buffer.length = payload.length →
        ∃ bytes, exportDecodeSnapshot fingerprint identity payload destination = some (.ok bytes) ∧
          importDecodeSnapshot fingerprint identity bytes buffer = (.ok (), payload)) ∧
    (∀ source buffer after destination : List UInt8, source.length < 2 ^ 64 →
      importDecodeSnapshot fingerprint identity source buffer = (.ok (), after) →
        destination.length = source.length →
        exportDecodeSnapshot fingerprint identity after destination = some (.ok source)) ∧
    ∀ source buffer : List UInt8, source.length < 2 ^ 64 →
      ∀ error, (importDecodeSnapshot fingerprint identity source buffer).1 = .error error →
        (importDecodeSnapshot fingerprint identity source buffer).2 = buffer := by
  refine ⟨fun payload destination buffer possible exact same => ?_,
    fun source buffer after destination small accepted exact => ?_,
    fun source buffer small error refused => ?_⟩
  · have bound : 96 + payload.length < 2 ^ 64 := by
      rw [decodeSnapshotBytes, kDecodeSnapshotHeaderBytes] at possible
      split at possible
      · omega
      · exact absurd rfl possible
    refine ⟨_, exportDecodeSnapshot_eq fingerprint identity bound exact, ?_⟩
    have size := length_snapshot fingerprint identity payload
    have rest : (snapshot fingerprint identity payload).drop 96 = payload :=
      List.drop_left' (length_headerWrites _ _ _)
    have few : (snapshot fingerprint identity payload).length < 2 ^ 64 := by omega
    rcases importDecodeSnapshot_cases buffer few with ⟨-, -, restored⟩ | ⟨other, -⟩
    · rw [restored, rest]
    · exact absurd same.symm (other payload rfl)
  · rcases importDecodeSnapshot_cases buffer small with ⟨isSnapshot, -, ok⟩ | ⟨-, error, kept⟩
    · rw [ok] at accepted
      cases accepted
      have size : source.length = 96 + (source.drop 96).length := by
        conv_lhs => rw [isSnapshot, length_snapshot]
      have possible : 96 + (source.drop 96).length < 2 ^ 64 := by omega
      rw [exportDecodeSnapshot_eq fingerprint identity possible (by
        rw [decodeSnapshotBytes_eq possible]
        omega), ← isSnapshot]
    · rw [kept] at accepted
      cases accepted
  · rcases importDecodeSnapshot_cases buffer small with ⟨-, -, ok⟩ | ⟨-, _, kept⟩
    · rw [ok] at refused
      cases refused
    · rw [kept]

/-- A snapshot of four bytes with the fingerprint of the source: it is imported, exported again over
itself, and refused without its last byte. -/
theorem snapshot_codec_exact_short :
    ∃ bytes, exportDecodeSnapshot fingerprintBytes { nLayers := 1 } [1, 2, 3, 4]
        (List.replicate 100 7) = some (.ok bytes) ∧
      importDecodeSnapshot fingerprintBytes { nLayers := 1 } bytes [0, 0, 0, 0] =
        (.ok (), [1, 2, 3, 4]) ∧
      exportDecodeSnapshot fingerprintBytes { nLayers := 1 } [1, 2, 3, 4] bytes =
        some (.ok bytes) ∧
      (importDecodeSnapshot fingerprintBytes { nLayers := 1 } (bytes.take 99) [0, 0, 0, 0]).2 =
        [0, 0, 0, 0] := by
  obtain ⟨restores, exports, keeps⟩ := snapshot_codec_exact fingerprintBytes { nLayers := 1 }
  obtain ⟨bytes, exported, imported⟩ := restores [1, 2, 3, 4] (List.replicate 100 7) [0, 0, 0, 0]
    (by decide) (by decide) rfl
  have isSnapshot : exportDecodeSnapshot fingerprintBytes { nLayers := 1 } [1, 2, 3, 4]
      (List.replicate 100 7) = _ := exportDecodeSnapshot_eq _ _ (by decide) (by decide)
  rw [exported] at isSnapshot
  cases isSnapshot
  refine ⟨_, exported, imported, exports _ _ _ _ (by decide +kernel) imported rfl, ?_⟩
  exact keeps _ _ (by decide +kernel)
    ⟨1, "Decode snapshot size is incompatible or truncated"⟩ (by decide +kernel)

end Snapshot

end FlowEdge
