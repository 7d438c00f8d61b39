import FlowEdge.Foundation.Words
import FlowEdge.SharedMemory.RingFifo

/-!
# The layout of a shared-memory ring

A mapping starts with the ring header, and the slots follow it at a fixed stride. Sizes are words
of 64 bits. A configuration that `required_bytes` gives a size lays its slots out without overlap
inside a mapping of that size, and none of the sums and products on the way wraps.
-/

namespace FlowEdge

open Words

namespace Ring

def ringMagic : UInt32 := 0x31475246
def ringVersion : UInt32 := 1
def alignment : UInt64 := 64

/-- `sizeof(RingHeader)` -/
def ringHeaderBytes : UInt64 := 3 * alignment

/-- `sizeof(SlotHeader)` -/
def slotHeaderBytes : UInt64 := 16

def alignUp (value : UInt64) : UInt64 := (value + alignment - 1) &&& ~~~(alignment - 1)

/-- The bytes from one slot to the next. -/
def slotStride (slotBytes : UInt32) : UInt64 := alignUp (slotHeaderBytes + slotBytes.toUInt64)

/-- `required_bytes`, or zero for a configuration that is refused. -/
def requiredBytes (config : RingConfig) : UInt64 :=
  if config.capacity < 2 ∨ ¬ hasSingleBit config.capacity ∨ config.slotBytes = 0 then 0
  else
    let stride := slotStride config.slotBytes
    if stride > (maxWord - ringHeaderBytes) / config.capacity.toUInt64 then 0
    else ringHeaderBytes + stride * config.capacity.toUInt64

/-- The part of `RingHeader` that does not change. -/
structure Header where
  magic : UInt32 := ringMagic
  version : UInt32 := ringVersion
  capacity : UInt32 := 0
  slotBytes : UInt32 := 0
  mappingBytes : UInt64 := 0

def Header.config (header : Header) : RingConfig := ⟨header.capacity, header.slotBytes⟩

/-- Where `slot` points to, counted from the start of the mapping. -/
def slotOffset (config : RingConfig) (sequence : UInt64) : UInt64 :=
  ringHeaderBytes +
    (sequence &&& (config.capacity - 1).toUInt64) * slotStride config.slotBytes

/-- `validate_mapping`. The mapping is the header at its start, which is only read if the mapping is
as long; `lockFree` says whether 64-bit atomics are. -/
def validateMapping (mapping : Option Header) (bytes : UInt64) (lockFree : Bool) :
    Except String Unit :=
  match mapping with
  | none => .error "Shared-memory ring is smaller than its header"
  | some header =>
      if bytes < ringHeaderBytes then .error "Shared-memory ring is smaller than its header"
      else
        let expected := requiredBytes header.config
        if header.magic ≠ ringMagic ∨ header.version ≠ ringVersion ∨ expected = 0 ∨
            header.mappingBytes ≠ expected ∨ bytes < expected then
          .error "Shared-memory ring header is incompatible or corrupt"
        else if ¬ lockFree then
          .error "Interprocess 64-bit atomics are not lock-free on this platform"
        else .ok ()

/-! ## Sizes -/

section Sizes

variable (config : RingConfig)

/-- The bytes of a slot with its header. -/
def slotSize : Nat := 16 + config.slotBytes.toNat

theorem toNat_slotBytes :
    (slotHeaderBytes + config.slotBytes.toUInt64).toNat = slotSize config := by
  have small := config.slotBytes.toNat_lt
  rw [UInt64.toNat_add, UInt32.toNat_toUInt64, slotHeaderBytes, slotSize]
  exact Nat.mod_eq_of_lt (by change 16 + _ < _; omega)

theorem slotSize_lt : slotSize config < 2 ^ 33 := by
  have small := config.slotBytes.toNat_lt
  rw [slotSize]
  omega

/-- The sum that `align_up` rounds down. -/
structure RoundsUp : Prop where
  padded : (slotHeaderBytes + config.slotBytes.toUInt64 + alignment).toNat = slotSize config + 64
  raised : (slotHeaderBytes + config.slotBytes.toUInt64 + alignment - 1).toNat =
    slotSize config + 63
  stride : (slotStride config.slotBytes).toNat = (slotSize config + 63) / 64 * 64

theorem roundsUp : RoundsUp config := by
  have small := slotSize_lt config
  have padded : (slotHeaderBytes + config.slotBytes.toUInt64 + alignment).toNat =
      slotSize config + 64 := by
    rw [UInt64.toNat_add, toNat_slotBytes, alignment]
    exact Nat.mod_eq_of_lt (by change _ + 64 < _; omega)
  have raised : (slotHeaderBytes + config.slotBytes.toUInt64 + alignment - 1).toNat =
      slotSize config + 63 := by
    rw [toNat_sub_one (by omega), padded]
    omega
  refine ⟨padded, raised, ?_⟩
  have mask : ~~~(alignment - 1) = ~~~(63 : UInt64) := by decide
  rw [slotStride, alignUp, mask, toNat_and_not_63, raised]

/-- A slot fits its stride, and a stride is a multiple of the alignment. -/
theorem slotStride_spec :
    slotSize config ≤ (slotStride config.slotBytes).toNat ∧
      64 ∣ (slotStride config.slotBytes).toNat ∧ (slotStride config.slotBytes).toNat < 2 ^ 34 := by
  have small := slotSize_lt config
  rw [(roundsUp config).stride]
  refine ⟨by omega, Nat.dvd_mul_left _ _, by omega⟩

end Sizes

/-! ## Layouts -/

section Layouts

variable {config : RingConfig}

theorem sized_of_requiredBytes (nonzero : requiredBytes config ≠ 0) : config.Sized := by
  unfold requiredBytes at nonzero
  split at nonzero
  next => exact absurd rfl nonzero
  next valid =>
    simp only [not_or, not_not, UInt32.not_lt] at valid
    exact ⟨valid.1, valid.2.1⟩

/-- A nonzero size is the exact one. -/
theorem requiredBytes_eq (nonzero : requiredBytes config ≠ 0) :
    requiredBytes config =
        ringHeaderBytes + slotStride config.slotBytes * config.capacity.toUInt64 ∧
      192 + (slotStride config.slotBytes).toNat * config.capacity.toNat < 2 ^ 64 := by
  have positive := (sized_of_requiredBytes nonzero).capacity_pos
  unfold requiredBytes at nonzero ⊢
  split at nonzero
  next => exact absurd rfl nonzero
  next valid =>
    rw [if_neg valid]
    dsimp only at nonzero ⊢
    split at nonzero
    next => exact absurd rfl nonzero
    next fits =>
      rw [if_neg fits]
      refine ⟨rfl, ?_⟩
      have limit : (maxWord - ringHeaderBytes).toNat = 2 ^ 64 - 1 - 192 := by decide
      rw [gt_iff_lt, UInt64.not_lt, UInt64.le_iff_toNat_le, UInt64.toNat_div, limit,
        UInt32.toNat_toUInt64, Nat.le_div_iff_mul_le positive] at fits
      omega

/-- No sum, difference or product in the sizes and in the address of a slot wraps. -/
structure Exact (config : RingConfig) (sequence : UInt64) : Prop where
  slot : (slotHeaderBytes + config.slotBytes.toUInt64).toNat = 16 + config.slotBytes.toNat
  padded : (slotHeaderBytes + config.slotBytes.toUInt64 + alignment).toNat =
    16 + config.slotBytes.toNat + 64
  raised : (slotHeaderBytes + config.slotBytes.toUInt64 + alignment - 1).toNat =
    16 + config.slotBytes.toNat + 64 - 1
  limit : (maxWord - ringHeaderBytes).toNat = maxWord.toNat - ringHeaderBytes.toNat
  product : (slotStride config.slotBytes * config.capacity.toUInt64).toNat =
    (slotStride config.slotBytes).toNat * config.capacity.toNat
  total : (ringHeaderBytes + slotStride config.slotBytes * config.capacity.toUInt64).toNat =
    192 + (slotStride config.slotBytes).toNat * config.capacity.toNat
  mask : 1 ≤ config.capacity.toNat ∧ (config.capacity - 1).toNat = config.capacity.toNat - 1
  place : ((sequence &&& (config.capacity - 1).toUInt64) * slotStride config.slotBytes).toNat =
    sequence.toNat % config.capacity.toNat * (slotStride config.slotBytes).toNat
  offset : (slotOffset config sequence).toNat =
    192 + sequence.toNat % config.capacity.toNat * (slotStride config.slotBytes).toNat

/-- Half-open ranges of bytes without a common one. -/
def Apart (first size second other : Nat) : Prop := first + size ≤ second ∨ second + other ≤ first

/-- The slots of a ring in a mapping of some bytes. -/
structure LaidOut (config : RingConfig) (bytes : Nat) : Prop where
  exact : ∀ sequence, Exact config sequence
  inside : ∀ sequence, (slotOffset config sequence).toNat + slotSize config ≤ bytes
  apart : ∀ first second : UInt64,
    first.toNat % config.capacity.toNat ≠ second.toNat % config.capacity.toNat →
    Apart (slotOffset config first).toNat (slotSize config) (slotOffset config second).toNat
      (slotSize config)
  header : ∀ sequence, Apart 0 ringHeaderBytes.toNat (slotOffset config sequence).toNat
    (slotSize config)
  aligned : ∀ sequence, 64 ∣ (slotOffset config sequence).toNat

theorem exact_of_requiredBytes (nonzero : requiredBytes config ≠ 0) (sequence : UInt64) :
    Exact config sequence := by
  have sized := sized_of_requiredBytes nonzero
  have positive := sized.capacity_pos
  obtain ⟨-, fits⟩ := requiredBytes_eq nonzero
  obtain ⟨padded, raised, -⟩ := roundsUp config
  have index : (sequence &&& (config.capacity - 1).toUInt64).toNat =
      sequence.toNat % config.capacity.toNat := sized.slotIndex_eq sequence
  have within : sequence.toNat % config.capacity.toNat * (slotStride config.slotBytes).toNat ≤
      (slotStride config.slotBytes).toNat * config.capacity.toNat := by
    rw [Nat.mul_comm (slotStride config.slotBytes).toNat]
    exact Nat.mul_le_mul_right _ (Nat.mod_lt _ positive).le
  have product : (slotStride config.slotBytes * config.capacity.toUInt64).toNat =
      (slotStride config.slotBytes).toNat * config.capacity.toNat := by
    rw [UInt64.toNat_mul, UInt32.toNat_toUInt64, Nat.mod_eq_of_lt (by omega)]
  have place : ((sequence &&& (config.capacity - 1).toUInt64) *
      slotStride config.slotBytes).toNat =
      sequence.toNat % config.capacity.toNat * (slotStride config.slotBytes).toNat := by
    rw [UInt64.toNat_mul, index, Nat.mod_eq_of_lt (by omega)]
  have head : ringHeaderBytes.toNat = 192 := rfl
  refine ⟨toNat_slotBytes config, padded, raised, by decide, product, ?_, ⟨positive, ?_⟩, place, ?_⟩
  · rw [UInt64.toNat_add, product, head, Nat.mod_eq_of_lt fits]
  · exact UInt32.toNat_sub_of_le _ _ (UInt32.le_iff_toNat_le.mpr positive)
  · rw [slotOffset, UInt64.toNat_add, place, head, Nat.mod_eq_of_lt (by omega)]

theorem laidOut_of_requiredBytes (nonzero : requiredBytes config ≠ 0) {bytes : Nat}
    (room : (requiredBytes config).toNat ≤ bytes) : LaidOut config bytes := by
  have sized := sized_of_requiredBytes nonzero
  have exact := exact_of_requiredBytes nonzero
  obtain ⟨size, aligned, -⟩ := slotStride_spec config
  -- The slot of a smaller index ends before the slot of a larger one begins.
  have before : ∀ {first second : Nat}, first < second →
      first * (slotStride config.slotBytes).toNat + slotSize config ≤
        second * (slotStride config.slotBytes).toNat := by
    intro first second smaller
    have next := Nat.mul_le_mul_right (slotStride config.slotBytes).toNat smaller
    rw [Nat.succ_eq_add_one, Nat.add_mul, Nat.one_mul] at next
    omega
  refine ⟨exact, fun sequence => ?_, fun first second different => ?_, fun sequence => .inl ?_,
    fun sequence => ?_⟩
  · have last := before (Nat.mod_lt sequence.toNat sized.capacity_pos)
    have total := (exact sequence).total
    rw [← (requiredBytes_eq nonzero).1, Nat.mul_comm] at total
    rw [(exact sequence).offset]
    omega
  · rw [(exact first).offset, (exact second).offset]
    rcases Nat.lt_or_gt_of_ne different with less | greater
    · have ends := before less
      exact .inl (by omega)
    · have ends := before greater
      exact .inr (by omega)
  · rw [(exact sequence).offset]
    change 0 + 192 ≤ _
    omega
  · rw [(exact sequence).offset]
    exact Nat.dvd_add (by decide) (Dvd.dvd.mul_left aligned _)

end Layouts

/-- **Layout.** A configuration with a size is laid out in a mapping of that size, and
`validate_mapping` accepts a mapping only if the configuration in its header is laid out in it. -/
theorem ring_layout_sound :
    (∀ config, requiredBytes config ≠ 0 → LaidOut config (requiredBytes config).toNat) ∧
      ∀ mapping bytes lockFree, validateMapping mapping bytes lockFree = .ok () →
        ∃ header, mapping = some header ∧ requiredBytes header.config ≠ 0 ∧
          header.mappingBytes = requiredBytes header.config ∧
          requiredBytes header.config ≤ bytes ∧ LaidOut header.config bytes.toNat := by
  refine ⟨fun config nonzero => laidOut_of_requiredBytes nonzero le_rfl, ?_⟩
  intro mapping bytes lockFree accepted
  unfold validateMapping at accepted
  split at accepted
  next => cases accepted
  next header =>
    simp only [ite_error_eq_ok, not_or, not_not, ne_eq, UInt64.not_lt] at accepted
    obtain ⟨-, ⟨-, -, nonzero, size, room⟩, -⟩ := accepted
    exact ⟨header, rfl, nonzero, size, room,
      laidOut_of_requiredBytes nonzero (UInt64.le_iff_toNat_le.mp room)⟩

theorem ring_layout_sound_pair :
    requiredBytes ⟨2, 100⟩ = 448 ∧ LaidOut ⟨2, 100⟩ 448 ∧
      validateMapping (some { capacity := 2, slotBytes := 100, mappingBytes := 448 }) 512 true =
        .ok () ∧
      LaidOut ⟨2, 100⟩ 512 := by
  have accepted : validateMapping
      (some { capacity := 2, slotBytes := 100, mappingBytes := 448 }) 512 true = .ok () := by
    decide +kernel
  obtain ⟨header, same, -, -, -, laidOut⟩ := ring_layout_sound.2 _ _ _ accepted
  cases same
  exact ⟨by decide +kernel, ring_layout_sound.1 ⟨2, 100⟩ (by decide +kernel), accepted, laidOut⟩

end Ring

end FlowEdge
