import Mathlib.Data.List.Infix
import Mathlib.Data.Int.ModEq
import FlowEdge.SharedMemory.BoundedRing

/-!
# The shared-memory ring is a bounded FIFO

The producer owns the slot of the next write sequence as soon as it has seen room,
and the consumer owns the slot of the read sequence as soon as it has seen a
published one. The invariant says which payload each published slot holds and how
far the producer has filled its own slot. Every step of either party keeps it.
-/

namespace FlowEdge

namespace RingConfig

/-- The ring sizes that creation accepts: a power of two, at least two. -/
structure Sized (config : RingConfig) : Prop where
  atLeastTwo : 2 ≤ config.capacity
  singleBit : hasSingleBit config.capacity = true

/-- The slot of the payload with the given number, counted from the start of the run. -/
def position (config : RingConfig) (start : UInt64) (number : Nat) : Nat :=
  config.slotIndex (start + UInt64.ofNat number)

variable {config : RingConfig}

theorem Sized.exists_bits (sized : config.Sized) :
    ∃ bits < 32, config.capacity.toNat = 2 ^ bits := by
  have single := sized.singleBit
  simpa [hasSingleBit] using single

theorem Sized.capacity_pos (sized : config.Sized) : 0 < config.capacity.toNat := by
  obtain ⟨bits, -, power⟩ := sized.exists_bits
  rw [power]
  exact Nat.two_pow_pos bits

theorem Sized.slotIndex_eq (sized : config.Sized) (sequence : UInt64) :
    config.slotIndex sequence = sequence.toNat % config.capacity.toNat := by
  obtain ⟨bits, -, power⟩ := sized.exists_bits
  have positive : 1 ≤ config.capacity :=
    UInt32.le_iff_toNat_le.mpr sized.capacity_pos
  have mask : (config.capacity - 1).toNat = 2 ^ bits - 1 := by
    rw [UInt32.toNat_sub_of_le _ _ positive, power]
    rfl
  rw [slotIndex, UInt64.toNat_and, UInt32.toNat_toUInt64, mask,
    Nat.and_two_pow_sub_one_eq_mod, power]

/-- The capacity divides `2 ^ 64`, so the wrap-around of the sequence numbers does not
disturb the assignment of slots. -/
theorem Sized.position_eq (sized : config.Sized) (start : UInt64) (number : Nat) :
    config.position start number = (start.toNat + number) % config.capacity.toNat := by
  obtain ⟨bits, small, power⟩ := sized.exists_bits
  have divides : 2 ^ bits ∣ 2 ^ 64 := Nat.pow_dvd_pow 2 (by omega)
  rw [position, sized.slotIndex_eq, UInt64.toNat_add, UInt64.toNat_ofNat', power,
    Nat.mod_mod_of_dvd _ divides, Nat.add_mod, Nat.mod_mod_of_dvd _ divides, ← Nat.add_mod]

theorem Sized.position_ne (sized : config.Sized) (start : UInt64) {first second : Nat}
    (before : first < second) (near : second < first + config.capacity.toNat) :
    config.position start first ≠ config.position start second := by
  intro same
  rw [sized.position_eq, sized.position_eq] at same
  have divides := (Nat.modEq_iff_dvd' (by omega)).mp same
  have large := Nat.le_of_dvd (by omega) divides
  omega

end RingConfig

namespace Ring

/-- The slot holds a complete payload. -/
structure Slot.Holds (checksum : List UInt8 → UInt64) (slot : Slot) (payload : List UInt8) :
    Prop where
  bytes : slot.bytes.toNat = payload.length
  reserved : slot.reserved = 0
  checksum : slot.checksum = checksum payload
  payload : ∀ offset < payload.length, payload[offset]? = some (slot.payload offset)

section Invariant

variable (config : RingConfig) (checksum : List UInt8 → UInt64) (start : UInt64)

/-- The state of the mapping after the payloads `pushed` were published and the payloads
`popped` were taken. -/
structure Shared (memory : Memory) (pushed popped : List (List UInt8)) : Prop where
  write : memory.writeSequence = start + UInt64.ofNat pushed.length
  read : memory.readSequence = start + UInt64.ofNat popped.length
  inOrder : popped <+: pushed
  bounded : pushed.length ≤ popped.length + config.capacity.toNat
  fits : ∀ payload ∈ pushed, payload.length ≤ config.slotBytes.toNat
  stored : ∀ number payload, popped.length ≤ number → pushed[number]? = some payload →
    (memory.slots (config.position start number)).Holds checksum payload

/-- The producer has seen room for `payload` at the sequence number `write`. -/
structure Claimed (memory : Memory) (pushed popped : List (List UInt8)) (payload : List UInt8)
    (write : UInt64) : Prop where
  fits : payload.length ≤ config.slotBytes.toNat
  current : write = memory.writeSequence
  room : pushed.length < popped.length + config.capacity.toNat

/-- What the producer knows at each location, and what it has written so far. -/
def ProducerKnows (memory : Memory) (pushed popped : List (List UInt8)) : Producer → Prop
  | .idle => True
  | .loadWrite payload => payload.length ≤ config.slotBytes.toNat
  | .loadRead payload write =>
      payload.length ≤ config.slotBytes.toNat ∧ write = memory.writeSequence
  | .storeBytes payload write => Claimed config memory pushed popped payload write
  | .storeReserved payload write =>
      Claimed config memory pushed popped payload write ∧
        (memory.slots (config.slotIndex write)).bytes.toNat = payload.length
  | .storeChecksum payload write =>
      Claimed config memory pushed popped payload write ∧
        (memory.slots (config.slotIndex write)).bytes.toNat = payload.length ∧
        (memory.slots (config.slotIndex write)).reserved = 0
  | .copy payload write offset =>
      Claimed config memory pushed popped payload write ∧
        (memory.slots (config.slotIndex write)).bytes.toNat = payload.length ∧
        (memory.slots (config.slotIndex write)).reserved = 0 ∧
        (memory.slots (config.slotIndex write)).checksum = checksum payload ∧
        ∀ done < payload.length, done < offset →
          payload[done]? = some ((memory.slots (config.slotIndex write)).payload done)
  | .publish payload write =>
      Claimed config memory pushed popped payload write ∧
        (memory.slots (config.slotIndex write)).Holds checksum payload

/-- What the consumer knows at each location. It never mentions the slots: the bytes it
has loaded are those of the oldest unread payload. -/
def ConsumerKnows (memory : Memory) (pushed popped : List (List UInt8)) : Consumer → Prop
  | .idle | .loadRead _ => True
  | .loadWrite _ read => read = memory.readSequence
  | .checkBytes _ read | .checkReserved _ read | .compareSize _ read | .spanBytes _ read =>
      read = memory.readSequence ∧ popped.length < pushed.length
  | .hash read length taken | .copy read length taken =>
      read = memory.readSequence ∧
        ∃ payload, pushed[popped.length]? = some payload ∧ length = payload.length ∧
          taken <+: payload
  | .compareChecksum read length computed =>
      read = memory.readSequence ∧
        ∃ payload, pushed[popped.length]? = some payload ∧ length = payload.length ∧
          computed = checksum payload
  | .publish read taken =>
      read = memory.readSequence ∧ pushed[popped.length]? = some taken
  | .discard _ => False

/-- The locations of `try_push` before its first store. -/
def Producer.BeforeStores : Producer → Prop
  | .idle | .loadWrite _ | .loadRead .. | .storeBytes .. => True
  | _ => False

/-- A finished call never reports corruption, and changed the mapping only if it
succeeded. -/
def Call.Clean (call : Call) : Prop :=
  call.result ≠ .corrupt ∧ (call.result ≠ .success → call.stores = [])

/-- The invariant of the ring and its parties. -/
structure Invariant (state : State) : Prop where
  shared : Shared config checksum start state.memory state.pushed state.popped
  producer : ProducerKnows config checksum state.memory state.pushed state.popped
    state.producer.location
  consumer : ConsumerKnows checksum state.memory state.pushed state.popped
    state.consumer.location
  producerStores : state.producer.location.BeforeStores → state.producer.stores = []
  consumerStores : state.consumer.stores = []
  producerCalls : ∀ call ∈ state.producer.calls, call.Clean
  consumerCalls : ∀ call ∈ state.consumer.calls, call.Clean
  linear : state.Linear config

end Invariant

variable {config : RingConfig} {checksum : List UInt8 → UInt64} {start : UInt64}

/-! ## Stores and the log of calls -/

@[simp] theorem Memory.modifySlot_same (memory : Memory) (index : Nat) (update : Slot → Slot) :
    (memory.modifySlot index update).slots index = update (memory.slots index) := by
  simp [Memory.modifySlot]

theorem Memory.modifySlot_other (memory : Memory) {index other : Nat} (update : Slot → Slot)
    (different : other ≠ index) :
    (memory.modifySlot index update).slots other = memory.slots other := by
  simp [Memory.modifySlot, different]

@[simp] theorem Memory.modifySlot_readSequence (memory : Memory) (index : Nat)
    (update : Slot → Slot) :
    (memory.modifySlot index update).readSequence = memory.readSequence := rfl

@[simp] theorem Party.advance_location {Location : Type} (party : Party Location)
    (effect : Effect Location (RingResult × List UInt8)) :
    (party.advance effect).location = effect.next := by
  unfold Party.advance
  split <;> rfl

/-- The payload a step adds to the log of successful calls. -/
def Effect.delivered {Location : Type} (effect : Effect Location (RingResult × List UInt8)) :
    List (List UInt8) :=
  match effect.returned with
  | some (.success, payload) => [payload]
  | _ => []

theorem Party.payloads_advance {Location : Type} (party : Party Location)
    (effect : Effect Location (RingResult × List UInt8)) :
    (party.advance effect).payloads = party.payloads ++ effect.delivered := by
  obtain ⟨store, next, returned⟩ := effect
  rcases returned with - | ⟨result, payload⟩
  · simp [Party.advance, Party.payloads, Effect.delivered]
  · cases result <;> simp [Party.advance, Party.payloads, Effect.delivered]

/-! ## The mapping between the two parties -/

namespace Shared

variable {memory : Memory} {pushed popped : List (List UInt8)} {payload : List UInt8}

theorem popped_le (shared : Shared config checksum start memory pushed popped) :
    popped.length ≤ pushed.length :=
  shared.inOrder.length_le

/-- The difference of the sequence numbers counts the unread payloads, also after the
numbers have wrapped around. -/
theorem occupancy (shared : Shared config checksum start memory pushed popped) :
    (memory.writeSequence - memory.readSequence).toNat = pushed.length - popped.length := by
  have ordered := shared.popped_le
  have bounded := shared.bounded
  have small : config.capacity.toNat < 2 ^ 32 := config.capacity.toNat_lt
  have difference : memory.writeSequence - memory.readSequence =
      UInt64.ofNat (pushed.length - popped.length) := by
    rw [shared.write, shared.read, UInt64.ofNat_sub ordered]
    grind
  rw [difference, UInt64.toNat_ofNat']
  exact Nat.mod_eq_of_lt (by omega)

theorem slotIndex_write (shared : Shared config checksum start memory pushed popped) :
    config.slotIndex memory.writeSequence = config.position start pushed.length := by
  rw [shared.write, RingConfig.position]

/-- The oldest unread payload lies complete in the slot the consumer reads. -/
theorem holds_front (shared : Shared config checksum start memory pushed popped)
    (front : pushed[popped.length]? = some payload) :
    (memory.slots (config.slotIndex memory.readSequence)).Holds checksum payload := by
  rw [shared.read]
  exact shared.stored popped.length payload le_rfl front

/-- The slot the producer fills is none of the published ones. -/
theorem modifySlot (shared : Shared config checksum start memory pushed popped)
    (sized : config.Sized) (room : pushed.length < popped.length + config.capacity.toNat)
    (update : Slot → Slot) :
    Shared config checksum start
      (memory.modifySlot (config.slotIndex memory.writeSequence) update) pushed popped where
  write := shared.write
  read := shared.read
  inOrder := shared.inOrder
  bounded := shared.bounded
  fits := shared.fits
  stored := by
    intro number payload unread member
    have published : number < pushed.length := (List.getElem?_eq_some_iff.mp member).1
    have different := sized.position_ne start published (by omega)
    rw [shared.slotIndex_write, Memory.modifySlot_other memory update different]
    exact shared.stored number payload unread member

theorem publish (shared : Shared config checksum start memory pushed popped)
    (claimed : Claimed config memory pushed popped payload memory.writeSequence)
    (holds : (memory.slots (config.slotIndex memory.writeSequence)).Holds checksum payload) :
    Shared config checksum start
      { memory with writeSequence := memory.writeSequence + 1 } (pushed ++ [payload]) popped where
  write := by
    simp only [shared.write, List.length_append, List.length_singleton, UInt64.ofNat_add,
      UInt64.add_assoc]
    rfl
  read := shared.read
  inOrder := shared.inOrder.trans (List.prefix_append pushed [payload])
  bounded := by
    have room := claimed.room
    simp only [List.length_append, List.length_singleton]
    omega
  fits := List.forall_mem_append.mpr ⟨shared.fits, List.forall_mem_singleton.mpr claimed.fits⟩
  stored := by
    intro number other unread member
    rcases Nat.lt_or_ge number pushed.length with old | new
    · rw [List.getElem?_append_left old] at member
      exact shared.stored number other unread member
    · have bound := (List.getElem?_eq_some_iff.mp member).1
      have last : number = pushed.length := by
        simp only [List.length_append, List.length_singleton] at bound
        omega
      subst last
      simp only [List.getElem?_concat_length, Option.some.injEq] at member
      rw [← member, ← shared.slotIndex_write]
      exact holds

theorem take (shared : Shared config checksum start memory pushed popped)
    (front : pushed[popped.length]? = some payload) :
    Shared config checksum start
      { memory with readSequence := memory.readSequence + 1 } pushed (popped ++ [payload]) where
  write := shared.write
  read := by
    simp only [shared.read, List.length_append, List.length_singleton, UInt64.ofNat_add,
      UInt64.add_assoc]
    rfl
  inOrder := by
    obtain ⟨rest, split⟩ := shared.inOrder
    subst split
    cases rest with
    | nil => simp at front
    | cons next later =>
        simp only [List.getElem?_append_right le_rfl, Nat.sub_self, List.getElem?_cons_zero,
          Option.some.injEq] at front
        subst front
        exact ⟨later, by simp⟩
  bounded := by
    have bounded := shared.bounded
    simp only [List.length_append, List.length_singleton]
    omega
  fits := shared.fits
  stored := by
    intro number other unread member
    simp only [List.length_append, List.length_singleton] at unread
    exact shared.stored number other (by omega) member

end Shared

theorem tryPush_queue {memory : Memory} {pushed popped : List (List UInt8)} {payload : List UInt8}
    {write : UInt64} (claimed : Claimed config memory pushed popped payload write)
    (ordered : popped.length ≤ pushed.length) :
    (queue config pushed popped).tryPush payload =
      (.success, queue config (pushed ++ [payload]) popped) := by
  have room := claimed.room
  refine (if_neg (Nat.not_lt.mpr claimed.fits)).trans ((if_neg ?_).trans ?_)
  · simp only [queue, List.length_map, List.length_drop]
    omega
  · simp [queue, List.drop_append_of_le_length ordered]

/-- What a call finds at the front of the queue. -/
theorem tryPop_queue {pushed popped : List (List UInt8)} {payload : List UInt8} {size : Nat}
    (front : pushed[popped.length]? = some payload) :
    (queue config pushed popped).tryPop size =
      if size < payload.length then (.destinationTooSmall, [], queue config pushed popped)
      else (.success, payload, queue config pushed (popped ++ [payload])) := by
  obtain ⟨bound, rfl⟩ := List.getElem?_eq_some_iff.mp front
  have unread : (queue config pushed popped).items = .intact pushed[popped.length] ::
      (queue config pushed (popped ++ [pushed[popped.length]])).items := by
    simp only [queue, List.drop_eq_getElem_cons bound, List.map_cons, List.length_append,
      List.length_singleton]
  rw [BoundedRing.tryPop, unread]
  rfl

/-! ## What a step of one party leaves of the other party's knowledge -/

section Interference

variable {memory memory' : Memory} {pushed popped : List (List UInt8)}

theorem ConsumerKnows.of_append {location : Consumer}
    (knows : ConsumerKnows checksum memory pushed popped location)
    (sameRead : memory'.readSequence = memory.readSequence) (later : List (List UInt8)) :
    ConsumerKnows checksum memory' (pushed ++ later) popped location := by
  have front : ∀ payload, pushed[popped.length]? = some payload →
      (pushed ++ later)[popped.length]? = some payload := by
    intro payload member
    rw [List.getElem?_append_left (List.getElem?_eq_some_iff.mp member).1]
    exact member
  cases location <;> simp only [ConsumerKnows, sameRead, List.length_append] at knows ⊢
  case loadWrite => exact knows
  case checkBytes | checkReserved | compareSize | spanBytes => exact ⟨knows.1, by omega⟩
  case hash | copy | compareChecksum =>
    obtain ⟨current, payload, member, rest⟩ := knows
    exact ⟨current, payload, front payload member, rest⟩
  case publish => exact ⟨knows.1, front _ knows.2⟩

theorem ProducerKnows.of_take {location : Producer}
    (knows : ProducerKnows config checksum memory pushed popped location)
    (sameWrite : memory'.writeSequence = memory.writeSequence)
    (sameSlots : memory'.slots = memory.slots) (taken : List (List UInt8)) :
    ProducerKnows config checksum memory' pushed (popped ++ taken) location := by
  have claim : ∀ payload write, Claimed config memory pushed popped payload write →
      Claimed config memory' pushed (popped ++ taken) payload write := by
    intro payload write claimed
    refine ⟨claimed.fits, by rw [sameWrite]; exact claimed.current, ?_⟩
    have room := claimed.room
    simp only [List.length_append]
    omega
  cases location <;> simp only [ProducerKnows, sameWrite, sameSlots] at knows ⊢
  case loadWrite | loadRead => exact knows
  case storeBytes => exact claim _ _ knows
  case storeReserved | storeChecksum | copy | publish => exact ⟨claim _ _ knows.1, knows.2⟩

end Interference

/-! ## Steps of the producer -/

section Producer

variable {state : State} (effect : Effect Producer (RingResult × List UInt8))

@[simp] theorem State.pushed_produce :
    (state.produce effect).pushed = state.pushed ++ effect.delivered :=
  Party.payloads_advance state.producer effect

@[simp] theorem State.popped_produce : (state.produce effect).popped = state.popped := rfl

@[simp] theorem State.memory_produce :
    (state.produce effect).memory = state.memory.applyStore effect.store := rfl

@[simp] theorem State.producer_produce :
    (state.produce effect).producer = state.producer.advance effect := rfl

@[simp] theorem State.consumer_produce : (state.produce effect).consumer = state.consumer := rfl

theorem Invariant.produce_move (invariant : Invariant config checksum start state)
    {location : Producer}
    (knows : ProducerKnows config checksum state.memory state.pushed state.popped location)
    (stores : location.BeforeStores → state.producer.stores = []) :
    Invariant config checksum start (state.produce { next := location }) where
  shared := by simpa [Memory.applyStore, Effect.delivered] using invariant.shared
  producer := by simpa [Memory.applyStore, Effect.delivered] using knows
  consumer := by simpa [Memory.applyStore, Effect.delivered] using invariant.consumer
  producerStores := by simpa [Party.advance] using stores
  consumerStores := invariant.consumerStores
  producerCalls := by simpa [Party.advance] using invariant.producerCalls
  consumerCalls := invariant.consumerCalls
  linear := by simpa [State.Linear, Party.advance, Effect.delivered] using invariant.linear

theorem Invariant.produce_return (invariant : Invariant config checksum start state)
    {result : RingResult} {payload : List UInt8} (failed : result ≠ .success)
    (intact : result ≠ .corrupt) (stores : state.producer.stores = [])
    (answer : (queue config state.pushed state.popped).tryPush payload =
      (result, queue config state.pushed state.popped)) :
    Invariant config checksum start
      (state.produce { next := .idle, returned := some (result, payload) }) := by
  have silent : (⟨none, .idle, some (result, payload)⟩ :
      Effect Producer (RingResult × List UInt8)).delivered = [] := by
    cases result <;> simp_all [Effect.delivered]
  refine
    { shared := by simpa [Memory.applyStore, silent] using invariant.shared
      producer := trivial
      consumer := by simpa [Memory.applyStore, silent] using invariant.consumer
      producerStores := fun _ => rfl
      consumerStores := invariant.consumerStores
      producerCalls := List.forall_mem_append.mpr ⟨invariant.producerCalls,
        List.forall_mem_singleton.mpr ⟨intact, fun _ => by simpa using stores⟩⟩
      consumerCalls := invariant.consumerCalls
      linear := by simpa [State.Linear, Party.advance, silent] using invariant.linear.push answer }

/-- A store into the claimed slot. -/
theorem Invariant.produce_fill (invariant : Invariant config checksum start state)
    (sized : config.Sized) {store : Store} (update : Slot → Slot) {location : Producer}
    (room : state.pushed.length < state.popped.length + config.capacity.toNat)
    (target : state.memory.store store =
      state.memory.modifySlot (config.slotIndex state.memory.writeSequence) update)
    (knows : ProducerKnows config checksum
      (state.memory.modifySlot (config.slotIndex state.memory.writeSequence) update)
      state.pushed state.popped location)
    (after : ¬ location.BeforeStores) :
    Invariant config checksum start
      (state.produce { store := some store, next := location }) where
  shared := by
    simpa [Effect.delivered, Memory.applyStore, target] using
      invariant.shared.modifySlot sized room update
  producer := by
    simpa [Effect.delivered, Memory.applyStore, target] using knows
  consumer := by
    have kept := invariant.consumer.of_append
      (Memory.modifySlot_readSequence state.memory
        (config.slotIndex state.memory.writeSequence) update) []
    simpa [Effect.delivered, Memory.applyStore, target] using kept
  producerStores := by
    intro before
    simp [after] at before
  consumerStores := invariant.consumerStores
  producerCalls := by simpa [Party.advance] using invariant.producerCalls
  consumerCalls := invariant.consumerCalls
  linear := by simpa [State.Linear, Party.advance, Effect.delivered] using invariant.linear

theorem Invariant.produce_publish (invariant : Invariant config checksum start state)
    {payload : List UInt8}
    (claimed : Claimed config state.memory state.pushed state.popped payload
      state.memory.writeSequence)
    (holds : (state.memory.slots (config.slotIndex state.memory.writeSequence)).Holds checksum
      payload) :
    Invariant config checksum start
      (state.produce
        { store := some (.writeSequence (state.memory.writeSequence + 1))
          next := .idle
          returned := some (.success, payload) }) where
  shared := by
    simpa [Effect.delivered, Memory.applyStore, Memory.store] using
      invariant.shared.publish claimed holds
  producer := trivial
  consumer := by
    have kept := invariant.consumer.of_append
      (rfl : (state.memory.store
        (.writeSequence (state.memory.writeSequence + 1))).readSequence = _) [payload]
    simpa [Effect.delivered, Memory.applyStore] using kept
  producerStores := fun _ => rfl
  consumerStores := invariant.consumerStores
  producerCalls := List.forall_mem_append.mpr ⟨invariant.producerCalls,
    List.forall_mem_singleton.mpr ⟨by simp, by simp⟩⟩
  consumerCalls := invariant.consumerCalls
  linear := by
    have answer := tryPush_queue claimed invariant.shared.popped_le
    simpa [State.Linear, Party.advance, Effect.delivered] using invariant.linear.push answer

theorem Invariant.producer_step (invariant : Invariant config checksum start state)
    (sized : config.Sized) :
    Invariant config checksum start
      (state.produce (state.producer.location.step config checksum state.memory)) := by
  have knows := invariant.producer
  have stores := invariant.producerStores
  generalize state.producer.location = location at knows stores
  cases location with
  | idle => exact invariant.produce_move knows stores
  | loadWrite => exact invariant.produce_move ⟨knows, rfl⟩ stores
  | loadRead payload write =>
      obtain ⟨fits, current⟩ := knows
      subst current
      simp only [Producer.step]
      split
      · rename_i full
        rw [UInt64.le_iff_toNat_le, invariant.shared.occupancy, UInt32.toNat_toUInt64] at full
        exact invariant.produce_return (by simp) (by simp) (stores trivial)
          ((if_neg (Nat.not_lt.mpr fits)).trans (if_pos (by simpa [queue] using full)))
      · rename_i room
        rw [UInt64.le_iff_toNat_le, invariant.shared.occupancy, UInt32.toNat_toUInt64] at room
        have ordered := invariant.shared.popped_le
        exact invariant.produce_move ⟨fits, rfl, by omega⟩ stores
  | storeBytes payload write =>
      have claimed : Claimed config state.memory state.pushed state.popped payload write := knows
      obtain ⟨fits, current, room⟩ := claimed
      subst current
      have small : payload.length < 2 ^ 32 := lt_of_le_of_lt fits config.slotBytes.toNat_lt
      refine invariant.produce_fill sized
        (fun slot => { slot with bytes := UInt32.ofNat payload.length }) room rfl
        ⟨⟨fits, rfl, room⟩, ?_⟩ (by simp [Producer.BeforeStores])
      simpa using small
  | storeReserved payload write =>
      obtain ⟨⟨fits, current, room⟩, bytes⟩ := knows
      subst current
      refine invariant.produce_fill sized (fun slot => { slot with reserved := 0 }) room rfl
        ⟨⟨fits, rfl, room⟩, ?_, ?_⟩ (by simp [Producer.BeforeStores])
      · simpa using bytes
      · simp
  | storeChecksum payload write =>
      obtain ⟨⟨fits, current, room⟩, bytes, reserved⟩ := knows
      subst current
      refine invariant.produce_fill sized (fun slot => { slot with checksum := checksum payload })
        room rfl ⟨⟨fits, rfl, room⟩, ?_, ?_, ?_, ?_⟩ (by simp [Producer.BeforeStores])
      · simpa using bytes
      · simpa using reserved
      · simp
      · intro done _ impossible
        omega
  | copy payload write offset =>
      obtain ⟨⟨fits, current, room⟩, bytes, reserved, sum, copied⟩ := knows
      subst current
      simp only [Producer.step]
      split
      · rename_i byte member
        refine invariant.produce_fill sized (Slot.setPayload · offset byte) room rfl
          ⟨⟨fits, rfl, room⟩, ?_, ?_, ?_, ?_⟩
          (by simp [Producer.BeforeStores])
        · simpa [Slot.setPayload] using bytes
        · simpa [Slot.setPayload] using reserved
        · simpa [Slot.setPayload] using sum
        · intro done inside before
          by_cases last : done = offset
          · subst last
            simpa [Slot.setPayload] using member
          · simpa [Slot.setPayload, last] using copied done inside (by omega)
      · rename_i finished
        have complete : payload.length ≤ offset := List.getElem?_eq_none_iff.mp finished
        refine invariant.produce_move ⟨⟨fits, rfl, room⟩, bytes, reserved, sum, ?_⟩
          (by simp [Producer.BeforeStores])
        intro done inside
        exact copied done inside (by omega)
  | publish =>
      obtain ⟨claimed, holds⟩ := knows
      obtain rfl := claimed.current
      exact invariant.produce_publish claimed holds

end Producer

/-! ## Steps of the consumer -/

section Consumer

variable {state : State} (effect : Effect Consumer (RingResult × List UInt8))

@[simp] theorem State.pushed_consume : (state.consume effect).pushed = state.pushed := rfl

@[simp] theorem State.popped_consume :
    (state.consume effect).popped = state.popped ++ effect.delivered :=
  Party.payloads_advance state.consumer effect

@[simp] theorem State.memory_consume :
    (state.consume effect).memory = state.memory.applyStore effect.store := rfl

@[simp] theorem State.producer_consume : (state.consume effect).producer = state.producer := rfl

@[simp] theorem State.consumer_consume :
    (state.consume effect).consumer = state.consumer.advance effect := rfl

theorem Invariant.consume_move (invariant : Invariant config checksum start state)
    {location : Consumer}
    (knows : ConsumerKnows checksum state.memory state.pushed state.popped location) :
    Invariant config checksum start (state.consume { next := location }) where
  shared := by simpa [Memory.applyStore, Effect.delivered] using invariant.shared
  producer := by simpa [Memory.applyStore, Effect.delivered] using invariant.producer
  consumer := by simpa [Memory.applyStore, Effect.delivered] using knows
  producerStores := invariant.producerStores
  consumerStores := by simpa [Party.advance] using invariant.consumerStores
  producerCalls := invariant.producerCalls
  consumerCalls := by simpa [Party.advance] using invariant.consumerCalls
  linear := by simpa [State.Linear, Party.advance, Effect.delivered] using invariant.linear

theorem Invariant.consume_return (invariant : Invariant config checksum start state)
    {result : RingResult} (failed : result ≠ .success) (intact : result ≠ .corrupt) (size : Nat)
    (answer : (queue config state.pushed state.popped).tryPop size =
      (result, [], queue config state.pushed state.popped)) :
    Invariant config checksum start
      (state.consume { next := .idle, returned := some (result, []) }) := by
  have silent : (⟨none, .idle, some (result, [])⟩ :
      Effect Consumer (RingResult × List UInt8)).delivered = [] := by
    cases result <;> simp_all [Effect.delivered]
  refine
    { shared := by simpa [Memory.applyStore, silent] using invariant.shared
      producer := by simpa [Memory.applyStore, silent] using invariant.producer
      consumer := trivial
      producerStores := invariant.producerStores
      consumerStores := rfl
      producerCalls := invariant.producerCalls
      consumerCalls := List.forall_mem_append.mpr ⟨invariant.consumerCalls,
        List.forall_mem_singleton.mpr
          ⟨intact, fun _ => by simpa using invariant.consumerStores⟩⟩
      linear := by
        simpa [State.Linear, Party.advance, silent] using invariant.linear.pop size answer }

theorem Invariant.consume_publish (invariant : Invariant config checksum start state)
    {payload : List UInt8} (front : state.pushed[state.popped.length]? = some payload) :
    Invariant config checksum start
      (state.consume
        { store := some (.readSequence (state.memory.readSequence + 1))
          next := .idle
          returned := some (.success, payload) }) where
  shared := by
    simpa [Effect.delivered, Memory.applyStore, Memory.store] using invariant.shared.take front
  producer := by
    have kept := invariant.producer.of_take
      (rfl : (state.memory.store
        (.readSequence (state.memory.readSequence + 1))).writeSequence = _) rfl [payload]
    simpa [Effect.delivered, Memory.applyStore] using kept
  consumer := trivial
  producerStores := invariant.producerStores
  consumerStores := rfl
  producerCalls := invariant.producerCalls
  consumerCalls := List.forall_mem_append.mpr ⟨invariant.consumerCalls,
    List.forall_mem_singleton.mpr ⟨by simp, by simp⟩⟩
  linear := by
    have popped := invariant.linear.pop payload.length
      ((tryPop_queue front).trans (if_neg (Nat.lt_irrefl _)))
    simpa [State.Linear, Party.advance, Effect.delivered] using popped

/-- One more byte of the oldest unread payload is loaded. -/
theorem Slot.Holds.take_next {slot : Slot} {payload taken : List UInt8}
    (holds : slot.Holds checksum payload) (loaded : taken <+: payload)
    (inside : taken.length < payload.length) :
    taken ++ [slot.payload taken.length] <+: payload := by
  obtain ⟨rest, split⟩ := loaded
  subst split
  have byte := holds.payload taken.length inside
  cases rest with
  | nil => simp at inside
  | cons next later =>
      simp only [List.getElem?_append_right le_rfl, Nat.sub_self, List.getElem?_cons_zero,
        Option.some.injEq] at byte
      rw [← byte]
      exact ⟨later, by simp⟩

theorem Invariant.consumer_step (invariant : Invariant config checksum start state) :
    Invariant config checksum start
      (state.consume (state.consumer.location.step config checksum state.memory)) := by
  have knows := invariant.consumer
  have shared := invariant.shared
  generalize state.consumer.location = location at knows
  -- Past the emptiness check every load sees the oldest unread payload.
  have front : state.popped.length < state.pushed.length →
      ∃ payload, state.pushed[state.popped.length]? = some payload ∧
        payload.length ≤ config.slotBytes.toNat ∧
        (state.memory.slots (config.slotIndex state.memory.readSequence)).Holds checksum
          payload := by
    intro unread
    refine ⟨state.pushed[state.popped.length], by simp [unread], ?_, ?_⟩
    · exact shared.fits _ (List.getElem_mem unread)
    · exact shared.holds_front (by simp [unread])
  cases location with
  | idle => exact invariant.consume_move trivial
  | loadRead => exact invariant.consume_move rfl
  | loadWrite size read =>
      obtain rfl : read = state.memory.readSequence := knows
      simp only [Consumer.step]
      split
      · rename_i same
        have none : (queue config state.pushed state.popped).items = [] := by
          have occupancy := shared.occupancy
          rw [← same, UInt64.sub_self] at occupancy
          simpa [queue] using Nat.le_of_sub_eq_zero occupancy.symm
        refine invariant.consume_return (by simp) (by simp) size ?_
        rw [BoundedRing.tryPop, none]
      · rename_i different
        refine invariant.consume_move ⟨rfl, ?_⟩
        by_contra none
        refine different ?_
        rw [shared.read, shared.write, Nat.le_antisymm shared.popped_le (by omega)]
  | checkBytes size read =>
      obtain ⟨rfl, unread⟩ := knows
      obtain ⟨payload, -, fits, holds⟩ := front unread
      have accepted : ¬ config.slotBytes <
          (state.memory.slots (config.slotIndex state.memory.readSequence)).bytes := by
        rw [UInt32.lt_iff_toNat_lt, holds.bytes]
        omega
      simp only [Consumer.step, if_neg accepted]
      exact invariant.consume_move ⟨rfl, unread⟩
  | checkReserved =>
      obtain ⟨rfl, unread⟩ := knows
      obtain ⟨payload, -, -, holds⟩ := front unread
      simp only [Consumer.step, holds.reserved, ne_eq, not_true_eq_false, if_false]
      exact invariant.consume_move ⟨rfl, unread⟩
  | compareSize size =>
      obtain ⟨rfl, unread⟩ := knows
      obtain ⟨payload, member, -, holds⟩ := front unread
      simp only [Consumer.step, holds.bytes]
      split
      · rename_i small
        exact invariant.consume_return (by simp) (by simp) size
          ((tryPop_queue member).trans (if_pos small))
      · exact invariant.consume_move ⟨rfl, unread⟩
  | spanBytes =>
      obtain ⟨rfl, unread⟩ := knows
      obtain ⟨payload, member, -, holds⟩ := front unread
      exact invariant.consume_move ⟨rfl, payload, member, holds.bytes, List.nil_prefix⟩
  | hash read length taken =>
      obtain ⟨rfl, payload, member, rfl, loaded⟩ := knows
      have holds := shared.holds_front member
      simp only [Consumer.step]
      split
      · rename_i inside
        exact invariant.consume_move ⟨rfl, payload, member, rfl, holds.take_next loaded inside⟩
      · rename_i finished
        have complete : taken = payload := loaded.eq_of_length_le (by omega)
        exact invariant.consume_move ⟨rfl, payload, member, rfl, by rw [complete]⟩
  | compareChecksum =>
      obtain ⟨rfl, payload, member, rfl, rfl⟩ := knows
      have holds := shared.holds_front member
      simp only [Consumer.step, holds.checksum, ne_eq, not_true_eq_false, if_false]
      exact invariant.consume_move ⟨rfl, payload, member, rfl, List.nil_prefix⟩
  | copy read length taken =>
      obtain ⟨rfl, payload, member, rfl, loaded⟩ := knows
      have holds := shared.holds_front member
      simp only [Consumer.step]
      split
      · rename_i inside
        exact invariant.consume_move ⟨rfl, payload, member, rfl, holds.take_next loaded inside⟩
      · rename_i finished
        have complete : taken = payload := loaded.eq_of_length_le (by omega)
        exact invariant.consume_move ⟨rfl, by rw [complete]; exact member⟩
  | publish =>
      obtain ⟨rfl, member⟩ := knows
      exact invariant.consume_publish member
  | discard => exact knows.elim

end Consumer

/-! ## Runs -/

theorem invariant_initial (start : UInt64) (slots : Nat → Slot) :
    Invariant config checksum start (initial start slots) where
  shared :=
    { write := by simp [initial, State.pushed, Party.payloads]
      read := by simp [initial, State.popped, Party.payloads]
      inOrder := List.nil_prefix
      bounded := Nat.zero_le _
      fits := by simp [initial, State.pushed, Party.payloads]
      stored := by simp [initial, State.pushed, Party.payloads] }
  producer := trivial
  consumer := trivial
  producerStores := fun _ => rfl
  consumerStores := rfl
  producerCalls := by simp [initial]
  consumerCalls := by simp [initial]
  linear := .nil

theorem Invariant.step {state : State} (invariant : Invariant config checksum start state)
    (sized : config.Sized) (action : Action) :
    Invariant config checksum start (step config checksum state action) := by
  cases action with
  | push payload =>
      simp only [Ring.step]
      split
      · rename_i idle
        have quiet : state.producer.stores = [] :=
          invariant.producerStores (by rw [idle]; trivial)
        unfold Producer.enter
        split
        · rename_i large
          exact invariant.produce_return (by simp) (by simp) quiet (if_pos large)
        · rename_i fits
          exact invariant.produce_move (Nat.le_of_not_lt fits) fun _ => quiet
      · exact invariant
  | producer => exact invariant.producer_step sized
  | pop size =>
      simp only [Ring.step]
      split
      · exact invariant.consume_move trivial
      · exact invariant
  | consumer => exact invariant.consumer_step

theorem Invariant.run {state : State} (invariant : Invariant config checksum start state)
    (sized : config.Sized) (schedule : List Action) :
    Invariant config checksum start (run config checksum state schedule) := by
  induction schedule generalizing state with
  | nil => exact invariant
  | cons action rest ih => exact ih (invariant.step sized action)

/-- **The ring is an exact FIFO.** After every schedule of the two parties' loads and
stores, from any common sequence number: the popped payloads are a list-prefix of the pushed
ones, the sequence difference is exactly the number of unread payloads and at most the
capacity, no call reports corruption, and an unsuccessful call makes no store. -/
theorem ring_exact_fifo (config : RingConfig) (sized : config.Sized)
    (checksum : List UInt8 → UInt64) (start : UInt64) (slots : Nat → Slot)
    (schedule : List Action) :
    let final := run config checksum (initial start slots) schedule
    final.popped <+: final.pushed ∧
      (final.memory.writeSequence - final.memory.readSequence).toNat =
        final.pushed.length - final.popped.length ∧
      (final.memory.writeSequence - final.memory.readSequence).toNat ≤ config.capacity.toNat ∧
      ∀ call ∈ final.producer.calls ++ final.consumer.calls,
        call.result ≠ .corrupt ∧ (call.result ≠ .success → call.stores = []) := by
  intro final
  have invariant : Invariant config checksum start final :=
    (invariant_initial start slots).run sized schedule
  have occupancy := invariant.shared.occupancy
  have bounded := invariant.shared.bounded
  exact ⟨invariant.shared.inOrder, occupancy, by omega,
    List.forall_mem_append.mpr ⟨invariant.producerCalls, invariant.consumerCalls⟩⟩

/-- The interleaved calls of the two parties are single steps: they give the answers of such
steps, in the order in which they return, and leave the same queue. -/
theorem serial_run (config : RingConfig) (sized : config.Sized) (checksum : List UInt8 → UInt64)
    (start : UInt64) (slots : Nat → Slot) (schedule : List Action) :
    (run config checksum (initial start slots) schedule).Linear config :=
  ((invariant_initial start slots).run sized schedule).linear

private def samplePush (payload : List UInt8) : List Action :=
  .push payload :: List.replicate (payload.length + 7) .producer

/-- Two pushes around the wrap of the sequence numbers, a full ring, a pop that starts
before the second push ends, and a buffer that is too small. -/
private def sampleSchedule : List Action :=
  samplePush [1, 2] ++ [.pop 8, .consumer, .consumer] ++ samplePush [3] ++ samplePush [4] ++
    List.replicate 12 .consumer ++ .pop 0 :: List.replicate 5 .consumer

private def sampleRun : State :=
  run ⟨2, 4⟩ (fun payload => UInt64.ofNat payload.length)
    (initial 0xffffffffffffffff fun _ => ⟨7, 7, 7, fun _ => 7⟩) sampleSchedule

theorem ring_exact_fifo_wraps :
    sampleRun.popped = [[1, 2]] ∧ sampleRun.pushed = [[1, 2], [3]] ∧
      (sampleRun.producer.calls ++ sampleRun.consumer.calls).map (·.result) =
        [.success, .success, .full, .success, .destinationTooSmall] ∧
      sampleRun.popped <+: sampleRun.pushed :=
  ⟨by decide +kernel, by decide +kernel, by decide +kernel,
    (ring_exact_fifo ⟨2, 4⟩ ⟨by decide, by decide⟩ _ _ _ sampleSchedule).1⟩

end Ring

end FlowEdge
