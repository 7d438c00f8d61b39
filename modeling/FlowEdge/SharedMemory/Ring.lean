import Mathlib.Tactic.Ring

/-!
# Shared-memory ring

The single-producer single-consumer ring of `shared_memory_ring.cc`, modelled at
the granularity of individual loads and stores of the shared mapping. Each party
is a small program-counter machine. A step of a party performs at most one store,
and the mapping changes through stores only, so a schedule of steps is an
arbitrary sequentially consistent interleaving of the two calls.
-/

namespace FlowEdge

structure RingConfig where
  capacity : UInt32 := 16
  slotBytes : UInt32 := 0
deriving DecidableEq, Repr

/-- What `try_push` and `try_pop` report. -/
inductive RingResult where
  | success
  | empty
  | full
  | tooLarge
  | destinationTooSmall
  | corrupt
deriving DecidableEq, Repr

/-- `std::has_single_bit`: the value is a power of two. -/
def hasSingleBit (value : UInt32) : Bool :=
  (List.range 32).any fun bit => value.toNat == 2 ^ bit

/-- The slot that `slot` selects for a sequence number. -/
def RingConfig.slotIndex (config : RingConfig) (sequence : UInt64) : Nat :=
  (sequence &&& (config.capacity - 1).toUInt64).toNat

namespace Ring

/-- A slot: its `SlotHeader` followed by the payload bytes. -/
structure Slot where
  bytes : UInt32
  reserved : UInt32
  checksum : UInt64
  payload : Nat → UInt8

/-- The mutable part of the mapping. The configuration words of `RingHeader` never
change after creation and are kept in `RingConfig`. -/
structure Memory where
  writeSequence : UInt64
  readSequence : UInt64
  slots : Nat → Slot

/-- One store to the mapping. -/
inductive Store where
  | writeSequence (value : UInt64)
  | readSequence (value : UInt64)
  | bytes (index : Nat) (value : UInt32)
  | reserved (index : Nat) (value : UInt32)
  | checksum (index : Nat) (value : UInt64)
  | payload (index offset : Nat) (value : UInt8)
deriving DecidableEq, Repr

def Slot.setPayload (slot : Slot) (offset : Nat) (value : UInt8) : Slot :=
  { slot with payload := fun other => if other = offset then value else slot.payload other }

def Memory.modifySlot (memory : Memory) (index : Nat) (update : Slot → Slot) : Memory :=
  { memory with
    slots := fun other => if other = index then update (memory.slots other)
      else memory.slots other }

/-- The effect of a store. -/
def Memory.store (memory : Memory) : Store → Memory
  | .writeSequence value => { memory with writeSequence := value }
  | .readSequence value => { memory with readSequence := value }
  | .bytes index value => memory.modifySlot index fun slot => { slot with bytes := value }
  | .reserved index value => memory.modifySlot index fun slot => { slot with reserved := value }
  | .checksum index value => memory.modifySlot index fun slot => { slot with checksum := value }
  | .payload index offset value => memory.modifySlot index (Slot.setPayload · offset value)

/-- Program counter of `try_push`, with the values it holds in registers. -/
inductive Producer where
  | idle
  | loadWrite (payload : List UInt8)
  | loadRead (payload : List UInt8) (write : UInt64)
  | storeBytes (payload : List UInt8) (write : UInt64)
  | storeReserved (payload : List UInt8) (write : UInt64)
  | storeChecksum (payload : List UInt8) (write : UInt64)
  | copy (payload : List UInt8) (write : UInt64) (offset : Nat)
  | publish (payload : List UInt8) (write : UInt64)

/-- Program counter of `try_pop`. `size` is the size of the caller's buffer and
`taken` the bytes loaded so far, by the checksum or by the copy into that buffer. -/
inductive Consumer where
  | idle
  | loadRead (size : Nat)
  | loadWrite (size : Nat) (read : UInt64)
  | checkBytes (size : Nat) (read : UInt64)
  | checkReserved (size : Nat) (read : UInt64)
  | compareSize (size : Nat) (read : UInt64)
  | spanBytes (size : Nat) (read : UInt64)
  | hash (read : UInt64) (length : Nat) (taken : List UInt8)
  | compareChecksum (read : UInt64) (length : Nat) (computed : UInt64)
  | copy (read : UInt64) (length : Nat) (taken : List UInt8)
  | publish (read : UInt64) (taken : List UInt8)
  | discard (read : UInt64)

/-- What one step of a party does: the store it makes, where it continues, and the
value its call returns, if the step ends the call. -/
structure Effect (Location Returned : Type) where
  store : Option Store := none
  next : Location
  returned : Option Returned := none

/-- `try_push` up to its first load of the mapping. -/
def Producer.enter (config : RingConfig) (payload : List UInt8) :
    Effect Producer (RingResult × List UInt8) :=
  if config.slotBytes.toNat < payload.length then
    { next := .idle, returned := some (.tooLarge, payload) }
  else
    { next := .loadWrite payload }

/-- One access of `try_push`. -/
def Producer.step (config : RingConfig) (checksum : List UInt8 → UInt64) (memory : Memory) :
    Producer → Effect Producer (RingResult × List UInt8)
  | .idle => { next := .idle }
  | .loadWrite payload => { next := .loadRead payload memory.writeSequence }
  | .loadRead payload write =>
      if config.capacity.toUInt64 ≤ write - memory.readSequence then
        { next := .idle, returned := some (.full, payload) }
      else
        { next := .storeBytes payload write }
  | .storeBytes payload write =>
      { store := some (.bytes (config.slotIndex write) (UInt32.ofNat payload.length))
        next := .storeReserved payload write }
  | .storeReserved payload write =>
      { store := some (.reserved (config.slotIndex write) 0)
        next := .storeChecksum payload write }
  | .storeChecksum payload write =>
      { store := some (.checksum (config.slotIndex write) (checksum payload))
        next := .copy payload write 0 }
  | .copy payload write offset =>
      match payload[offset]? with
      | some byte =>
          { store := some (.payload (config.slotIndex write) offset byte)
            next := .copy payload write (offset + 1) }
      | none => { next := .publish payload write }
  -- The publishing store is the last access of the call, so it also ends the call.
  | .publish payload write =>
      { store := some (.writeSequence (write + 1))
        next := .idle
        returned := some (.success, payload) }

/-- `try_pop` up to its first load of the mapping. -/
def Consumer.enter (size : Nat) : Effect Consumer (RingResult × List UInt8) :=
  { next := .loadRead size }

/-- One access of `try_pop`. -/
def Consumer.step (config : RingConfig) (checksum : List UInt8 → UInt64) (memory : Memory) :
    Consumer → Effect Consumer (RingResult × List UInt8)
  | .idle => { next := .idle }
  | .loadRead size => { next := .loadWrite size memory.readSequence }
  | .loadWrite size read =>
      if read = memory.writeSequence then
        { next := .idle, returned := some (.empty, []) }
      else
        { next := .checkBytes size read }
  | .checkBytes size read =>
      if config.slotBytes < (memory.slots (config.slotIndex read)).bytes then
        { next := .discard read }
      else
        { next := .checkReserved size read }
  | .checkReserved size read =>
      if (memory.slots (config.slotIndex read)).reserved ≠ 0 then
        { next := .discard read }
      else
        { next := .compareSize size read }
  | .compareSize size read =>
      if size < (memory.slots (config.slotIndex read)).bytes.toNat then
        { next := .idle, returned := some (.destinationTooSmall, []) }
      else
        { next := .spanBytes size read }
  | .spanBytes _ read =>
      { next := .hash read (memory.slots (config.slotIndex read)).bytes.toNat [] }
  | .hash read length taken =>
      if taken.length < length then
        { next := .hash read length
            (taken ++ [(memory.slots (config.slotIndex read)).payload taken.length]) }
      else
        { next := .compareChecksum read length (checksum taken) }
  | .compareChecksum read length computed =>
      if (memory.slots (config.slotIndex read)).checksum ≠ computed then
        { next := .discard read }
      else
        { next := .copy read length [] }
  | .copy read length taken =>
      if taken.length < length then
        { next := .copy read length
            (taken ++ [(memory.slots (config.slotIndex read)).payload taken.length]) }
      else
        { next := .publish read taken }
  | .publish read taken =>
      { store := some (.readSequence (read + 1))
        next := .idle
        returned := some (.success, taken) }
  | .discard read =>
      { store := some (.readSequence (read + 1))
        next := .idle
        returned := some (.corrupt, []) }

/-- A finished call: its result, the payload it pushed or popped, and every store it
made to the mapping. -/
structure Call where
  result : RingResult
  payload : List UInt8
  stores : List Store
/-- A party inside a call, with the stores of that call so far and the calls it has
finished. -/
structure Party (Location : Type) where
  location : Location
  stores : List Store := []
  calls : List Call := []

/-- The ring and its two parties. -/
structure State where
  memory : Memory
  producer : Party Producer
  consumer : Party Consumer

def Memory.applyStore (memory : Memory) : Option Store → Memory
  | some store => memory.store store
  | none => memory

/-- Record one step of a party. -/
def Party.advance {Location : Type} (party : Party Location)
    (effect : Effect Location (RingResult × List UInt8)) : Party Location :=
  let stores := party.stores ++ effect.store.toList
  match effect.returned with
  | some (result, payload) =>
      { location := effect.next, calls := party.calls ++ [⟨result, payload, stores⟩] }
  | none => { location := effect.next, stores := stores, calls := party.calls }

def State.produce (state : State) (effect : Effect Producer (RingResult × List UInt8)) : State :=
  { state with
    memory := state.memory.applyStore effect.store
    producer := state.producer.advance effect }

def State.consume (state : State) (effect : Effect Consumer (RingResult × List UInt8)) : State :=
  { state with
    memory := state.memory.applyStore effect.store
    consumer := state.consumer.advance effect }

/-- The choices of the scheduler. A party that is inside a call does not enter
another one. -/
inductive Action where
  | push (payload : List UInt8)
  | producer
  | pop (size : Nat)
  | consumer
deriving DecidableEq, Repr

/-- One step of one of the parties. -/
def step (config : RingConfig) (checksum : List UInt8 → UInt64) (state : State) :
    Action → State
  | .push payload =>
      match state.producer.location with
      | .idle => state.produce (Producer.enter config payload)
      | _ => state
  | .producer => state.produce (state.producer.location.step config checksum state.memory)
  | .pop size =>
      match state.consumer.location with
      | .idle => state.consume (Consumer.enter size)
      | _ => state
  | .consumer => state.consume (state.consumer.location.step config checksum state.memory)

/-- An empty ring whose two sequence numbers stand at `start`, with arbitrary bytes in
its slots. Creation has `start = 0`. -/
def initial (start : UInt64) (slots : Nat → Slot) : State where
  memory := { writeSequence := start, readSequence := start, slots := slots }
  producer := { location := .idle }
  consumer := { location := .idle }

/-- A run under a schedule. -/
def run (config : RingConfig) (checksum : List UInt8 → UInt64) (state : State)
    (schedule : List Action) : State :=
  schedule.foldl (step config checksum) state

/-- Payloads of the successful calls, in order. -/
def Party.payloads {Location : Type} (party : Party Location) : List (List UInt8) :=
  (party.calls.filter (·.result = .success)).map (·.payload)

/-- The payloads that `try_push` has published. -/
def State.pushed (state : State) : List (List UInt8) := state.producer.payloads

/-- The payloads that `try_pop` has delivered. -/
def State.popped (state : State) : List (List UInt8) := state.consumer.payloads

end Ring

end FlowEdge
