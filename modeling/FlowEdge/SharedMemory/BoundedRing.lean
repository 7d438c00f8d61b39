import FlowEdge.SharedMemory.Ring

/-!
# Calls on a ring as single steps

A protocol over the shared-memory ring does not depend on the loads and stores of its calls.
`BoundedRing` is a ring as its parties see it: a queue of payloads on which every call is one
step. The interleaved calls of a producer and a consumer are such steps (`Ring.serial_run`).
-/

namespace FlowEdge

/-- A slot that is published and not taken. The checks of `try_pop` refuse a damaged one, those of
its header at once and that of its payload when the buffer has room for the bytes it announces. A
slot with a refused header is damaged with no bytes. -/
inductive RingItem where
  | intact (payload : List UInt8)
  | damaged (bytes : Nat)
  deriving DecidableEq

/-- A ring as a bounded queue. -/
structure BoundedRing where
  config : RingConfig
  items : List RingItem := []
  deriving DecidableEq

namespace BoundedRing

/-- `try_push` as one step. -/
def tryPush (ring : BoundedRing) (payload : List UInt8) : RingResult × BoundedRing :=
  if ring.config.slotBytes.toNat < payload.length then (.tooLarge, ring)
  else if ring.config.capacity.toNat ≤ ring.items.length then (.full, ring)
  else (.success, { ring with items := ring.items ++ [.intact payload] })

/-- `try_pop` as one step: the answer, the payload that a successful call delivers, and the ring
after it. -/
def tryPop (ring : BoundedRing) (size : Nat) : RingResult × List UInt8 × BoundedRing :=
  match ring.items with
  | [] => (.empty, [], ring)
  | .damaged bytes :: rest =>
      if size < bytes then (.destinationTooSmall, [], ring)
      else (.corrupt, [], { ring with items := rest })
  | .intact payload :: rest =>
      if size < payload.length then (.destinationTooSmall, [], ring)
      else (.success, payload, { ring with items := rest })

/-- One call after the other led from the first ring to the second, with these answers of the
pushes and of the pops, each with the payload of its call. -/
inductive Serial (ring : BoundedRing) :
    List (RingResult × List UInt8) → List (RingResult × List UInt8) → BoundedRing → Prop
  | nil : Serial ring [] [] ring
  | push {pushes pops : List (RingResult × List UInt8)} {middle after : BoundedRing}
      {result : RingResult} {payload : List UInt8} (calls : Serial ring pushes pops middle)
      (answer : middle.tryPush payload = (result, after)) :
      Serial ring (pushes ++ [(result, payload)]) pops after
  | pop {pushes pops : List (RingResult × List UInt8)} {middle after : BoundedRing}
      {result : RingResult} {payload : List UInt8} (size : Nat)
      (calls : Serial ring pushes pops middle)
      (answer : middle.tryPop size = (result, payload, after)) :
      Serial ring pushes (pops ++ [(result, payload)]) after

end BoundedRing

namespace Ring

/-- The unread payloads, as the queue of the parties. -/
def queue (config : RingConfig) (pushed popped : List (List UInt8)) : BoundedRing where
  config
  items := (pushed.drop popped.length).map .intact

/-- The finished calls are single steps, in the order in which they returned. -/
def State.Linear (config : RingConfig) (state : State) : Prop :=
  BoundedRing.Serial { config } (state.producer.calls.map fun call => (call.result, call.payload))
    (state.consumer.calls.map fun call => (call.result, call.payload))
    (queue config state.pushed state.popped)

end Ring

end FlowEdge
