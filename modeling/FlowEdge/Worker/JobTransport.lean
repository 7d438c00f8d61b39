import FlowEdge.SharedMemory.BoundedRing

/-!
# The rings of a service

A service takes requests from one ring and publishes messages on another one; its peer
pushes to the first and takes from the second. Before each call of the service the peer
makes any number of calls, as a schedule says that the service only consumes.
-/

namespace FlowEdge

/-- What the peer does to the rings. Besides its calls it may publish a slot that the checks of
`try_pop` refuse. -/
inductive PeerMove where
  | push (payload : List UInt8)
  | damage (bytes : Nat)
  | pop (size : Nat)

/-- The two rings, the coming moves of the peer, and what the service has taken and published so
far, which the service does not read. -/
structure Transport where
  requests : BoundedRing
  responses : BoundedRing
  schedule : List (List PeerMove) := []
  taken : List (List UInt8) := []
  published : List (List UInt8) := []

namespace Transport

/-- What the peer does at its ends of the rings. -/
def move (transport : Transport) : PeerMove → Transport
  | .push payload => { transport with requests := (transport.requests.tryPush payload).2 }
  | .damage bytes =>
      let ring := transport.requests
      if ring.config.slotBytes.toNat < bytes ∨ ring.config.capacity.toNat ≤ ring.items.length then
        transport
      else { transport with requests := { ring with items := ring.items ++ [.damaged bytes] } }
  | .pop size => { transport with responses := (transport.responses.tryPop size).2.2 }

def moves (transport : Transport) (moves : List PeerMove) : Transport := moves.foldl move transport

/-- Let the peer act. -/
def interfere (transport : Transport) : Transport :=
  match transport.schedule with
  | [] => transport
  | moves :: rest => { transport.moves moves with schedule := rest }

/-- `try_pop` of the service on its requests. -/
def receive (transport : Transport) (size : Nat) : RingResult × List UInt8 × Transport :=
  let transport := transport.interfere
  let (result, payload, requests) := transport.requests.tryPop size
  (result, payload, { transport with
    requests
    taken := if result = .success then transport.taken ++ [payload] else transport.taken })

/-- `try_push` of the service to its responses. -/
def publish (transport : Transport) (payload : List UInt8) : RingResult × Transport :=
  let transport := transport.interfere
  let (result, responses) := transport.responses.tryPush payload
  (result, { transport with
    responses
    published :=
      if result = .success then transport.published ++ [payload] else transport.published })

/-- Neither log changes. -/
structure SameLogs (before after : Transport) : Prop where
  taken : after.taken = before.taken
  published : after.published = before.published

theorem SameLogs.trans {first second third : Transport} (left : SameLogs first second)
    (right : SameLogs second third) : SameLogs first third :=
  ⟨right.taken.trans left.taken, right.published.trans left.published⟩

theorem sameLogs_move (transport : Transport) (move : PeerMove) :
    transport.SameLogs (transport.move move) := by
  cases move with
  | push => exact ⟨rfl, rfl⟩
  | damage =>
      simp only [Transport.move]
      split
      · exact ⟨rfl, rfl⟩
      · exact ⟨rfl, rfl⟩
  | pop => exact ⟨rfl, rfl⟩

theorem sameLogs_moves (transport : Transport) (moves : List PeerMove) :
    transport.SameLogs (transport.moves moves) := by
  induction moves generalizing transport with
  | nil => exact ⟨rfl, rfl⟩
  | cons move rest ih => exact (transport.sameLogs_move move).trans (ih _)

theorem sameLogs_interfere (transport : Transport) : transport.SameLogs transport.interfere := by
  unfold interfere
  split
  · exact ⟨rfl, rfl⟩
  · next moves rest _ =>
      have same := transport.sameLogs_moves moves
      exact ⟨same.taken, same.published⟩

/-- What a call of `receive` leaves in the logs. -/
theorem receive_logs {transport after : Transport} {size : Nat} {result : RingResult}
    {payload : List UInt8} (received : transport.receive size = (result, payload, after)) :
    after.taken = transport.taken ++ (if result = .success then [payload] else []) ∧
      after.published = transport.published := by
  have same := transport.sameLogs_interfere
  unfold receive at received
  obtain ⟨rfl, rfl, rfl⟩ := by simpa only [Prod.mk.injEq] using received
  refine ⟨?_, same.published⟩
  split <;> simp [same.taken]

/-- What a call of `publish` leaves in the logs. -/
theorem publish_logs {transport after : Transport} {payload : List UInt8} {result : RingResult}
    (pushed : transport.publish payload = (result, after)) :
    after.published = transport.published ++ (if result = .success then [payload] else []) ∧
      after.taken = transport.taken := by
  have same := transport.sameLogs_interfere
  unfold publish at pushed
  obtain ⟨rfl, rfl⟩ := by simpa only [Prod.mk.injEq] using pushed
  refine ⟨?_, same.taken⟩
  split <;> simp [same.published]

end Transport

end FlowEdge
