import FlowEdge.Protocol.TraceCodec
import FlowEdge.Worker.JobConservation
import FlowEdge.Worker.JobTransport

/-!
# The job service

`JobService` takes job requests from its ring, submits them to the pool and publishes the
results. A request that the pool refuses is answered with a rejection, which stays pending
while the ring of the results is full; a result stays with its lane until it is published.
This module proves that each request that was received is answered once: it is in the queue
of the pool, held by a lane, about to be rejected, or its result was published.
-/

namespace FlowEdge

open Layouts StatePrograms JobWorkerPool

/-- What a call of `poll` reports. -/
inductive JobServiceResult where
  | idle
  | progress
  | backpressured
  | stopped
  | corruptInput
  | transportError
  deriving DecidableEq

/-- What the service has counted. -/
structure JobTransportStats where
  requestsReceived : UInt64 := 0
  requestsAccepted : UInt64 := 0
  requestsRejected : UInt64 := 0
  resultsPublished : UInt64 := 0
  corruptInputs : UInt64 := 0
  publishBlocked : UInt64 := 0
  deriving DecidableEq

/-- The members of the service that outlive a poll. -/
structure JobService where
  rejection : JobResultMessage := {}
  stats : JobTransportStats := {}
  rejectionPending : Bool := false
  stopped : Bool := false

/-- The service with its rings and its pool. -/
structure ServiceWorld (κ : Type) where
  service : JobService := {}
  transport : Transport
  world : World κ

/-- What the service makes of a payload. -/
inductive ServiceInput where
  | corrupt
  | shutdown
  | request (message : JobRequestMessage)

namespace JobService

variable {κ : Type} (order : ByteOrder)

/-- The checks of a payload. What the buffer holds behind the payload is not looked at. -/
def classify (payload : List UInt8) : ServiceInput :=
  let request := JobRequestMessage.ofMemory order (copyIn jobRequestMessageBytes payload)
  if payload.length < envelopeBytes then .corrupt
  else if request.envelope.kind = .shutdown then
    let control := ControlMessage.ofMemory order payload
    if payload.length ≠ controlMessageBytes then .corrupt
    else if validEnvelope control.envelope .shutdown controlMessageBytes = false then .corrupt
    else .shutdown
  else if request.envelope.kind ≠ .jobRequest ∨ payload.length ≠ request.wireSize ∨
      request.validate ≠ .success then
    .corrupt
  else .request request

/-- A change of the statistics. -/
def count (update : JobTransportStats → JobTransportStats) (state : ServiceWorld κ) :
    ServiceWorld κ :=
  { state with service := { state.service with stats := update state.service.stats } }

/-- The bytes of a result that go into the ring. -/
def resultBytes (result : JobResultMessage) : List UInt8 :=
  TraceMessage.wireBytes order (.jobResult result)

/-- Push a result into the ring and count it. A full ring is not an error. -/
def publish (result : JobResultMessage) (state : ServiceWorld κ) :
    JobServiceResult × ServiceWorld κ :=
  let (pushed, transport) := state.transport.publish (resultBytes order result)
  let state := { state with transport }
  match pushed with
  | .success => (.progress, count (fun stats =>
      { stats with resultsPublished := stats.resultsPublished + 1 }) state)
  | .full => (.backpressured, count (fun stats =>
      { stats with publishBlocked := stats.publishBlocked + 1 }) state)
  | _ => (.transportError, state)

/-- Whether a rejection waits for the ring. -/
def setPending (pending : Bool) (state : ServiceWorld κ) : ServiceWorld κ :=
  { state with service := { state.service with rejectionPending := pending } }

/-- Publish the pending rejection. An error is a result with which `poll` returns, otherwise it
is known whether progress was made. -/
def publishRejection (state : ServiceWorld κ) : Except JobServiceResult Bool × ServiceWorld κ :=
  if state.service.rejectionPending then
    let published := publish order state.service.rejection state
    if published.1 ≠ .progress then (.error published.1, published.2)
    else (.ok true, setPending false published.2)
  else (.ok false, state)

/-- Publish the result of a lane and release it. -/
def publishReady (madeProgress : Bool) (state : ServiceWorld κ) :
    Except JobServiceResult Bool × ServiceWorld κ :=
  let ready := (readyResult : PoolM κ (Option JobResultMessage)).run state.world
  let state := { state with world := ready.2 }
  match ready.1 with
  | none => (.ok madeProgress, state)
  | some result =>
      let published := publish order result state
      if published.1 ≠ .progress then (.error published.1, published.2)
      else (.ok true, { published.2 with
        world := ((releaseReadyResult : PoolM κ Unit).run published.2.world).2 })

/-- Submit a valid request. -/
def serve (nowNs : UInt64) (request : JobRequestMessage) (state : ServiceWorld κ) :
    JobServiceResult × ServiceWorld κ :=
  let state := count (fun stats =>
    { stats with requestsReceived := stats.requestsReceived + 1 }) state
  let submitted := (eventTime nowNs >>= submit request : PoolM κ Submission).run state.world
  let state := { state with world := submitted.2 }
  if submitted.1.result = .accepted then
    (.progress, count (fun stats =>
      { stats with requestsAccepted := stats.requestsAccepted + 1 }) state)
  else
    let rejection := submitted.1.rejection.getD state.service.rejection
    let state := count (fun stats =>
      { stats with requestsRejected := stats.requestsRejected + 1 })
      { state with service := { state.service with rejection } }
    if rejection.validate ≠ .success then (.transportError, state)
    else
      let published := publish order rejection (setPending true state)
      (published.1,
        if published.1 = .progress then setPending false published.2 else published.2)

def countCorrupt (state : ServiceWorld κ) : ServiceWorld κ :=
  count (fun stats => { stats with corruptInputs := stats.corruptInputs + 1 }) state

/-- The rest of `poll`: take a message from the ring. -/
def takeRequest (nowNs : UInt64) (madeProgress : Bool) (state : ServiceWorld κ) :
    JobServiceResult × ServiceWorld κ :=
  let (received, payload, transport) := state.transport.receive jobRequestMessageBytes
  let state := { state with transport }
  match received with
  | .empty => (if madeProgress then .progress else .idle, state)
  | .corrupt => (.corruptInput, countCorrupt state)
  | .success =>
      match classify order payload with
      | .corrupt => (.corruptInput, countCorrupt state)
      | .shutdown => (.stopped, { state with service := { state.service with stopped := true } })
      | .request request => serve order nowNs request state
  | _ => (.transportError, state)

/-- `JobService::poll`: first the rejection that waits, then one result, then one request. -/
def poll (nowNs : UInt64) (state : ServiceWorld κ) : JobServiceResult × ServiceWorld κ :=
  if state.service.stopped then (.stopped, state)
  else
    match publishRejection order state with
    | (.error result, state) => (result, state)
    | (.ok madeProgress, state) =>
        match publishReady order madeProgress state with
        | (.error result, state) => (result, state)
        | (.ok madeProgress, state) => takeRequest order nowNs madeProgress state

end JobService

/-! ## Runs -/

/-- What else is done to the pool of a service: all but submitting and collecting results. -/
inductive Administration where
  | cancelBefore (sessionId generation : UInt64)
  | requestWorkerDrain (index : Nat)
  | resumeWorker (index : Nat)
  | recoverWorker (index : Nat)
  | releaseSession (sessionId : UInt64)
  /-- The lanes run. -/
  | pause

def Administration.command : Administration → PoolCommand
  | .cancelBefore sessionId generation => .cancelBefore sessionId generation
  | .requestWorkerDrain index => .requestWorkerDrain index
  | .resumeWorker index => .resumeWorker index
  | .recoverWorker index => .recoverWorker index
  | .releaseSession sessionId => .releaseSession sessionId
  | .pause => .pause

/-- What can happen around the service. -/
inductive ServiceEvent where
  | poll (nowNs : UInt64)
  | peer (moves : List PeerMove)
  | pool (administration : Administration)

namespace JobService

variable {κ : Type}

def exec (order : ByteOrder) (state : ServiceWorld κ) : ServiceEvent → ServiceWorld κ
  | .poll nowNs => (poll order nowNs state).2
  | .peer moves => { state with transport := state.transport.moves moves }
  | .pool administration =>
      { state with world := (administration.command.exec.run state.world).2 }

/-- A run of the service among other events. -/
def run (order : ByteOrder) (state : ServiceWorld κ) (events : List ServiceEvent) :
    ServiceWorld κ :=
  events.foldl (exec order) state

/-- The valid request in a payload. -/
def validRequest (order : ByteOrder) (payload : List UInt8) : Option JobRequestMessage :=
  match classify order payload with
  | .request request => some request
  | _ => none

/-- The valid requests that the service took from its ring. -/
def requestsTaken (order : ByteOrder) (transport : Transport) : List JobRequestMessage :=
  transport.taken.filterMap (validRequest order)

end JobService

/-! ## What the service relies on -/

namespace JobWorkerPool

variable {κ α : Type}

/-- What holds of a pool between the operations on it. -/
structure Healthy (pool : JobWorkerPool κ) : Prop where
  sound : pool.Sound
  settled : pool.Settled
  rested : pool.Rested
  conserved : pool.ledger.Conserved

theorem Healthy.path {first last : World κ} (healthy : first.pool.Healthy)
    (path : (system κ).Path first last) (settled : last.pool.Settled) (rested : last.pool.Rested) :
    last.pool.Healthy where
  sound := (system κ).good_of_path path healthy.sound
  settled := settled
  rested := rested
  conserved := (system κ).invariant_of_path
    (fun sound step (conserved : Ledger.Conserved _) =>
      conserved.step (Transition.ledger step sound))
    path healthy.sound healthy.conserved

theorem Healthy.serving {program : PoolM κ α} {pre : JobWorkerPool κ → Prop}
    {post : α → JobWorkerPool κ → Prop} (follows : (serving κ).Follows pre program post)
    {world : World κ} (healthy : world.pool.Healthy) (assumed : pre world.pool)
    (settles : ∀ answer pool, post answer pool → pool.Settled) :
    (program.run world).2.pool.Healthy ∧ post (program.run world).1 (program.run world).2.pool := by
  obtain ⟨path, rested, holds⟩ :=
    serving_rested follows world healthy.sound ⟨healthy.rested, assumed⟩
  exact ⟨healthy.path path (settles _ _ holds) rested, holds⟩

/-- Quiet programs keep the books. -/
theorem Healthy.quiet {program : PoolM κ α} {post : α → JobWorkerPool κ → Prop}
    (follows : Follows (fun _ => True) program post) {world : World κ}
    (healthy : world.pool.Healthy) :
    (program.run world).2.pool.Healthy ∧
      (program.run world).2.pool.books = world.pool.books ∧
      post (program.run world).1 (program.run world).2.pool := by
  obtain ⟨after, books, -, holds⟩ := healthy.serving (follows.settled.books world.pool.books)
    ⟨rfl, healthy.settled, trivial⟩ fun _ _ known => known.2.1
  exact ⟨after, books, holds⟩

/-- Administration neither accepts nor releases a request. -/
theorem Healthy.administer {world : World κ} (healthy : world.pool.Healthy)
    (administration : Administration) :
    (administration.command.exec.run world).2.pool.Healthy ∧
      (administration.command.exec.run world).2.pool.books = world.pool.books := by
  have quietly : ∀ {α : Type} {program : PoolM κ α} {post : α → JobWorkerPool κ → Prop},
      Follows (fun _ => True) program post → (program.run world).2.pool.Healthy ∧
        (program.run world).2.pool.books = world.pool.books := by
    intro α program post follows
    obtain ⟨after, books, -⟩ := healthy.quiet follows
    exact ⟨after, books⟩
  cases administration with
  | cancelBefore sessionId generation =>
      obtain ⟨after, known⟩ := healthy.serving
        (follows_cancelBefore sessionId generation world.pool.books)
        ⟨rfl, healthy.settled.but _ _⟩ fun _ _ holds => holds.2.1
      exact ⟨after, known.1⟩
  | requestWorkerDrain index =>
      obtain ⟨path, books, settled, rested⟩ := follows_requestWorkerDrain index _ world
        healthy.sound ⟨rfl, healthy.settled, healthy.rested⟩
      exact ⟨healthy.path path settled rested, books⟩
  | resumeWorker index =>
      exact (quietly (steps_resumeWorker index) :)
  | recoverWorker index =>
      exact (quietly (steps_recoverWorker index) :)
  | releaseSession sessionId =>
      exact (quietly (steps_releaseSession sessionId) :)
  | pause => exact quietly (follows_yield Stable.top)

/-- The accepted requests without a released result: those in the queue and those that lanes
hold. -/
def owed (pool : JobWorkerPool κ) : List JobRequestMessage :=
  pool.queueOrder.map pool.queued ++ (pool.slots.filterMap Slot.claim).map Prod.fst

theorem Healthy.accepted_perm {pool : JobWorkerPool κ} (healthy : pool.Healthy) :
    pool.accepted.Perm (pool.released.map (·.request) ++ pool.owed) := by
  have places : ∑ place, pool.ledger.entries place =
      pool.ledger.entries .queue +
        (pool.ledger.entries .lanes + pool.ledger.entries .delivered) := by
    change Finset.sum {Place.queue, Place.lanes, Place.delivered} _ = _
    rw [Finset.sum_insert (by decide), Finset.sum_insert (by decide), Finset.sum_singleton]
  have numbered := healthy.conserved
  rw [Ledger.Conserved, places] at numbered
  have requests := congrArg (Multiset.map Prod.fst) numbered
  rw [Multiset.map_coe, List.zipIdx_map_fst, Multiset.map_add, Multiset.map_add] at requests
  refine Multiset.coe_eq_coe.mp (requests.symm.trans ?_)
  simp only [JobWorkerPool.ledger, Multiset.map_coe, List.map_map, owed, ← Multiset.coe_add]
  rw [← add_assoc, add_comm]
  rfl

end JobWorkerPool

namespace JobService

/-! ## The books of the service -/

variable {κ : Type} {order : ByteOrder}

/-- The result is for the request. -/
structure ResultFor (request : JobRequestMessage) (result : JobResultMessage) : Prop where
  answers : result.Answers request
  valid : request.validate = .success

/-- The results published so far, each with its request, and the request that is about to be
rejected. A valid request that was taken is on the books of the pool or was rejected, and a
result was published for those that the pool released and for those that were rejected. -/
structure Booked (order : ByteOrder) (answered : List (JobRequestMessage × JobResultMessage))
    (pending : Option JobRequestMessage) (state : ServiceWorld κ) : Prop where
  healthy : state.world.pool.Healthy
  books : ∃ rejected,
    (requestsTaken order state.transport).Perm
      (state.world.pool.accepted ++ (rejected ++ pending.toList)) ∧
    (answered.map Prod.fst).Perm (state.world.pool.released.map (·.request) ++ rejected)
  published : state.transport.published = answered.map fun pair => resultBytes order pair.2
  answers : ∀ pair ∈ answered, ResultFor pair.1 pair.2
  flag : state.service.rejectionPending = pending.isSome
  rejection : ∀ request ∈ pending, ResultFor request state.service.rejection
  receivedCount : state.service.stats.requestsReceived =
    UInt64.ofNat (requestsTaken order state.transport).length
  publishedCount : state.service.stats.resultsPublished =
    UInt64.ofNat state.transport.published.length

variable {transport : Transport}

/-- A service starts with empty books. -/
theorem Booked.fresh {pool : JobWorkerPool κ} (healthy : pool.Healthy)
    (books : pool.books = ([], [])) (untaken : transport.taken = [])
    (unpublished : transport.published = []) {world : World κ} (same : world.pool = pool) :
    Booked order [] none { transport, world } := by
  subst same
  obtain ⟨accepted, released⟩ := Prod.mk.inj books
  refine
    { healthy
      books := ⟨[], ?_, ?_⟩
      published := unpublished
      answers := by simp
      flag := rfl
      rejection := by simp
      receivedCount := by simp [requestsTaken, untaken]
      publishedCount := by simp [unpublished] }
  · simp [requestsTaken, untaken, accepted]
  · simp [released]

/-- Nothing that the books depend on changes. -/
structure SameBooks (before after : ServiceWorld κ) : Prop where
  world : after.world = before.world
  logs : before.transport.SameLogs after.transport
  rejection : after.service.rejection = before.service.rejection
  flag : after.service.rejectionPending = before.service.rejectionPending
  receivedCount : after.service.stats.requestsReceived = before.service.stats.requestsReceived
  publishedCount : after.service.stats.resultsPublished = before.service.stats.resultsPublished

variable {answered : List (JobRequestMessage × JobResultMessage)}
  {pending : Option JobRequestMessage} {state : ServiceWorld κ} {after : ServiceWorld κ}

theorem Booked.same (booked : Booked order answered pending state) (same : SameBooks state after) :
    Booked order answered pending after := by
  have taken : requestsTaken order after.transport = requestsTaken order state.transport := by
    rw [requestsTaken, same.logs.taken]
    rfl
  exact
    { healthy := by rw [same.world]; exact booked.healthy
      books := by rw [same.world, taken]; exact booked.books
      published := by rw [same.logs.published]; exact booked.published
      answers := booked.answers
      flag := by rw [same.flag]; exact booked.flag
      rejection := by rw [same.rejection]; exact booked.rejection
      receivedCount := by rw [same.receivedCount, taken]; exact booked.receivedCount
      publishedCount := by
        rw [same.publishedCount, same.logs.published]
        exact booked.publishedCount }

/-- A change of the pool that neither accepts nor releases a request. -/
theorem Booked.world (booked : Booked order answered pending state) {world : World κ}
    (healthy : world.pool.Healthy) (books : world.pool.books = state.world.pool.books) :
    Booked order answered pending { state with world } := by
  obtain ⟨accepted, released⟩ := Prod.mk.inj books
  refine { booked with healthy, books := ?_ }
  rw [accepted, released]
  exact booked.books

/-- A result was put on the ring. -/
structure Published (order : ByteOrder) (result : JobResultMessage)
    (before after : ServiceWorld κ) : Prop where
  world : after.world = before.world
  taken : after.transport.taken = before.transport.taken
  published : after.transport.published =
    before.transport.published ++ [resultBytes order result]
  rejection : after.service.rejection = before.service.rejection
  flag : after.service.rejectionPending = before.service.rejectionPending
  receivedCount : after.service.stats.requestsReceived = before.service.stats.requestsReceived
  publishedCount : after.service.stats.resultsPublished =
    before.service.stats.resultsPublished + 1

/-- `publish` makes progress exactly if it put the result on the ring. -/
theorem publish_cases (order : ByteOrder) (result : JobResultMessage) (state : ServiceWorld κ) :
    ((publish order result state).1 = .progress ∧
        Published order result state (publish order result state).2) ∨
      ((publish order result state).1 ≠ .progress ∧
        SameBooks state (publish order result state).2) := by
  unfold publish
  cases pushed : state.transport.publish (resultBytes order result) with
  | mk outcome transport =>
      obtain ⟨published, taken⟩ := Transport.publish_logs pushed
      cases outcome with
      | success => exact .inl ⟨rfl, rfl, taken, published, rfl, rfl, rfl, rfl⟩
      | empty | full | tooLarge | destinationTooSmall | corrupt =>
          have same : transport.published = state.transport.published := by simpa using published
          exact .inr ⟨nofun, rfl, ⟨taken, same⟩, rfl, rfl, rfl, rfl⟩

theorem Published.requestsTaken {result : JobResultMessage}
    (published : Published order result state after) :
    requestsTaken order after.transport = requestsTaken order state.transport := by
  rw [JobService.requestsTaken, published.taken]
  rfl

theorem Published.count {result : JobResultMessage} (published : Published order result state after)
    (booked : Booked order answered pending state) :
    after.service.stats.resultsPublished = UInt64.ofNat after.transport.published.length := by
  rw [published.publishedCount, booked.publishedCount, published.published, List.length_append,
    UInt64.ofNat_add]
  rfl

variable {request : JobRequestMessage}

/-- The pending rejection was published. -/
theorem Booked.rejectionPublished (booked : Booked order answered (some request) state)
    (published : Published order state.service.rejection state after) :
    Booked order (answered ++ [(request, state.service.rejection)]) none
      (setPending false after) := by
  obtain ⟨rejected, taken, results⟩ := booked.books
  refine
    { healthy := ?_
      books := ⟨rejected ++ [request], ?_, ?_⟩
      published := ?_
      answers := ?_
      flag := rfl
      rejection := by simp
      receivedCount := ?_
      publishedCount := published.count booked }
  · change after.world.pool.Healthy
    rw [published.world]
    exact booked.healthy
  · change (requestsTaken order after.transport).Perm (after.world.pool.accepted ++ _)
    rw [published.requestsTaken, published.world]
    simpa using taken
  · change List.Perm _ (after.world.pool.released.map _ ++ _)
    rw [published.world, List.map_append, ← List.append_assoc]
    exact results.append_right _
  · change after.transport.published = _
    rw [published.published, booked.published, List.map_append]
    rfl
  · intro pair member
    rcases List.mem_append.mp member with old | new
    · exact booked.answers pair old
    · rw [List.mem_singleton.mp new]
      exact booked.rejection request rfl
  · change after.service.stats.requestsReceived =
      UInt64.ofNat (requestsTaken order after.transport).length
    rw [published.receivedCount, published.requestsTaken]
    exact booked.receivedCount

/-- The result of a lane was published and released. -/
theorem Booked.readyPublished (booked : Booked order answered pending state) {slot : Slot κ}
    (result : ResultFor slot.request slot.result) {published : ServiceWorld κ}
    (put : Published order slot.result state published) (healthy : after.world.pool.Healthy)
    (books : after.world.pool.books = (state.world.pool.accepted, state.world.pool.released ++
      [{ ticket := slot.ticket, request := slot.request, result := slot.result }]))
    (service : after.service = published.service)
    (transport : after.transport = published.transport) :
    Booked order (answered ++ [(slot.request, slot.result)]) pending after := by
  obtain ⟨accepted, released⟩ := Prod.mk.inj books
  obtain ⟨rejected, taken, results⟩ := booked.books
  refine
    { healthy
      books := ⟨rejected, ?_, ?_⟩
      published := ?_
      answers := ?_
      flag := ?_
      rejection := ?_
      receivedCount := ?_
      publishedCount := ?_ }
  · rw [transport, put.requestsTaken, accepted]
    exact taken
  · rw [released, List.map_append, List.map_append, List.append_assoc]
    refine (results.append_right _).trans ?_
    rw [List.append_assoc]
    exact (List.perm_append_comm).append_left _
  · rw [transport, put.published, booked.published, List.map_append]
    rfl
  · intro pair member
    rcases List.mem_append.mp member with old | new
    · exact booked.answers pair old
    · rw [List.mem_singleton.mp new]
      exact result
  · rw [service, put.flag]
    exact booked.flag
  · rw [service, put.rejection]
    exact booked.rejection
  · rw [service, transport, put.receivedCount, put.requestsTaken]
    exact booked.receivedCount
  · rw [service, transport]
    exact put.count booked

/-! ## The stages of a poll -/

/-- Going on means that no rejection is pending any more. -/
theorem Booked.afterRejection (booked : Booked order answered pending state) :
    ∃ answered pending, Booked order answered pending (publishRejection order state).2 ∧
      ∀ madeProgress, (publishRejection order state).1 = .ok madeProgress → pending = none := by
  unfold JobService.publishRejection
  split
  · next flagged =>
      have waiting := booked.flag
      rw [flagged] at waiting
      obtain ⟨request, rfl⟩ := Option.isSome_iff_exists.mp waiting.symm
      rcases publish_cases order state.service.rejection state with
        ⟨progress, published⟩ | ⟨blocked, same⟩
      · dsimp only
        rw [if_neg (not_not.mpr progress)]
        exact ⟨_, none, booked.rejectionPublished published, fun _ _ => rfl⟩
      · dsimp only
        rw [if_pos blocked]
        exact ⟨_, _, booked.same same, nofun⟩
  · next free =>
      refine ⟨_, _, booked, fun _ _ => ?_⟩
      have waiting := booked.flag
      rw [Bool.not_eq_true] at free
      rw [free] at waiting
      exact Option.isNone_iff_eq_none.mp (by simpa using waiting.symm)

/-- A result that is presented is for the request of its lane. -/
theorem resultFor_presented {pool : JobWorkerPool κ} (healthy : pool.Healthy) {slot : Slot κ}
    (presented : pool.presentedSlot = some slot) : ResultFor slot.request slot.result := by
  obtain ⟨index, chosen, found⟩ := Option.bind_eq_some_iff.mp presented
  obtain ⟨other, here, ready⟩ := healthy.sound.presented index chosen
  cases here.symm.trans found
  have sound := healthy.sound.lane found
  exact ⟨sound.answers ready, (sound.owns (Slot.holding_of ready)).valid⟩

/-- A result is published and its lane released, or nothing happens. -/
theorem Booked.afterReady (booked : Booked order answered pending state) (madeProgress : Bool) :
    ∃ answered, Booked order answered pending (publishReady order madeProgress state).2 := by
  have ready : Follows (fun _ => True) (readyResult : PoolM κ (Option JobResultMessage))
      fun answer pool => answer = pool.presentedSlot.map (·.result) := follows_readyResult
  obtain ⟨healthy, books, answer⟩ := booked.healthy.quiet ready
  have asked := booked.world healthy books
  unfold publishReady
  generalize (readyResult : PoolM κ (Option JobResultMessage)).run state.world = loaded at *
  obtain ⟨result, world⟩ := loaded
  dsimp only at *
  subst answer
  cases presented : world.pool.presentedSlot with
  | none => exact ⟨_, asked⟩
  | some slot =>
      dsimp only [Option.map_some]
      rcases publish_cases order slot.result { state with world } with
        ⟨progress, published⟩ | ⟨blocked, same⟩
      · rw [if_neg (not_not.mpr progress)]
        have there : (publish order slot.result { state with world }).2.world = world :=
          published.world
        obtain ⟨after, released, -⟩ := healthy.serving
          (follows_releaseReadyResult world.pool.books (some slot))
          ⟨rfl, presented, healthy.settled⟩ fun _ _ => And.right
        refine ⟨_, asked.readyPublished (resultFor_presented healthy presented) published ?_ ?_ rfl
          rfl⟩
        · dsimp only
          rw [there]
          exact after
        · dsimp only
          rw [there]
          exact released
      · rw [if_pos blocked]
        exact ⟨_, asked.same same⟩

variable {payload : List UInt8}

theorem validate_of_classify (valid : classify order payload = .request request) :
    request.validate = .success := by
  unfold classify at valid
  dsimp only at valid
  split at valid
  · cases valid
  split at valid
  · split at valid
    · cases valid
    · split at valid <;> cases valid
  split at valid
  · cases valid
  · next passed =>
      cases valid
      simp only [not_or, not_not] at passed
      exact passed.2.2

/-- The answer to a request that the pool refused. -/
theorem resultFor_rejection (valid : request.validate = .success) (nowNs : UInt64)
    {code : JobResultCode} (rejected : code.rejected = true) :
    ResultFor request (rejectionMessage request nowNs code) := by
  obtain ⟨result, built, answers, -⟩ :=
    makeRejectedJobResult_ok (JobRequestMessage.valid_of_validate valid) nowNs rejected
  rw [rejectionMessage, built]
  exact ⟨answers, valid⟩

/-- A request that was taken is on the books of the pool afterwards, or rejected. -/
theorem Booked.afterServe (booked : Booked order answered none state) (nowNs : UInt64)
    (accepts : classify order payload = .request request)
    (taken : transport.taken = state.transport.taken ++ [payload])
    (published : transport.published = state.transport.published) :
    ∃ answered pending,
      Booked order answered pending (serve order nowNs request { state with transport }).2 := by
  have valid := validate_of_classify accepts
  have requests : requestsTaken order transport =
      requestsTaken order state.transport ++ [request] := by
    simp [requestsTaken, taken, validRequest, accepts]
  have counted : state.service.stats.requestsReceived + 1 =
      UInt64.ofNat (requestsTaken order transport).length := by
    rw [requests, List.length_append, UInt64.ofNat_add, booked.receivedCount]
    rfl
  have publishedCount : state.service.stats.resultsPublished =
      UInt64.ofNat transport.published.length := by
    rw [published]
    exact booked.publishedCount
  have results : transport.published = answered.map fun pair => resultBytes order pair.2 :=
    published.trans booked.published
  obtain ⟨rejected, perm, released⟩ := booked.books
  let books := state.world.pool.books
  have submits : (serving κ).Follows (fun pool => pool.books = books ∧ pool.Settled)
      (eventTime nowNs >>= submit request) (Submission.Settles request books) := by
    refine .bind _ (((follows_eventTime nowNs).settled.books books).weaken
      (fun _ _ known => ⟨known.1, known.2, trivial⟩) fun _ _ => id) fun timestampNs => ?_
    exact (follows_submit request timestampNs books).weaken
      (fun _ _ known => ⟨known.1, known.2.1⟩) fun _ _ => id
  obtain ⟨healthy, settles⟩ := booked.healthy.serving submits ⟨rfl, booked.healthy.settled⟩
    fun _ _ settles => settles.settled
  unfold JobService.serve
  dsimp only [count]
  generalize (eventTime nowNs >>= submit request : PoolM κ Submission).run state.world = submitted
    at *
  obtain ⟨answer, world⟩ := submitted
  dsimp only at *
  rcases settles.fits with ⟨accepted, after⟩ | ⟨refused, after, time, code, refusal, message⟩
  · obtain ⟨added, kept⟩ := Prod.mk.inj after
    rw [if_pos accepted]
    refine ⟨answered, none, healthy, ⟨rejected, ?_, ?_⟩, results, booked.answers, booked.flag,
      by simp, counted, publishedCount⟩
    · dsimp only
      rw [requests, added, List.append_assoc]
      refine (perm.append_right [request]).trans ?_
      rw [List.append_assoc]
      exact List.perm_append_comm.append_left _
    · dsimp only
      rw [kept]
      exact released
  · obtain ⟨kept, same⟩ := Prod.mk.inj after
    have resultFor := resultFor_rejection valid time refusal
    rw [if_neg refused, message, Option.getD_some,
      if_neg (not_not.mpr resultFor.answers.valid)]
    -- All that matters of the state in which the rejection is published.
    have waiting : ∀ after : ServiceWorld κ, after.world = world → after.transport = transport →
        after.service.rejection = rejectionMessage request time code →
        after.service.rejectionPending = true →
        after.service.stats.requestsReceived = state.service.stats.requestsReceived + 1 →
        after.service.stats.resultsPublished = state.service.stats.resultsPublished →
        Booked order answered (some request) after := by
      rintro ⟨service, _, _⟩ rfl rfl rejection flag received resultsPublished
      refine ⟨healthy, ⟨rejected, ?_, ?_⟩, results, booked.answers, flag, ?_,
        received.trans counted, resultsPublished.trans publishedCount⟩
      · dsimp only
        rw [requests, kept]
        simpa using perm.append_right [request]
      · dsimp only
        rw [same]
        exact released
      · rintro _ ⟨⟩
        dsimp only at rejection ⊢
        rw [rejection]
        exact resultFor
    generalize within : setPending true _ = ready
    have booked := waiting ready (within ▸ rfl) (within ▸ rfl) (within ▸ rfl) (within ▸ rfl)
      (within ▸ rfl) (within ▸ rfl)
    have message : rejectionMessage request time code = ready.service.rejection := within ▸ rfl
    rw [message]
    rcases publish_cases order ready.service.rejection ready with
      ⟨progress, published⟩ | ⟨blocked, same⟩
    · rw [if_pos progress]
      exact ⟨_, _, booked.rejectionPublished published⟩
    · rw [if_neg blocked]
      exact ⟨_, _, booked.same same⟩

theorem requestsTaken_append {after : Transport}
    (taken : after.taken = transport.taken ++ [payload])
    (refused : validRequest order payload = none) :
    requestsTaken order after = requestsTaken order transport := by
  simp [requestsTaken, taken, refused]

/-- A payload that is no valid request leaves the books. -/
theorem Booked.ignore (booked : Booked order answered pending state)
    (refused : validRequest order payload = none)
    (taken : transport.taken = state.transport.taken ++ [payload])
    (published : transport.published = state.transport.published) :
    Booked order answered pending { state with transport } := by
  have requests := requestsTaken_append taken refused
  exact
    { booked with
      books := by rw [requests]; exact booked.books
      published := by rw [published]; exact booked.published
      receivedCount := by rw [requests]; exact booked.receivedCount
      publishedCount := by rw [published]; exact booked.publishedCount }

theorem Booked.afterTake (booked : Booked order answered none state) (nowNs : UInt64)
    (madeProgress : Bool) :
    ∃ answered pending,
      Booked order answered pending (takeRequest order nowNs madeProgress state).2 := by
  unfold takeRequest
  cases pulled : state.transport.receive jobRequestMessageBytes with
  | mk received rest =>
      obtain ⟨payload, transport⟩ := rest
      obtain ⟨taken, published⟩ := Transport.receive_logs pulled
      cases received with
      | success =>
          rw [if_pos rfl] at taken
          dsimp only
          cases kind : classify order payload with
          | corrupt | shutdown =>
              have ignored := booked.ignore (by rw [validRequest, kind]) taken published
              exact ⟨_, _, ignored.same ⟨rfl, ⟨rfl, rfl⟩, rfl, rfl, rfl, rfl⟩⟩
          | request => exact booked.afterServe nowNs kind taken published
      | empty | full | tooLarge | destinationTooSmall | corrupt =>
          have untaken : transport.taken = state.transport.taken := by simpa using taken
          exact ⟨_, _, booked.same ⟨rfl, ⟨untaken, published⟩, rfl, rfl, rfl, rfl⟩⟩

theorem Booked.poll (booked : Booked order answered pending state) (nowNs : UInt64) :
    ∃ answered pending, Booked order answered pending (poll order nowNs state).2 := by
  unfold JobService.poll
  split
  · exact ⟨_, _, booked⟩
  obtain ⟨answered, pending, afterRejection, cleared⟩ := booked.afterRejection
  generalize publishRejection order state = first at *
  obtain ⟨outcome, state⟩ := first
  cases outcome with
  | error result => exact ⟨_, _, afterRejection⟩
  | ok madeProgress =>
      obtain rfl := cleared madeProgress rfl
      obtain ⟨answered, afterReady⟩ := afterRejection.afterReady madeProgress
      dsimp only at afterReady ⊢
      generalize publishReady order madeProgress state = second at *
      obtain ⟨outcome, state⟩ := second
      cases outcome with
      | error result => exact ⟨_, _, afterReady⟩
      | ok madeProgress => exact afterReady.afterTake nowNs madeProgress

theorem Booked.exec (booked : Booked order answered pending state) (event : ServiceEvent) :
    ∃ answered pending, Booked order answered pending (exec order state event) := by
  cases event with
  | poll nowNs => exact booked.poll nowNs
  | peer moves =>
      exact ⟨_, _, booked.same ⟨rfl, state.transport.sameLogs_moves moves, rfl, rfl, rfl, rfl⟩⟩
  | pool administration =>
      obtain ⟨healthy, books⟩ := booked.healthy.administer administration
      exact ⟨_, _, booked.world healthy books⟩

theorem Booked.run (booked : Booked order answered pending state) (events : List ServiceEvent) :
    ∃ answered pending, Booked order answered pending (run order state events) := by
  induction events generalizing answered pending state with
  | nil => exact ⟨_, _, booked⟩
  | cons event rest ih =>
      obtain ⟨answered, pending, after⟩ := booked.exec event
      exact ih after

/-- Every valid request that was taken was answered, is about to be rejected, or is owed by the
pool. -/
theorem Booked.taken_perm (booked : Booked order answered pending state) :
    (requestsTaken order state.transport).Perm
      (answered.map Prod.fst ++ (pending.toList ++ state.world.pool.owed)) := by
  obtain ⟨rejected, taken, results⟩ := booked.books
  have accepted := booked.healthy.accepted_perm
  have grouped : ((state.world.pool.released.map (·.request) ++ state.world.pool.owed) ++
      (rejected ++ pending.toList)).Perm
      ((state.world.pool.released.map (·.request) ++ rejected) ++
        (pending.toList ++ state.world.pool.owed)) := by
    simp only [List.append_assoc]
    refine List.Perm.append_left _ ?_
    rw [← List.append_assoc rejected]
    exact List.perm_append_comm
  exact taken.trans ((accepted.append_right _).trans (grouped.trans (results.symm.append_right _)))

theorem length_owed (pool : JobWorkerPool κ) :
    pool.owed.length = pool.queueOrder.length + pool.slots.countP Slot.holding := by
  have held : ∀ slot : Slot κ, slot.claim.isSome = slot.holding := by
    intro slot
    unfold Slot.claim
    split
    · next holding => exact holding.symm
    · next free => exact (Bool.not_eq_true _ ▸ free : slot.holding = false).symm
  rw [owed, List.length_append, List.length_map, List.length_map, List.length_filterMap_eq_countP]
  simp only [held]

theorem Booked.balance (booked : Booked order answered pending state) :
    state.service.stats.requestsReceived = state.service.stats.resultsPublished +
      (if state.service.rejectionPending then 1 else 0) +
      UInt64.ofNat state.world.pool.queueOrder.length +
      UInt64.ofNat (state.world.pool.slots.countP Slot.holding) := by
  have sizes := booked.taken_perm.length_eq
  rw [List.length_append, List.length_map, List.length_append, length_owed] at sizes
  have waiting : UInt64.ofNat pending.toList.length =
      if state.service.rejectionPending then 1 else 0 := by
    rw [booked.flag]
    cases pending <;> rfl
  rw [booked.receivedCount, sizes, booked.publishedCount, booked.published, List.length_map,
    ← waiting]
  simp only [UInt64.ofNat_add, UInt64.add_assoc]

end JobService

end FlowEdge
