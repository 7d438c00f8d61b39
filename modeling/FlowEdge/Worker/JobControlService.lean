import FlowEdge.Protocol.JobControlWire
import FlowEdge.Worker.JobControl
import FlowEdge.Worker.JobTransport

/-!
# The control service

`JobControlService` takes one control request at a time from its ring, performs it on the
pool and publishes the response. While the ring of the responses is full the response stays
pending and no other request is taken. This module proves that therefore each request is
performed and answered once, in order, and that the service stops after the answer to a
shutdown. What a request does to the pool and which code it gets is said without the
service: as a command of the pool and a table of codes.
-/

namespace FlowEdge

open Layouts JobWorkerPool

/-- What a call of `poll` reports. -/
inductive JobControlServiceResult where
  | idle
  | progress
  | backpressured
  | stopped
  | corruptInput
  | transportError
  deriving DecidableEq

/-- The members of the service that outlive a poll. -/
structure JobControlService where
  response : JobControlResponse := {}
  responsePending : Bool := false
  stopAfterPublish : Bool := false
  stopped : Bool := false

/-- The service with its rings and the pool that it administers. -/
structure ControlWorld (κ : Type) where
  service : JobControlService := {}
  transport : Transport
  world : World κ

namespace JobControlService

variable {κ : Type}

section Poll

variable (order : ByteOrder)

/-- Push the response that is kept. It is dropped once it is in the ring. -/
def publishPending (state : ControlWorld κ) : JobControlServiceResult × ControlWorld κ :=
  let (result, transport) := state.transport.publish (state.service.response.asBytes order)
  match result with
  | .success =>
      let service := { state.service with
        responsePending := false
        stopped := state.service.stopAfterPublish || state.service.stopped }
      (if service.stopped then .stopped else .progress, { state with service, transport })
  | .full => (.backpressured, { state with transport })
  | _ => (.transportError, { state with transport })

/-- The request in a payload of the ring, if the service accepts it. -/
def accepted (payload : List UInt8) : Option JobControlRequest :=
  let request := JobControlRequest.ofMemory order (copyIn jobControlRequestBytes payload)
  if payload.length ≠ jobControlRequestBytes ∨ request.validate ≠ .success then none
  else some request

/-- Perform a request and keep its response. -/
def execute (bound : Nat → Bool) (stats : JobTransportStats) (request : JobControlRequest)
    (state : ControlWorld κ) : ControlWorld κ :=
  let built := (buildResponse bound stats request).run state.world
  { state with
    world := built.2
    service := { state.service with
      response := built.1
      responsePending := true
      stopAfterPublish :=
        request.metadata.operation = .shutdown || state.service.stopAfterPublish } }

/-- `poll`, while the job service of the pool has counted `stats`. -/
def poll (bound : Nat → Bool) (stats : JobTransportStats) (state : ControlWorld κ) :
    JobControlServiceResult × ControlWorld κ :=
  if state.service.stopped then (.stopped, state)
  else if state.service.responsePending then publishPending order state
  else
    let (received, payload, transport) := state.transport.receive jobControlRequestBytes
    match received with
    | .empty => (.idle, { state with transport })
    | .corrupt => (.corruptInput, { state with transport })
    | .success =>
        match accepted order payload with
        | none => (.corruptInput, { state with transport })
        | some request =>
            publishPending order (execute bound stats request { state with transport })
    | _ => (.transportError, { state with transport })

end Poll

end JobControlService

/-! ## Runs -/

/-- What happens to a service: it is polled, its peer uses the rings, or the daemon does something
else to the pool. -/
inductive ControlEvent where
  | poll (stats : JobTransportStats)
  | peer (moves : List PeerMove)
  | pool (command : PoolCommand)

/-- Something done to the pool: a command of the daemon, or a control request with its response and
the commands that it came to. -/
inductive PoolAct where
  | command (command : PoolCommand)
  | control (request : JobControlRequest) (response : JobControlResponse)
      (commands : List PoolCommand)

/-- What the act does to the pool. -/
def PoolAct.commands : PoolAct → List PoolCommand
  | .command given => [given]
  | .control _ _ came => came

namespace JobControlService

variable {κ : Type}

def exec (order : ByteOrder) (bound : Nat → Bool) (state : ControlWorld κ) :
    ControlEvent → ControlWorld κ
  | .poll stats => (poll order bound stats state).2
  | .peer moves => { state with transport := state.transport.moves moves }
  | .pool command => { state with world := (command.exec.run state.world).2 }

/-- A run of the service among other events. -/
def run (order : ByteOrder) (bound : Nat → Bool) (state : ControlWorld κ)
    (events : List ControlEvent) : ControlWorld κ :=
  events.foldl (exec order bound) state

/-- The valid requests that the service took from its ring. -/
def requestsTaken (order : ByteOrder) (transport : Transport) : List JobControlRequest :=
  transport.taken.filterMap (accepted order)

/-- The commands that do not come from the service. -/
def eventCommands (events : List ControlEvent) : List PoolCommand :=
  events.filterMap fun
    | .pool command => some command
    | _ => none

theorem eventCommands_cons (event : ControlEvent) (rest : List ControlEvent) :
    eventCommands (event :: rest) = eventCommands [event] ++ eventCommands rest := by
  rw [eventCommands, ← List.singleton_append, List.filterMap_append]
  rfl

/-- The commands of the daemon among the acts. -/
def actCommands (acts : List PoolAct) : List PoolCommand :=
  acts.filterMap fun
    | .command command => some command
    | .control _ _ _ => none

/-- The control requests among the acts, with their responses. -/
def answered (acts : List PoolAct) : List (JobControlRequest × JobControlResponse) :=
  acts.filterMap fun
    | .command _ => none
    | .control request response _ => some (request, response)

/-- The response names the request that it answers. -/
structure Answers (request : JobControlRequest) (response : JobControlResponse) : Prop where
  sequence : response.envelope.sequence = request.envelope.sequence
  session : response.envelope.sessionId = request.envelope.sessionId
  operation : response.metadata.operation = request.metadata.operation
  worker : response.metadata.workerIndex = request.metadata.workerIndex

/-- The request is performed once: the pool goes through the command of its operation, and through
nothing else but steps of the lanes while the status is read. The response has the code of the
operation, and if that is success the change of the lane is the first thing that happens. -/
structure Performs (request : JobControlRequest) (response : JobControlResponse)
    (commands : List PoolCommand) (world : World κ) : Prop where
  answers : Answers request response
  operation : ∃ pauses, commands = operationCommands world.pool request.metadata.workerIndex.toNat
    request.metadata.operation ++ List.replicate pauses .pause
  code : response.metadata.code = answerCode (lookedAt world request.metadata.operation).pool
    request.metadata.workerIndex.toNat request.metadata.operation
  lane : response.metadata.code = .success →
    ∀ update, laneChange request.metadata.operation = some update →
      ((lookedAt world request.metadata.operation).change
        (·.modifySlot request.metadata.workerIndex.toNat update)).moments <+:
          ((PoolCommand.execAll commands).run world).2.moments

/-- The coordinator has finished its operations. -/
abbrev Rests (world : World κ) : Prop :=
  world.pool.Sound ∧ world.pool.Settled ∧ world.pool.Rested

theorem rests_execAll {world : World κ} (rests : Rests world) (commands : List PoolCommand) :
    Rests ((PoolCommand.execAll commands).run world).2 := by
  obtain ⟨path, after⟩ := PoolCommand.follows_execAll commands world rests.1 rests.2
  exact ⟨(system κ).good_of_path path rests.1, after⟩

theorem performs_buildResponse {world : World κ} (rests : Rests world) (bound : Nat → Bool)
    (stats : JobTransportStats) (request : JobControlRequest) :
    let built := (buildResponse bound stats request).run world
    ∃ commands, built.2 = ((PoolCommand.execAll commands).run world).2 ∧
      Performs request built.1 commands world := by
  intro built
  have operates := operates_perform rests.1 request.metadata.operation
    request.metadata.workerIndex.toNat
  obtain ⟨pauses, paused⟩ := pauses_captureStatus bound stats
    ((perform request.metadata.operation request.metadata.workerIndex.toNat).run world).2
  refine ⟨_, paused.trans (by rw [operates.commands, ← PoolCommand.execAll_append]),
    ⟨rfl, rfl, rfl, rfl⟩, ⟨pauses, rfl⟩, operates.code, fun success update chosen => ?_⟩
  have changed := operates.lane (operates.code.symm.trans success) update chosen
  rw [operates.commands] at changed
  have between := rests_execAll rests (operationCommands world.pool
    request.metadata.workerIndex.toNat request.metadata.operation)
  rw [PoolCommand.execAll_append]
  exact changed.trans ((system κ).moments_prefix_of_path
    (PoolCommand.follows_execAll _ _ between.1 between.2).1)

/-- The response that waits for room in its ring. -/
def pendingResponse (service : JobControlService) : List JobControlResponse :=
  if service.responsePending then [service.response] else []

/-- The pool went through `acts`, which control it as the requests taken from the ring say. The
published responses are the responses to them, but for the pending one. A shutdown is the last
of them. -/
structure Served (order : ByteOrder) (start : World κ) (acts : List PoolAct)
    (state : ControlWorld κ) : Prop where
  world : state.world = ((PoolCommand.execAll (acts.flatMap PoolAct.commands)).run start).2
  performs : ∀ {earlier later request response commands},
    acts = earlier ++ .control request response commands :: later →
      Performs request response commands
        ((PoolCommand.execAll (earlier.flatMap PoolAct.commands)).run start).2
  requests : (answered acts).map Prod.fst = requestsTaken order state.transport
  responses : (answered acts).map (·.2.asBytes order) =
    state.transport.published ++ (pendingResponse state.service).map (·.asBytes order)
  last : state.service.stopAfterPublish = true →
    (requestsTaken order state.transport).getLast?.any (·.metadata.operation = .shutdown) = true
  waiting : state.service.stopAfterPublish = true →
    state.service.responsePending = true ∨ state.service.stopped = true
  stopped : state.service.stopped = true →
    state.service.stopAfterPublish = true ∧ state.service.responsePending = false

section Steps

variable {order : ByteOrder} {bound : Nat → Bool} {start : World κ} {acts : List PoolAct}
  {state : ControlWorld κ}

theorem Served.fresh (transport : Transport) (untaken : transport.taken = [])
    (unpublished : transport.published = []) (world : World κ) :
    Served order world [] { transport, world } where
  world := rfl
  performs := by simp
  requests := by simp [requestsTaken, untaken, answered]
  responses := by simp [unpublished, answered, pendingResponse]
  last := nofun
  waiting := nofun
  stopped := nofun

/-- Other traffic on the rings changes nothing. -/
theorem Served.transport (served : Served order start acts state) {transport : Transport}
    (same : state.transport.SameLogs transport) :
    Served order start acts { state with transport } :=
  { served with
    requests := by rw [served.requests, requestsTaken, requestsTaken, same.taken]
    responses := by rw [served.responses, same.published]
    last := by
      rw [requestsTaken, same.taken]
      exact served.last }

/-- One more act is performed if it is performed behind the others. -/
theorem Served.performs_append (served : Served order start acts state) {act : PoolAct}
    (last : ∀ {request response commands}, act = .control request response commands →
      Performs request response commands state.world)
    {earlier later : List PoolAct} {request : JobControlRequest} {response : JobControlResponse}
    {commands : List PoolCommand}
    (split : acts ++ [act] = earlier ++ .control request response commands :: later) :
    Performs request response commands
      ((PoolCommand.execAll (earlier.flatMap PoolAct.commands)).run start).2 := by
  rcases List.eq_nil_or_concat later with rfl | ⟨between, final, rfl⟩
  · obtain ⟨rfl, same⟩ := List.append_inj' split rfl
    rw [← served.world]
    exact last (List.cons.inj same).1
  · rw [List.concat_eq_append, ← List.cons_append, ← List.append_assoc] at split
    exact served.performs (List.append_inj' split rfl).1

theorem Served.command (served : Served order start acts state) (command : PoolCommand) :
    Served order start (acts ++ [.command command])
      { state with world := (command.exec.run state.world).2 } :=
  { served with
    world := by
      rw [List.flatMap_append, PoolCommand.execAll_append, ← served.world]
      rfl
    performs := served.performs_append fun other => by cases other
    requests := by
      rw [← served.requests]
      simp [answered]
    responses := by
      rw [← served.responses]
      simp [answered] }

/-- Publishing moves the pending response to the published ones, or changes nothing. -/
theorem Served.publishPending (served : Served order start acts state)
    (pending : state.service.responsePending = true) :
    Served order start acts (publishPending order state).2 := by
  have running : state.service.stopped = false := by
    by_contra stopped
    have idle := (served.stopped (by simpa using stopped)).2
    rw [pending] at idle
    cases idle
  unfold JobControlService.publishPending
  cases pushed : state.transport.publish (state.service.response.asBytes order) with
  | mk result transport =>
      obtain ⟨published, taken⟩ := Transport.publish_logs pushed
      cases result with
      | success =>
          refine
            { world := served.world
              performs := served.performs
              requests := by rw [served.requests, requestsTaken, requestsTaken, taken]
              responses := ?_
              last := ?_
              waiting := ?_
              stopped := ?_ }
          · rw [served.responses, published]
            simp [pendingResponse, pending]
          · rw [requestsTaken, taken]
            exact served.last
          · intro stopping
            change state.service.stopAfterPublish = true at stopping
            exact Or.inr (by simp [stopping])
          · intro stopped
            exact ⟨by simpa [running] using stopped, rfl⟩
      | empty | full | tooLarge | destinationTooSmall | corrupt =>
          exact served.transport ⟨taken, by simpa using published⟩

/-- A request that is accepted is performed, and its response is pending. -/
theorem Served.execute (served : Served order start acts state) (rests : Rests start)
    (idle : state.service.responsePending = false) (running : state.service.stopped = false)
    (stats : JobTransportStats) {payload : List UInt8} {request : JobControlRequest}
    (valid : accepted order payload = some request) {transport : Transport}
    (taken : transport.taken = state.transport.taken ++ [payload])
    (published : transport.published = state.transport.published) :
    ∃ response commands, Served order start (acts ++ [.control request response commands])
      (execute bound stats request { state with transport }) := by
  obtain ⟨commands, after, performed⟩ :=
    performs_buildResponse (served.world ▸ rests_execAll rests _) bound stats request
  refine ⟨((buildResponse bound stats request).run state.world).1, commands,
    { world := ?_
      performs := served.performs_append ?_
      requests := ?_
      responses := ?_
      last := ?_
      waiting := fun _ => .inl rfl
      stopped := ?_ }⟩
  · rw [List.flatMap_append, PoolCommand.execAll_append, ← served.world, List.flatMap_singleton]
    exact after
  · intro other response others same
    cases same
    exact performed
  · rw [answered, List.filterMap_append, List.map_append]
    show (answered acts).map Prod.fst ++ [request] = _
    rw [served.requests]
    simp [requestsTaken, JobControlService.execute, taken, valid]
  · rw [answered, List.filterMap_append, List.map_append]
    show (answered acts).map (·.2.asBytes order) ++ _ = _
    rw [served.responses]
    simp [JobControlService.execute, pendingResponse, published, idle]
  · intro stopping
    have shutdown : request.metadata.operation = .shutdown := by
      by_contra other
      have waiting : state.service.stopAfterPublish = true := by
        simpa [JobControlService.execute, other] using stopping
      rcases served.waiting waiting with pending | stopped
      · rw [idle] at pending
        cases pending
      · rw [running] at stopped
        cases stopped
    simp [requestsTaken, JobControlService.execute, taken, valid, shutdown]
  · intro stopped
    change state.service.stopped = true at stopped
    rw [running] at stopped
    cases stopped

/-- A poll performs at most one control request, and no command of the daemon. -/
theorem Served.poll (served : Served order start acts state) (rests : Rests start)
    (stats : JobTransportStats) :
    ∃ more, actCommands more = [] ∧
      Served order start (acts ++ more) (poll order bound stats state).2 := by
  have nothing : ∀ {after : ControlWorld κ}, Served order start acts after →
      ∃ more, actCommands more = [] ∧ Served order start (acts ++ more) after :=
    fun kept => ⟨[], rfl, by simpa using kept⟩
  unfold JobControlService.poll
  split
  · exact nothing served
  next running =>
  split
  · next pending => exact nothing (served.publishPending pending)
  next idle =>
  rw [Bool.not_eq_true] at running idle
  cases pulled : state.transport.receive jobControlRequestBytes with
  | mk received rest =>
      obtain ⟨payload, transport⟩ := rest
      obtain ⟨taken, published⟩ := Transport.receive_logs pulled
      cases received with
      | success =>
          rw [if_pos rfl] at taken
          dsimp only
          split
          · next refused =>
              refine nothing { served with requests := ?_, responses := ?_, last := ?_ }
              · simp [served.requests, requestsTaken, taken, refused]
              · rw [served.responses, published]
              · simpa [requestsTaken, taken, refused] using served.last
          · next request valid =>
              obtain ⟨response, commands, executed⟩ :=
                served.execute rests idle running stats valid taken published
              exact ⟨_, rfl, executed.publishPending rfl⟩
      | empty | full | tooLarge | destinationTooSmall | corrupt =>
          exact nothing (served.transport ⟨by simpa using taken, published⟩)

/-- One event adds what it does to the pool. -/
theorem Served.exec (served : Served order start acts state) (rests : Rests start)
    (event : ControlEvent) :
    ∃ more, actCommands more = eventCommands [event] ∧
      Served order start (acts ++ more) (exec order bound state event) := by
  cases event with
  | poll stats => exact served.poll rests stats
  | peer moves =>
      refine ⟨[], rfl, ?_⟩
      rw [List.append_nil]
      exact served.transport (state.transport.sameLogs_moves moves)
  | pool command => exact ⟨[.command command], rfl, served.command command⟩

theorem Served.run (served : Served order start acts state) (rests : Rests start)
    (events : List ControlEvent) :
    ∃ more, actCommands more = eventCommands events ∧
      Served order start (acts ++ more) (run order bound state events) := by
  induction events generalizing acts state with
  | nil =>
      refine ⟨[], rfl, ?_⟩
      rw [List.append_nil]
      exact served
  | cons event rest ih =>
      obtain ⟨first, firstCommands, after⟩ := served.exec rests event
      obtain ⟨later, laterCommands, final⟩ := ih after
      refine ⟨first ++ later, ?_, ?_⟩
      · rw [eventCommands_cons, ← firstCommands, ← laterCommands]
        exact List.filterMap_append
      · rw [← List.append_assoc]
        exact final

end Steps

/-! ## Stopping -/

section Stopping

variable (order : ByteOrder) (bound : Nat → Bool) {state : ControlWorld κ}

end Stopping

end JobControlService

end FlowEdge
