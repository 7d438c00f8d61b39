import FlowEdge.Worker.JobWorkerPool

/-!
# The coordinator of the worker pool

The operations of `JobWorkerPool` as programs over the pool and what happens beside them.
Before each access to a field that a lane may be accessing, `yield` lets the lanes take
any number of steps; which lane steps when, and what the clock says, is given by a
schedule that the programs only consume. So a run with a fixed schedule can be evaluated,
and a statement about all schedules is one about all interleavings.
-/

namespace FlowEdge

open Words

/-- A step of one lane, with the reading of the clock that it gets. -/
structure LaneMove where
  lane : Nat
  nowNs : UInt64
  deriving DecidableEq

/-- The pool, what it was before, the clock and the schedule: the lane steps at each coming
interference point and the coming readings of the clock. -/
structure World (κ : Type) where
  pool : JobWorkerPool κ
  past : List (JobWorkerPool κ) := []
  clockNs : UInt64 := 0
  schedule : List (List LaneMove) := []
  readings : List UInt64 := []

/-- Programs of the coordinator. -/
abbrev PoolM (κ : Type) := StateM (World κ)

namespace World

variable {κ : Type}

/-- All that the pool was so far. -/
def moments (world : World κ) : List (JobWorkerPool κ) := world.past ++ [world.pool]

/-- A change of the pool is a moment of the run. -/
def change (world : World κ) (update : JobWorkerPool κ → JobWorkerPool κ) : World κ :=
  { world with pool := update world.pool, past := world.past ++ [world.pool] }

/-- The clock never goes back. -/
def move (world : World κ) (move : LaneMove) : World κ :=
  let nowNs := wordMax world.clockNs move.nowNs
  { world.change (·.modifySlot move.lane (·.runSlot nowNs)) with clockNs := nowNs }

/-- The lanes move as the schedule says, between two accesses of the coordinator. -/
def interfere (world : World κ) : World κ :=
  match world.schedule with
  | [] => world
  | moves :: rest => { moves.foldl move world with schedule := rest }

/-- The clock never goes back. -/
def readClock (world : World κ) : World κ :=
  match world.readings with
  | [] => world
  | reading :: rest =>
      { world with clockNs := wordMax world.clockNs reading, readings := rest }

end World

namespace JobWorkerPool

variable {κ : Type}

/-! ## Accesses -/

/-- Let the lanes run. -/
def yield : PoolM κ Unit := modify World.interfere

def monotonicNs : PoolM κ UInt64 := do
  modify World.readClock
  return (← get).clockNs

def getPool : PoolM κ (JobWorkerPool κ) := return (← get).pool

def updatePool (update : JobWorkerPool κ → JobWorkerPool κ) : PoolM κ Unit :=
  modify (·.change update)

/-- Load the slot of a lane, after the lanes had time to run. -/
def loadSlot (index : Nat) : PoolM κ (Option (Slot κ)) := do
  yield
  return (← getPool).slots[index]?

/-! ## Admission -/

/-- The first lane with the least time among those that can take the request. -/
def bestLane (pool : JobWorkerPool κ) (availableAt : List UInt64) (request : JobRequestMessage) :
    Option Nat :=
  (List.range pool.slots.length).foldl (fun best lane =>
    if availableAt.getD lane 0 = maxWord ∨
        (pool.slots[lane]?.any fun slot => slot.registry.registrationAccepts request) = false then
      best
    else
      match best with
      | none => some lane
      | some other =>
          if availableAt.getD lane 0 < availableAt.getD other 0 then some lane else best) none

/-- The loop of `admissible` over the sorted requests. -/
def scheduleFits (pool : JobWorkerPool κ) : List UInt64 → List JobRequestMessage → Bool
  | _, [] => true
  | availableAt, request :: rest =>
      let descriptor := request.metadata.descriptor
      let unitCost := pool.costPolicy.cost descriptor.kind
      if unitCost = 0 then true
      else
        match pool.bestLane availableAt request with
        | none => false
        | some lane =>
            let duration := saturatingMultiply descriptor.totalWorkUnits unitCost
            let start := availableAt.getD lane 0
            if start > descriptor.deadlineNs ∨ duration > descriptor.deadlineNs - start then false
            else if pool.costPolicy.reserveNs > descriptor.deadlineNs - (start + duration) then
              false
            else pool.scheduleFits (availableAt.set lane (start + duration)) rest

/-- The requests whose deadlines admission checks. -/
def admissionJobs (pool : JobWorkerPool κ) (request : JobRequestMessage) :
    List JobRequestMessage :=
  let candidate := request.metadata.descriptor
  request :: (pool.queueOrder.map pool.queued).filter fun queued =>
    ¬ (pool.stale queued ∨ queued.metadata.descriptor.deadlineNs = 0 ∨
      (queued.metadata.descriptor.sessionId = candidate.sessionId ∧
        queued.metadata.descriptor.generation < candidate.generation))

/-- When a lane that is neither draining, idle nor ready can take the next request, or
`none` if the cost of its request is not known. -/
def busyUntil (pool : JobWorkerPool κ) (candidate : JobDescriptor) (nowNs : UInt64)
    (slot : Slot κ) (remaining : UInt64) : Option UInt64 :=
  let active := slot.request.metadata.descriptor
  let activeCost := pool.costPolicy.cost active.kind
  if activeCost = 0 then none
  else
    let bounded :=
      if active.sessionId = candidate.sessionId ∧ active.generation < candidate.generation then
        if pool.workQuantum < remaining then pool.workQuantum else remaining
      else remaining
    some (saturatingAdd nowNs (saturatingMultiply bounded activeCost))

/-- When a lane can take the next request, as `admissible` estimates it. -/
def laneTime (candidate : JobDescriptor) (nowNs : UInt64) (index : Nat) (slot : Slot κ) :
    PoolM κ (Option UInt64) := do
  if slot.drainRequested ∨ slot.state = .ready then return some maxWord
  else if slot.state = .idle then return some nowNs
  else do
    yield
    let pool ← getPool
    let remaining := (pool.slots[index]?.getD slot).remainingWorkUnits
    return pool.busyUntil candidate nowNs slot remaining

/-- The loop of `admissible` over the lanes; `none` stands for its early `return true`. -/
def laneTimes (candidate : JobDescriptor) (nowNs : UInt64) :
    List Nat → PoolM κ (Option (List UInt64))
  | [] => return some []
  | index :: rest => do
      let some slot ← loadSlot index | return none
      let some here ← laneTime candidate nowNs index slot | return none
      let some times ← laneTimes candidate nowNs rest | return none
      return some (here :: times)

/-- `admissible`: a simulated schedule with the request is timely, or costs are unknown. -/
def admissible (request : JobRequestMessage) (nowNs : UInt64) : PoolM κ Bool := do
  let pool ← getPool
  let candidate := request.metadata.descriptor
  if pool.costPolicy.cost candidate.kind = 0 ∨ nowNs = 0 ∨ candidate.deadlineNs = 0 then
    return true
  else if candidate.deadlineNs ≤ nowNs then
    return false
  else do
    let some availableAt ← laneTimes candidate nowNs (List.range pool.slots.length) | return true
    let pool ← getPool
    return pool.scheduleFits availableAt (sortRequests (pool.admissionJobs request))

/-! ## Dispatch and migration -/

/-- The inner loop of `handoff_migrations`: the idle lane that takes the job, and whether any
lane could take it later. -/
def findTarget (source : Nat) (exporter : Slot κ) :
    List Nat → Bool → PoolM κ (Option Nat × Bool)
  | [], hasTarget => return (none, hasTarget)
  | index :: rest, hasTarget => do
      let some candidate := (← getPool).slots[index]? | return (none, hasTarget)
      if index = source ∨ candidate.drainRequested ∨
          candidate.registry.registrationAccepts exporter.request = false ∨
          candidate.migrationStorage.length < exporter.migrationBytes then
        findTarget source exporter rest hasTarget
      else do
        let some loaded ← loadSlot index | return (none, hasTarget)
        if loaded.state = .idle then return (some index, true)
        else findTarget source exporter rest true

/-- Give an exported job to an idle lane, or back to its own if no other could take it. -/
def handoffMigration (source : Nat) : PoolM κ Unit := do
  let some exporter ← loadSlot source | return
  if exporter.state = .migrationReady then do
    let lanes := (← getPool).slots.length
    let (destination, hasTarget) ← findTarget source exporter (List.range lanes) false
    match destination with
    | some index => updatePool (·.handoff source index)
    | none =>
        if hasTarget = false then updatePool (·.modifySlot source resumeLocally)

def handoffMigrations : PoolM κ Unit := do
  let lanes := (← getPool).slots.length
  (List.range lanes).forM handoffMigration

/-- `dispatch_one` on an idle lane. -/
def dispatchOne (index : Nat) (slot : Slot κ) : PoolM κ Unit := do
  if slot.drainRequested = false then do
    let dispatchedNs ← monotonicNs
    let pool ← getPool
    match pool.selectPosition slot.registry dispatchedNs with
    | none => return
    | some position => updatePool (·.dispatch index position dispatchedNs)

/-- An iteration of the loop of `pump`. The cursor moves while the loop runs, so the lane is
worked out from its value at that time. -/
def pumpOne (checked : Nat) : PoolM κ Unit := do
  let pool ← getPool
  if pool.queueOrder ≠ [] then do
    let index := (pool.dispatchCursor + checked) % pool.slots.length
    let some slot ← loadSlot index | return
    if slot.drainRequested = false ∧ slot.state = .idle then
      dispatchOne index slot

/-- Hand jobs over, if the pool migrates at all. -/
def migrate : PoolM κ Unit := do
  let pool ← getPool
  if pool.migrationCapacityBytes ≠ 0 then handoffMigrations else pure ()

/-- Hand over exported jobs, then give queued requests to idle lanes. -/
def pump : PoolM κ Unit := do
  migrate
  let pool ← getPool
  (List.range pool.slots.length).forM pumpOne

/-! ## Cancelling -/

/-- An iteration of the loop of `cancel_before` over the lanes. -/
def cancelSlot (sessionId generation nowNs : UInt64) (index : Nat) : PoolM κ Unit := do
  let some slot := (← getPool).slots[index]? | return
  if slot.sessionId = sessionId ∧ slot.generation < generation then do
    let some loaded ← loadSlot index | return
    if loaded.state = .requested ∨ loaded.state = .running ∨ loaded.state = .migrationReady then do
      yield
      updatePool (·.preempt index generation nowNs)
      let some current ← loadSlot index | return
      updatePool (·.emitPreempted index current current.remainingWorkUnits generation nowNs)
    else if loaded.state = .ready then
      updatePool (·.modifySlot index fun slot => writeRejection slot nowNs .rejectedStale)

/-- Older requests of the session on the lanes are stopped or rejected. -/
def cancelSlots (sessionId generation : UInt64) : PoolM κ Unit := do
  let nowNs ← monotonicNs
  let lanes := (← getPool).slots.length
  (List.range lanes).forM (cancelSlot sessionId generation nowNs)
  pump

/-- `cancel_before`: raise the watermark of the session and tell the lanes. -/
def cancelBefore (sessionId generation : UInt64) : PoolM κ Unit := do
  let pool ← getPool
  match pool.findSession sessionId with
  | none =>
      if pool.sessions.any (fun entry => entry.occupied = false) then do
        updatePool (·.openSession sessionId generation)
        cancelSlots sessionId generation
  | some entry => do
      let watermark := wordMax entry.generation generation
      updatePool (·.setWatermark sessionId watermark)
      cancelSlots sessionId watermark

/-- `release_session`: forget a session that nothing belongs to. -/
def releaseSession (sessionId : UInt64) : PoolM κ Bool := do
  let pool ← getPool
  if (pool.findSession sessionId).isNone then return true
  else if pool.queueOrder.any fun slot =>
      (pool.queued slot).metadata.descriptor.sessionId = sessionId then
    return false
  else do
    let busy ← laneOfSession sessionId (List.range pool.slots.length)
    if busy then return false
    else do
      updatePool (·.closeSession sessionId)
      return true
where
  /-- Some lane that is not idle belongs to the session. -/
  laneOfSession (sessionId : UInt64) : List Nat → PoolM κ Bool
    | [] => return false
    | index :: rest => do
        let some slot ← loadSlot index | return false
        if slot.state ≠ .idle ∧ slot.sessionId = sessionId then return true
        else laneOfSession sessionId rest

/-! ## Submission -/

/-- What `submit` reports: its result and, unless it accepted, the result message for the
caller. -/
structure Submission where
  result : JobSubmitResult
  rejection : Option JobResultMessage := none

/-- The message that `publish_rejection` leaves in its destination. -/
def rejectionMessage (request : JobRequestMessage) (nowNs : UInt64) (code : JobResultCode) :
    JobResultMessage :=
  match makeRejectedJobResult request nowNs code with
  | .ok message => message
  | .error _ => { envelope := {}, metadata := {} }

/-- The time that `submit` writes into its events. -/
def eventTime (nowNs : UInt64) : PoolM κ UInt64 :=
  if nowNs = 0 then monotonicNs else return nowNs

/-- A refused submission, with the message that says why. -/
def reject (request : JobRequestMessage) (nowNs : UInt64) (code : JobResultCode)
    (result : JobSubmitResult) : PoolM κ Submission := do
  let timestampNs ← eventTime nowNs
  updatePool (·.emitRejected request timestampNs code)
  return { result, rejection := some (rejectionMessage request nowNs code) }

/-- An accepted request cancels the older ones of its session. -/
def cancelSuperseded (request : JobRequestMessage) (supersedes : Bool) : PoolM κ Unit :=
  if supersedes then
    cancelBefore request.metadata.descriptor.sessionId request.metadata.descriptor.generation
  else pure ()

/-- The part of `submit` after the request has been admitted. -/
def accept (request : JobRequestMessage) (nowNs : UInt64) : PoolM κ Submission := do
  let timestampNs ← eventTime nowNs
  let supersedes := (← getPool).supersedes request
  updatePool (·.admitRequest request timestampNs)
  cancelSuperseded request supersedes
  pump
  return { result := .accepted }

/-- `submit`, with its checks in order. -/
def submit (request : JobRequestMessage) (nowNs : UInt64) : PoolM κ Submission := do
  let pool ← getPool
  if request.validate ≠ .success then
    reject request nowNs .invalidRequest .invalid
  else if pool.supportsAny request = false then
    reject request nowNs .adapterNotFound .adapterNotFound
  else if pool.hasAcceptingWorker request = false then
    reject request nowNs .rejectedCapacity .full
  else if pool.stale request then
    reject request nowNs .rejectedStale .stale
  else if pool.hasSessionCapacity request.metadata.descriptor.sessionId = false ∨
      pool.queueOrder.length = pool.queueStorage.length then
    reject request nowNs .rejectedCapacity .full
  else if pool.hasQosCapacity request.metadata.serviceClass = false then do
    updatePool fun pool => { pool with qosRejectionCount := pool.qosRejectionCount + 1 }
    reject request nowNs .rejectedQos .qosCapacity
  else do
    let admitted ← admissible request nowNs
    if admitted then accept request nowNs
    else reject request nowNs .rejectedDeadline .deadlineUnreachable

/-! ## Draining and recovery -/

/-- Ask a lane that drains to export its job, unless it was handed that job itself. -/
def askToMigrate (index : Nat) (loaded : Slot κ) : PoolM κ Unit := do
  let pool ← getPool
  if (loaded.state = .requested ∨ loaded.state = .running) ∧
      loaded.migrationSource = noWorker ∧ pool.migrationCapacityBytes ≠ 0 then do
    yield
    updatePool fun pool => pool.modifySlot index
      (requestMigration (pool.hasMigrationTarget index loaded.request))
  else pure ()

/-- `request_worker_drain`: refused if a queued request would be stranded. -/
def requestWorkerDrain (index : Nat) : PoolM κ WorkerDrainResult := do
  let pool ← getPool
  match pool.slots[index]? with
  | none => return .invalidWorker
  | some slot =>
      if slot.drainRequested then return .alreadyDraining
      else if pool.canRemoveWorker index = false then return .wouldStrandWork
      else do
        updatePool (·.modifySlot index beginDrain)
        let some loaded ← loadSlot index | return .started
        if loaded.state = .idle then do
          updatePool (·.modifySlot index drainIdle)
          return .started
        else do
          askToMigrate index loaded
          pump
          return .started

/-- `resume_worker`: put a drained lane back into service. -/
def resumeWorker (index : Nat) : PoolM κ Bool := do
  let some loaded ← loadSlot index | return false
  if loaded.quarantined ∨ loaded.state ≠ .drained then return false
  else do
    updatePool (·.modifySlot index resumeDrained)
    pump
    return true

/-- `recover_worker`: put a drained lane that was quarantined back into service. -/
def recoverWorker (index : Nat) : PoolM κ WorkerRecoveryResult := do
  let some loaded ← loadSlot index | return .invalidWorker
  if loaded.quarantined = false then return .notQuarantined
  else if loaded.state ≠ .drained then return .notDrained
  else do
    updatePool (·.modifySlot index recoverDrained)
    pump
    return .recovered

/-! ## Results -/

/-- The loop of `ready_result`: the lane whose result is presented. -/
def readyLoop : List Nat → PoolM κ (Option Nat)
  | [] => return none
  | checked :: rest => do
      let pool ← getPool
      let index := (pool.readyCursor + checked) % pool.slots.length
      let some slot ← loadSlot index | return none
      if slot.state ≠ .ready then readyLoop rest
      else do
        updatePool (·.noteFailure index)
        if slot.result.validate ≠ .success then do
          updatePool (·.dropInvalid index)
          pump
          readyLoop rest
        else do
          updatePool (·.present index)
          return some index

/-- The lane that `ready_result` answers with. -/
def readyLane : PoolM κ (Option Nat) := do
  migrate
  let pool ← getPool
  match pool.readyIndex with
  | none => readyLoop (List.range pool.slots.length)
  | some index => do
      let loaded ← loadSlot index
      if loaded.any fun slot => slot.state = .ready then return some index
      else do
        updatePool fun pool => { pool with readyIndex := none }
        readyLoop (List.range pool.slots.length)

/-- `ready_result`: the message that the returned view shows at that time. -/
def readyResult : PoolM κ (Option JobResultMessage) := do
  let some index ← readyLane | return none
  return (← getPool).slots[index]?.map (·.result)

/-- `release_ready_result`: the lane of the presented result is free again. -/
def releaseReadyResult : PoolM κ Unit := do
  match (← getPool).readyIndex with
  | none => return
  | some index => do
      updatePool (·.release index)
      pump

end JobWorkerPool

/-! ## Runs -/

/-- The calls of the pool, and waiting. -/
inductive PoolCommand where
  | submit (request : JobRequestMessage) (nowNs : UInt64)
  | cancelBefore (sessionId generation : UInt64)
  | requestWorkerDrain (index : Nat)
  | resumeWorker (index : Nat)
  | recoverWorker (index : Nat)
  | readyResult
  | releaseReadyResult
  | releaseSession (sessionId : UInt64)
  /-- The lanes run while the coordinator does nothing. -/
  | pause

namespace PoolCommand

open JobWorkerPool

variable {κ : Type}

def exec : PoolCommand → PoolM κ Unit
  | .submit request nowNs => discard (JobWorkerPool.submit request nowNs)
  | .cancelBefore sessionId generation => JobWorkerPool.cancelBefore sessionId generation
  | .requestWorkerDrain index => discard (JobWorkerPool.requestWorkerDrain index)
  | .resumeWorker index => discard (JobWorkerPool.resumeWorker index)
  | .recoverWorker index => discard (JobWorkerPool.recoverWorker index)
  | .readyResult => discard JobWorkerPool.readyResult
  | .releaseReadyResult => JobWorkerPool.releaseReadyResult
  | .releaseSession sessionId => discard (JobWorkerPool.releaseSession sessionId)
  | .pause => yield

def execAll (commands : List PoolCommand) : PoolM κ Unit := commands.forM exec

/-- The world after a run of commands from a pool. -/
def runFrom (pool : JobWorkerPool κ) (clockNs : UInt64) (schedule : List (List LaneMove))
    (readings : List UInt64) (commands : List PoolCommand) : World κ :=
  ((execAll commands).run { pool, clockNs, schedule, readings }).2

end PoolCommand

end FlowEdge
