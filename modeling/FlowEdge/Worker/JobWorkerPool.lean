import Mathlib.Data.List.Sort
import FlowEdge.Foundation.Words
import FlowEdge.Telemetry.JobEventBuffer
import FlowEdge.Worker.JobLane

/-!
# The job worker pool

The state of `JobWorkerPool`: its lanes, the bounded queue in front of them and the
watermarks of its sessions, with the questions that the coordinator asks of it and the
updates that it makes. The operations themselves, which interleave with the lanes, are
built from these in `JobCoordinator`.
-/

namespace FlowEdge

open Words

/-- How long a unit of work takes, per kind of job, and the time to spare. -/
structure JobCostPolicy where
  iterativeNs : UInt64 := 0
  streamingNs : UInt64 := 0
  speculativeNs : UInt64 := 0
  reserveNs : UInt64 := 0
  deriving DecidableEq

def JobCostPolicy.cost (policy : JobCostPolicy) : JobKind → UInt64
  | .iterative => policy.iterativeNs
  | .streaming => policy.streamingNs
  | .speculative => policy.speculativeNs
  | .unknown => 0
  | .undeclared _ => 0

/-- The places of the queue that are kept for the higher classes. -/
structure JobQosPolicy where
  interactiveReserveSlots : Nat := 0
  criticalReserveSlots : Nat := 0
  deriving DecidableEq

/-- The places that a class may not use. -/
def JobQosPolicy.reservedSlots (policy : JobQosPolicy) : JobServiceClass → Nat
  | .bestEffort => policy.interactiveReserveSlots + policy.criticalReserveSlots
  | .interactive => policy.criticalReserveSlots
  | .critical => 0
  | .undeclared _ => policy.interactiveReserveSlots + policy.criticalReserveSlots

/-- A zero threshold disables automatic quarantine. -/
structure WorkerSupervisionPolicy where
  consecutiveFailureThreshold : Nat := 0
  deriving DecidableEq

/-- What `submit` reports. -/
inductive JobSubmitResult where
  | accepted
  | stale
  | deadlineUnreachable
  | invalid
  | adapterNotFound
  | full
  | qosCapacity
  deriving DecidableEq

/-- What `recover_worker` reports. -/
inductive WorkerRecoveryResult where
  | recovered
  | notQuarantined
  | notDrained
  | invalidWorker
  deriving DecidableEq

/-- What `request_worker_drain` reports. -/
inductive WorkerDrainResult where
  | started
  | alreadyDraining
  | wouldStrandWork
  | invalidWorker
  deriving DecidableEq

/-- An entry of the session table. -/
structure SessionWatermark where
  sessionId : UInt64 := 0
  generation : UInt64 := 0
  occupied : Bool := false
  deriving DecidableEq

/-- A result that was read and released, with the accepted request that it is for. -/
structure Delivery where
  ticket : Nat
  request : JobRequestMessage
  result : JobResultMessage
  deriving DecidableEq

/-- The pool. `tickets` runs parallel to `queueStorage` and, with `accepted` and `released`,
records which accepted request is where; no code reads the three. -/
structure JobWorkerPool (κ : Type) where
  slots : List (Slot κ)
  queueStorage : List JobRequestMessage
  queueOrder : List Nat := []
  freeQueueSlots : List Nat
  sessions : List SessionWatermark
  costPolicy : JobCostPolicy := {}
  qosPolicy : JobQosPolicy := {}
  supervisionPolicy : WorkerSupervisionPolicy := {}
  workQuantum : UInt64 := 1
  readyIndex : Option Nat := none
  events : Option JobEventBuffer := none
  dispatchCursor : Nat := 0
  readyCursor : Nat := 0
  migrationCapacityBytes : Nat := 0
  failureCount : UInt64 := 0
  quarantineCount : UInt64 := 0
  qosRejectionCount : UInt64 := 0
  tickets : List Nat
  accepted : List JobRequestMessage := []
  released : List Delivery := []

/-! ## The order of requests -/

/-- A request without a deadline comes last. -/
def requestDeadlineKey (request : JobRequestMessage) : UInt64 :=
  if request.metadata.descriptor.deadlineNs = 0 then maxWord
  else request.metadata.descriptor.deadlineNs

/-- The order of the queue: deadline, class, age, then sequence. -/
def earlierRequest (left right : JobRequestMessage) : Bool :=
  if requestDeadlineKey left ≠ requestDeadlineKey right then
    requestDeadlineKey left < requestDeadlineKey right
  else if left.metadata.serviceClass ≠ right.metadata.serviceClass then
    left.metadata.serviceClass.toCode > right.metadata.serviceClass.toCode
  else if left.metadata.timestampNs ≠ right.metadata.timestampNs then
    left.metadata.timestampNs < right.metadata.timestampNs
  else
    left.envelope.sequence < right.envelope.sequence

/-- The admission order. The sort of the source leaves the order of equal requests open. -/
def sortRequests (requests : List JobRequestMessage) : List JobRequestMessage :=
  requests.insertionSort fun left right => earlierRequest right left = false

def elapsed (start finish : UInt64) : UInt64 :=
  if start ≠ 0 ∧ finish ≥ start then finish - start else 0

/-- The progress of a request on which no work was done. -/
def untouched (state : JobState) (request : JobRequestMessage) : JobProgress where
  state := state
  completedWorkUnits := 0
  remainingWorkUnits := request.metadata.descriptor.totalWorkUnits

namespace JobWorkerPool

variable {κ : Type}

/-! ## Creation -/

/-- What a pool is made from. -/
structure Config (κ : Type) where
  lanes : List (JobAdapterRegistry κ × κ)
  queueCapacity : Nat := 32
  costPolicy : JobCostPolicy := {}
  maxSessions : Nat := 64
  workQuantum : UInt64 := 1
  events : Option JobEventBuffer := none
  migrationCapacityBytes : Nat := 0
  qosPolicy : JobQosPolicy := {}
  supervisionPolicy : WorkerSupervisionPolicy := {}

/-- The pool that the constructor makes. -/
def fresh (config : Config κ) : JobWorkerPool κ where
  slots := config.lanes.map fun lane =>
    { registry := lane.1, workQuantum := config.workQuantum, backend := lane.2,
      migrationStorage := List.replicate config.migrationCapacityBytes 0 }
  queueStorage := List.replicate config.queueCapacity {}
  freeQueueSlots := (List.range config.queueCapacity).reverse
  sessions := List.replicate config.maxSessions {}
  costPolicy := config.costPolicy
  qosPolicy := config.qosPolicy
  supervisionPolicy := config.supervisionPolicy
  workQuantum := config.workQuantum
  events := config.events
  migrationCapacityBytes := config.migrationCapacityBytes
  tickets := List.replicate config.queueCapacity 0

/-- `JobWorkerPool::create`. -/
def create (config : Config κ) : Except String (JobWorkerPool κ) :=
  if config.lanes.isEmpty ∨ config.lanes.length > 8 then
    .error "Generic Relay worker count must be in the range 1..8"
  else if config.queueCapacity = 0 ∨ config.maxSessions = 0 ∨ config.workQuantum = 0 then
    .error "Generic Relay queue, session, and work limits must be non-zero"
  else if config.qosPolicy.interactiveReserveSlots ≥ config.queueCapacity ∨
      config.qosPolicy.criticalReserveSlots ≥ config.queueCapacity ∨
      config.qosPolicy.interactiveReserveSlots >
        config.queueCapacity - 1 - config.qosPolicy.criticalReserveSlots then
    .error "Generic Relay QoS reserves must leave one best-effort queue slot"
  else if config.lanes.any fun lane => lane.1.frozen = false ∨ lane.1.entries.isEmpty then
    .error "Every generic Relay worker lane requires a frozen adapter registry"
  else
    .ok (fresh config)

theorem create_ok {config : Config κ} {pool : JobWorkerPool κ}
    (created : create config = .ok pool) : pool = fresh config := by
  simp only [create, ite_error_eq_ok] at created
  obtain ⟨-, -, -, -, ⟨⟩⟩ := created
  rfl

/-! ## Questions -/

/-- The request in a queue slot. -/
def queued (pool : JobWorkerPool κ) (queueSlot : Nat) : JobRequestMessage :=
  pool.queueStorage.getD queueSlot {}

/-- The request at a position of the queue. -/
def queuedAt (pool : JobWorkerPool κ) (position : Nat) : JobRequestMessage :=
  pool.queued (pool.queueOrder.getD position 0)

/-- The entry of a session. -/
def findSession (pool : JobWorkerPool κ) (sessionId : UInt64) : Option SessionWatermark :=
  pool.sessions.find? fun entry => entry.occupied ∧ entry.sessionId = sessionId

/-- The session has an entry, or there is room for one. -/
def hasSessionCapacity (pool : JobWorkerPool κ) (sessionId : UInt64) : Bool :=
  (pool.findSession sessionId).isSome ∨ pool.sessions.any (·.occupied = false)

/-- The session has a newer generation. -/
def stale (pool : JobWorkerPool κ) (request : JobRequestMessage) : Bool :=
  match pool.findSession request.metadata.descriptor.sessionId with
  | none => false
  | some watermark => request.metadata.descriptor.generation < watermark.generation

/-- Some lane could run the request. -/
def supportsAny (pool : JobWorkerPool κ) (request : JobRequestMessage) : Bool :=
  pool.slots.any (·.registry.registrationAccepts request)

/-- Some lane that is not told to drain could run the request. -/
def hasAcceptingWorker (pool : JobWorkerPool κ) (request : JobRequestMessage) : Bool :=
  pool.slots.any fun slot =>
    slot.drainRequested = false ∧ slot.registry.registrationAccepts request

/-- The queue has more free places than are reserved against the class. -/
def hasQosCapacity (pool : JobWorkerPool κ) (serviceClass : JobServiceClass) : Bool :=
  pool.queueStorage.length - pool.queueOrder.length > pool.qosPolicy.reservedSlots serviceClass

/-- Another lane could take a request off the queue in place of the given one. -/
def hasTargetBeside (pool : JobWorkerPool κ) (index : Nat) (request : JobRequestMessage) : Bool :=
  pool.slots.zipIdx.any fun (candidate, position) =>
    position ≠ index ∧ candidate.quarantined = false ∧ candidate.drainRequested = false ∧
      candidate.registry.registrationAccepts request

/-- Every queued request that the lane accepts could run on another one. -/
def canRemoveWorker (pool : JobWorkerPool κ) (index : Nat) : Bool :=
  match pool.slots[index]? with
  | none => true
  | some selected =>
      pool.queueOrder.all fun queueSlot =>
        selected.registry.registrationAccepts (pool.queued queueSlot) = false ∨
          pool.hasTargetBeside index (pool.queued queueSlot)

/-- A lane that a running request could be handed to. -/
def hasMigrationTarget (pool : JobWorkerPool κ) (index : Nat) (request : JobRequestMessage) :
    Bool :=
  pool.slots.zipIdx.any fun (candidate, position) =>
    position ≠ index ∧ candidate.drainRequested = false ∧
      candidate.registry.registrationAccepts request

/-- The request is rejected when it is dispatched. -/
def rejectedAt (pool : JobWorkerPool κ) (nowNs : UInt64) (request : JobRequestMessage) : Bool :=
  pool.stale request ∨ (request.metadata.descriptor.deadlineNs ≠ 0 ∧
    request.metadata.descriptor.deadlineNs ≤ nowNs)

/-- The loop of `dispatch_one` over the queue: the first earliest request that the lane may
take or that is rejected. -/
def selectPosition (pool : JobWorkerPool κ) (registry : JobAdapterRegistry κ) (nowNs : UInt64) :
    Option Nat :=
  (List.range pool.queueOrder.length).foldl (fun selected position =>
    let request := pool.queuedAt position
    if pool.rejectedAt nowNs request = false ∧ registry.registrationAccepts request = false then
      selected
    else
      match selected with
      | none => some position
      | some best =>
          if earlierRequest request (pool.queuedAt best) then some position else selected) none

/-! ## Events and results -/

/-- Append an event to the buffer, if there is one. -/
def emit (pool : JobWorkerPool κ) (sequence : UInt64) (details : JobEventDetails) :
    JobWorkerPool κ :=
  match pool.events with
  | none => pool
  | some buffer =>
      let (event, made) := makeJobEvent sequence details
      if made = .success then { pool with events := some (buffer.tryPush event).1 } else pool

def modifySlot (pool : JobWorkerPool κ) (index : Nat) (update : Slot κ → Slot κ) :
    JobWorkerPool κ :=
  { pool with slots := pool.slots.modify index update }

/-! ## The queue and the sessions -/

/-- Queue a request. `back` of an empty vector is undefined in the source; the slot past the
storage stands for it. -/
def enqueue (pool : JobWorkerPool κ) (request : JobRequestMessage) : JobWorkerPool κ :=
  let queueSlot := pool.freeQueueSlots.getLastD pool.queueStorage.length
  { pool with
    freeQueueSlots := pool.freeQueueSlots.dropLast
    queueStorage := pool.queueStorage.set queueSlot request
    queueOrder := pool.queueOrder ++ [queueSlot]
    tickets := pool.tickets.set queueSlot pool.accepted.length
    accepted := pool.accepted ++ [request] }

def emitAdmitted (pool : JobWorkerPool κ) (request : JobRequestMessage) (timestampNs : UInt64) :
    JobWorkerPool κ :=
  pool.emit request.envelope.sequence
    { event := .admitted
      descriptor := request.metadata.descriptor
      progress := untouched .ready request
      timestampNs
      queueDepth := UInt32.ofNat pool.queueOrder.length
      serviceClass := request.metadata.serviceClass }

def emitRejected (pool : JobWorkerPool κ) (request : JobRequestMessage) (timestampNs : UInt64)
    (code : JobResultCode) : JobWorkerPool κ :=
  pool.emit request.envelope.sequence
    { event := .rejected
      descriptor := request.metadata.descriptor
      progress := untouched .failed request
      timestampNs
      resultCode := code
      serviceClass := request.metadata.serviceClass }

/-- Change the first entry that passes a test. -/
def modifyFirst {α : Type} (test : α → Bool) (update : α → α) : List α → List α
  | [] => []
  | entry :: rest =>
      if test entry then update entry :: rest else entry :: modifyFirst test update rest

/-- Take the first free session entry. -/
def openSession (pool : JobWorkerPool κ) (sessionId generation : UInt64) : JobWorkerPool κ :=
  { pool with
    sessions := modifyFirst (fun entry => entry.occupied = false)
      (fun _ => { sessionId, generation, occupied := true }) pool.sessions }

/-- Raise the generation of a session. -/
def setWatermark (pool : JobWorkerPool κ) (sessionId generation : UInt64) : JobWorkerPool κ :=
  { pool with
    sessions := modifyFirst (fun entry => entry.occupied ∧ entry.sessionId = sessionId)
      (fun entry => { entry with generation }) pool.sessions }

/-- Free the entry of a session. -/
def closeSession (pool : JobWorkerPool κ) (sessionId : UInt64) : JobWorkerPool κ :=
  { pool with
    sessions := modifyFirst (fun entry => entry.occupied ∧ entry.sessionId = sessionId)
      (fun _ => {}) pool.sessions }

/-- Raise the watermark of the session of an admitted request to it. -/
def noteSession (pool : JobWorkerPool κ) (descriptor : JobDescriptor) : JobWorkerPool κ :=
  match pool.findSession descriptor.sessionId with
  | none => pool.openSession descriptor.sessionId descriptor.generation
  | some watermark =>
      if descriptor.generation > watermark.generation then
        pool.setWatermark descriptor.sessionId descriptor.generation
      else pool

/-- The part of `submit` that queues an admitted request. -/
def admitRequest (pool : JobWorkerPool κ) (request : JobRequestMessage) (timestampNs : UInt64) :
    JobWorkerPool κ :=
  ((pool.enqueue request).emitAdmitted request timestampNs).noteSession
    request.metadata.descriptor

/-- The request is of a newer generation than its session has seen. -/
def supersedes (pool : JobWorkerPool κ) (request : JobRequestMessage) : Bool :=
  match pool.findSession request.metadata.descriptor.sessionId with
  | none => false
  | some watermark => request.metadata.descriptor.generation > watermark.generation

/-! ## Moving requests between the queue and the lanes -/

/-- The slot of a lane that was given a request of the queue. -/
def assign (slot : Slot κ) (request : JobRequestMessage) (ticket : Nat) (nowNs : UInt64) :
    Slot κ :=
  { slot with
    request
    ticket
    sessionId := request.metadata.descriptor.sessionId
    generation := request.metadata.descriptor.generation
    remainingWorkUnits := request.metadata.descriptor.totalWorkUnits
    cancelGeneration := 0
    preemptedNs := 0
    dispatchedNs := nowNs
    startedNs := 0
    finishedNs := 0
    migrationBytes := 0
    resumeBytes := 0
    resumeCompletedWorkUnits := 0
    migrationStartedNs := 0
    migrationCompletedNs := 0
    migrationSource := noWorker
    migrateRequested := false
    eventsPublished := false }

/-- `make_rejected_job_result` into the slot. -/
def writeRejection (slot : Slot κ) (nowNs : UInt64) (code : JobResultCode) : Slot κ :=
  match makeRejectedJobResult slot.request nowNs code with
  | .ok result => { slot with result }
  | .error _ => slot

/-- Answer the request of a slot at once. -/
def rejectSlot (slot : Slot κ) (nowNs : UInt64) (code : JobResultCode) : Slot κ :=
  { writeRejection slot nowNs code with startedNs := nowNs, finishedNs := nowNs, state := .ready }

/-- Start the request of a slot, or answer it if it is stale or late. -/
def launch (pool : JobWorkerPool κ) (nowNs : UInt64) (slot : Slot κ) : Slot κ :=
  if pool.stale slot.request then rejectSlot slot nowNs .rejectedStale
  else if slot.request.metadata.descriptor.deadlineNs ≠ 0 ∧
      slot.request.metadata.descriptor.deadlineNs ≤ nowNs then
    rejectSlot slot nowNs .rejectedDeadline
  else { slot with state := .requested }

/-- Give the request at a position of the queue to an idle lane. -/
def dispatch (pool : JobWorkerPool κ) (index position : Nat) (nowNs : UInt64) :
    JobWorkerPool κ :=
  let queueSlot := pool.queueOrder.getD position 0
  let request := pool.queued queueSlot
  let taken := { pool with
    queueOrder := pool.queueOrder.eraseIdx position
    freeQueueSlots := pool.freeQueueSlots ++ [queueSlot] }
  let announced := taken.emit request.envelope.sequence
    { event := .dispatched
      descriptor := request.metadata.descriptor
      progress := untouched .ready request
      timestampNs := nowNs
      workerIndex := UInt32.ofNat index
      queueDepth := UInt32.ofNat taken.queueOrder.length
      serviceClass := request.metadata.serviceClass }
  { announced.modifySlot index fun slot =>
      pool.launch nowNs (assign slot request (pool.tickets.getD queueSlot 0) nowNs) with
    dispatchCursor := (index + 1) % pool.slots.length }

/-- The slot that takes over an exported job. -/
def receive (source destination : Slot κ) (sourceIndex : Nat) : Slot κ :=
  { destination with
    migrationStorage := source.migrationStorage.take source.migrationBytes ++
      destination.migrationStorage.drop source.migrationBytes
    request := source.request
    ticket := source.ticket
    sessionId := source.sessionId
    generation := source.generation
    remainingWorkUnits := source.remainingWorkUnits
    cancelGeneration := source.cancelGeneration
    preemptedNs := source.preemptedNs
    dispatchedNs := source.dispatchedNs
    startedNs := source.startedNs
    finishedNs := 0
    resumeBytes := source.migrationBytes
    resumeCompletedWorkUnits := source.resumeCompletedWorkUnits
    migrationStartedNs := source.migrationStartedNs
    migrationCompletedNs := 0
    migrationSource := UInt32.ofNat sourceIndex
    migrationBytes := 0
    eventsPublished := false
    executionFailed := false
    state := .requested }

/-- The slot of a lane whose job was handed over. -/
def vacate (slot : Slot κ) : Slot κ :=
  { slot with
    migrationBytes := 0, remainingWorkUnits := 0, sessionId := 0, generation := 0,
    state := .drained }

/-- Move an exported job to another lane. -/
def handoff (pool : JobWorkerPool κ) (source destination : Nat) : JobWorkerPool κ :=
  match pool.slots[source]? with
  | none => pool
  | some exporter =>
      (pool.modifySlot source vacate).modifySlot destination fun slot =>
        receive exporter slot source

/-- Resume an exported job where it was. -/
def resumeLocally (slot : Slot κ) : Slot κ :=
  { slot with
    resumeBytes := slot.migrationBytes, migrationBytes := 0, migrateRequested := false,
    migrationStartedNs := 0, state := .requested }

/-! ## Draining -/

def beginDrain (slot : Slot κ) : Slot κ := { slot with drainRequested := true }

/-- An idle lane drains at once. -/
def drainIdle (slot : Slot κ) : Slot κ :=
  { slot with state := .drained, sessionId := 0, generation := 0 }

def requestMigration (hasTarget : Bool) (slot : Slot κ) : Slot κ :=
  { slot with migrateRequested := hasTarget }

/-- A drained lane is put back into service. -/
def resumeDrained (slot : Slot κ) : Slot κ :=
  { slot with migrateRequested := false, drainRequested := false, state := .idle }

def recoverDrained (slot : Slot κ) : Slot κ :=
  resumeDrained { slot with consecutiveFailures := 0, quarantined := false }

/-! ## Cancelling -/

/-- Tell a lane to stop work that is older than the generation. -/
def preempt (pool : JobWorkerPool κ) (index : Nat) (generation nowNs : UInt64) :
    JobWorkerPool κ :=
  pool.modifySlot index fun slot => { slot with
    cancelGeneration := wordMax slot.cancelGeneration generation, preemptedNs := nowNs }

def emitPreempted (pool : JobWorkerPool κ) (index : Nat) (slot : Slot κ) (remaining : UInt64)
    (generation nowNs : UInt64) : JobWorkerPool κ :=
  pool.emit slot.request.envelope.sequence
    { event := .preempted
      descriptor := slot.request.metadata.descriptor
      progress :=
        { state := .running
          completedWorkUnits := slot.request.metadata.descriptor.totalWorkUnits - remaining
          remainingWorkUnits := remaining }
      timestampNs := nowNs
      relatedGeneration := generation
      workerIndex := UInt32.ofNat index
      serviceClass := slot.request.metadata.serviceClass }

/-! ## Results -/

/-- Count a failure, and quarantine a lane with too many in a row if it can be spared. -/
def recordWorkerFailure (pool : JobWorkerPool κ) (index : Nat) : JobWorkerPool κ :=
  let counted := { pool with failureCount := pool.failureCount + 1 }.modifySlot index
    fun slot => { slot with consecutiveFailures := slot.consecutiveFailures + 1 }
  match counted.slots[index]? with
  | none => counted
  | some slot =>
      if slot.quarantined ∨ pool.supervisionPolicy.consecutiveFailureThreshold = 0 ∨
          slot.consecutiveFailures < pool.supervisionPolicy.consecutiveFailureThreshold ∨
          counted.canRemoveWorker index = false then
        counted
      else
        { counted with quarantineCount := counted.quarantineCount + 1 }.modifySlot index
          fun slot => { slot with quarantined := true, drainRequested := true }

/-- Give up the request of a lane: the lane is idle again, or drained if that was asked. -/
def vacant (slot : Slot κ) : Slot κ :=
  let cleared := { slot with migrationSource := noWorker, resumeCompletedWorkUnits := 0 }
  if slot.drainRequested then { cleared with sessionId := 0, generation := 0, state := .drained }
  else { cleared with state := .idle }

/-- The event that ends a job with a code. -/
def terminalEvent (code : JobResultCode) : JobEventKind :=
  if code = .complete then .completed
  else if code = .cancelled then .cancelled
  else if code.rejected then .rejected
  else .failed

/-- The events of a job that ended, when its result is first read. -/
def emitOutcome (pool : JobWorkerPool κ) (index : Nat) (slot : Slot κ) : JobWorkerPool κ :=
  let code := jobResultCode slot.result
  let started :=
    if code.rejected then pool
    else
      let begun := pool.emit slot.request.envelope.sequence
        { event := .started
          descriptor := slot.request.metadata.descriptor
          progress := untouched .running slot.request
          timestampNs := slot.startedNs
          workerIndex :=
            if slot.migrationSource = noWorker then UInt32.ofNat index else slot.migrationSource
          serviceClass := slot.request.metadata.serviceClass }
      if slot.migrationSource = noWorker then begun
      else
        let progress : JobProgress :=
          { state := .running
            completedWorkUnits := slot.resumeCompletedWorkUnits
            remainingWorkUnits := slot.request.metadata.descriptor.totalWorkUnits -
              slot.resumeCompletedWorkUnits }
        let moved := begun.emit slot.request.envelope.sequence
          { event := .migrationStarted
            descriptor := slot.request.metadata.descriptor
            progress
            timestampNs := slot.migrationStartedNs
            workerIndex := slot.migrationSource
            peerWorkerIndex := UInt32.ofNat index
            serviceClass := slot.request.metadata.serviceClass }
        if slot.migrationCompletedNs = 0 then moved
        else
          moved.emit slot.request.envelope.sequence
            { event := .migrationCompleted
              descriptor := slot.request.metadata.descriptor
              progress
              timestampNs := slot.migrationCompletedNs
              workerIndex := UInt32.ofNat index
              peerWorkerIndex := slot.migrationSource
              serviceClass := slot.request.metadata.serviceClass }
  started.emit slot.result.envelope.sequence
    { event := terminalEvent code
      descriptor := slot.result.metadata.descriptor
      progress := slot.result.metadata.progress
      timestampNs := slot.finishedNs
      timing :=
        { queueNs := elapsed slot.request.metadata.timestampNs slot.startedNs
          executionNs := elapsed slot.startedNs slot.finishedNs
          endToEndNs := elapsed slot.request.metadata.timestampNs slot.finishedNs
          cancellationNs := elapsed slot.preemptedNs slot.finishedNs }
      workerIndex := UInt32.ofNat index
      resultCode := code
      serviceClass := slot.request.metadata.serviceClass }

/-- Take notice of a failed execution, when the result of a lane is first looked at. -/
def noteFailure (pool : JobWorkerPool κ) (index : Nat) : JobWorkerPool κ :=
  match pool.slots[index]? with
  | none => pool
  | some slot =>
      let noted := pool.modifySlot index fun slot => { slot with executionFailed := false }
      if slot.executionFailed ∨ slot.result.validate ≠ .success then
        noted.recordWorkerFailure index
      else noted

/-- Drop a result that does not validate. -/
def dropInvalid (pool : JobWorkerPool κ) (index : Nat) : JobWorkerPool κ :=
  { pool.modifySlot index vacant with readyCursor := (index + 1) % pool.slots.length }

/-- Present the result of a lane to the reader. -/
def present (pool : JobWorkerPool κ) (index : Nat) : JobWorkerPool κ :=
  match pool.slots[index]? with
  | none => pool
  | some slot =>
      let cleared :=
        if jobResultCode slot.result = .complete then
          pool.modifySlot index fun slot => { slot with consecutiveFailures := 0 }
        else pool
      let published :=
        if slot.eventsPublished then cleared
        else (cleared.emitOutcome index slot).modifySlot index
          fun slot => { slot with eventsPublished := true }
      { published with readyIndex := some index }

/-- `release_ready_result` without the `pump` at its end. -/
def release (pool : JobWorkerPool κ) (index : Nat) : JobWorkerPool κ :=
  match pool.slots[index]? with
  | none => { pool with readyIndex := none }
  | some slot =>
      { pool.modifySlot index fun slot => vacant { slot with remainingWorkUnits := 0 } with
        readyCursor := (index + 1) % pool.slots.length
        readyIndex := none
        released := pool.released ++
          [{ ticket := slot.ticket, request := slot.request, result := slot.result }] }

end JobWorkerPool

end FlowEdge
