import FlowEdge.Jobs.JobRegistry
import FlowEdge.Protocol.JobEvents

/-!
# A worker lane

The slot that a lane shares with the coordinator, and `run_slot`, the loop of the thread
behind it. The thread is a step function: a step ends before the next access to a field
that the coordinator may access at the same time, so that any interleaving of the two is
a sequence of steps. Locals that live across such an access are kept in `LaneThread`.
-/

namespace FlowEdge

/-- The word that lane and coordinator hand over jobs with. -/
inductive LaneState where
  | idle
  | requested
  | running
  | migrationReady
  | ready
  | drained
  deriving DecidableEq

/-- Where the thread of a lane is in `run_slot`. -/
inductive LaneThread (κ : Type) where
  /-- At the top of the loop, before it loads the state. -/
  | waiting
  /-- The request is bound; the state is still `requested`. -/
  | bound (routed : RoutedJob κ)
  /-- Started or restored, before the first load of the cancel generation. -/
  | entered (routed : RoutedJob κ) (progress : Except JobError JobProgress)
  /-- At the top of the work loop. -/
  | looping (routed : RoutedJob κ) (progress : Except JobError JobProgress)
  /-- In `advance_one`, before it loads the cancel generation. -/
  | loading (routed : RoutedJob κ)
  /-- In `advance_one`, with the cancel generation that was loaded. -/
  | advancing (routed : RoutedJob κ) (cancelGeneration : UInt64)
  /-- The capsule is written, before the state becomes `migrationReady`. -/
  | exported
  /-- The export failed, before the request to migrate is cleared. -/
  | exportFailed (routed : RoutedJob κ)
  /-- The result is written. -/
  | finished
  /-- Before the state becomes `ready`. -/
  | publishing

/-- The slot of a lane. `backend` is the state of its backends and `thread` that of its
thread; `ticket` numbers the accepted request that the slot was given and is read by no
code. -/
structure Slot (κ : Type) where
  registry : JobAdapterRegistry κ
  workQuantum : UInt64 := 1
  request : JobRequestMessage := {}
  result : JobResultMessage := {}
  migrationStorage : List UInt8 := []
  state : LaneState := .idle
  drainRequested : Bool := false
  migrateRequested : Bool := false
  sessionId : UInt64 := 0
  generation : UInt64 := 0
  remainingWorkUnits : UInt64 := 0
  cancelGeneration : UInt64 := 0
  preemptedNs : UInt64 := 0
  dispatchedNs : UInt64 := 0
  startedNs : UInt64 := 0
  finishedNs : UInt64 := 0
  migrationBytes : Nat := 0
  resumeBytes : Nat := 0
  resumeCompletedWorkUnits : UInt64 := 0
  migrationStartedNs : UInt64 := 0
  migrationCompletedNs : UInt64 := 0
  migrationSource : UInt32 := noWorker
  executionFailed : Bool := false
  eventsPublished : Bool := false
  consecutiveFailures : Nat := 0
  quarantined : Bool := false
  backend : κ
  thread : LaneThread κ := .waiting
  ticket : Nat := 0

/-- The result of a request that could not be run. -/
def makeFailedResult (request : JobRequestMessage) (timestampNs : UInt64)
    (code : JobResultCode) : JobResultMessage :=
  match makeJobResult request.envelope.sequence request.metadata.descriptor
      { state := .failed, completedWorkUnits := 0,
        remainingWorkUnits := request.metadata.descriptor.totalWorkUnits }
      timestampNs code [] request.metadata.serviceClass with
  | .ok result => result
  | .error _ => {}

def succeeded {ε α : Type} : Except ε α → Bool
  | .ok _ => true
  | .error _ => false

namespace Slot

variable {κ : Type}

/-- Take a request: clear the result and bind an adapter. -/
def bindRequest (slot : Slot κ) (nowNs : UInt64) : Slot κ :=
  let bound := slot.registry.bind slot.request slot.backend
  let cleared := { slot with
    result := { slot.result with envelope := {}, metadata := {} }
    executionFailed := false
    startedNs := if slot.resumeBytes ≠ 0 then slot.startedNs else nowNs
    backend := bound.2 }
  match bound.1 with
  | .error error =>
      { cleared with
        result := makeFailedResult slot.request nowNs
          (if error.code = .adapterNotFound then .adapterNotFound else .failed)
        executionFailed := true
        thread := .finished }
  | .ok routed => { cleared with thread := .bound routed }

/-- Mark the lane running and start or restore the job. -/
def enter (slot : Slot κ) (routed : RoutedJob κ) (nowNs : UInt64) : Slot κ :=
  let resuming : Bool := slot.resumeBytes ≠ 0
  let outcome :=
    if resuming then
      routed.job.restoreCapsule routed.operations.cooperative
        (slot.migrationStorage.take slot.resumeBytes) slot.backend
    else routed.job.start routed.operations.cooperative slot.backend
  { slot with
    state := .running
    backend := outcome.backend
    resumeBytes := 0
    executionFailed := slot.executionFailed || !succeeded outcome.result
    migrationCompletedNs :=
      if resuming && succeeded outcome.result then nowNs else slot.migrationCompletedNs
    thread := .entered { routed with job := outcome.job } outcome.result }

/-- The first look at the cancel generation. -/
def checkCancel (slot : Slot κ) (routed : RoutedJob κ)
    (progress : Except JobError JobProgress) : Slot κ :=
  if succeeded progress ∧ slot.cancelGeneration > routed.job.descriptor.generation then
    let (job, backend) := routed.job.cancelBefore routed.operations.cooperative
      slot.cancelGeneration slot.backend
    { slot with backend, thread := .looping { routed with job } (.ok job.progress) }
  else { slot with thread := .looping routed progress }

/-- One quantum, with the cancel generation that was loaded before it. -/
def advanceOne (slot : Slot κ) (routed : RoutedJob κ) (cancelGeneration : UInt64) : Slot κ :=
  let outcome := routed.job.advance routed.operations.cooperative slot.workQuantum
    cancelGeneration slot.backend
  let advanced := { slot with
    backend := outcome.backend
    thread := .looping { routed with job := outcome.job } outcome.result }
  match outcome.result with
  | .ok progress => { advanced with remainingWorkUnits := progress.remainingWorkUnits }
  | .error _ => { advanced with executionFailed := true }

/-- Export the job into the migration storage of the lane. -/
def exportJob (slot : Slot κ) (routed : RoutedJob κ) (progress : JobProgress) (nowNs : UInt64) :
    Slot κ :=
  let (storage, written) := routed.job.exportCapsule routed.operations.cooperative slot.backend
    slot.migrationStorage
  match written with
  | .ok bytes =>
      { slot with
        migrationStorage := storage
        migrationStartedNs := nowNs
        migrationBytes := bytes
        resumeCompletedWorkUnits := progress.completedWorkUnits
        remainingWorkUnits := progress.remainingWorkUnits
        thread := .exported }
  | .error _ =>
      { slot with
        migrationStorage := storage
        migrationStartedNs := nowNs
        thread := .exportFailed routed }

/-- Write the result of a job that no longer runs. -/
def writeResult (slot : Slot κ) (routed : RoutedJob κ) (nowNs : UInt64) : Slot κ :=
  let written : Except ProtocolResult JobResultMessage :=
    if slot.executionFailed then .error .invalidMetadata
    else routed.writeResult slot.backend nowNs
  let result :=
    match written with
    | .ok result => result
    | .error _ => makeFailedResult slot.request nowNs .failed
  { slot with
    result := { result with
      metadata := { result.metadata with serviceClass := slot.request.metadata.serviceClass } }
    executionFailed := !succeeded written
    thread := .finished }

/-- The work loop at its top. -/
def continueRun (slot : Slot κ) (routed : RoutedJob κ) (progress : Except JobError JobProgress)
    (nowNs : UInt64) : Slot κ :=
  match progress with
  | .error _ => slot.writeResult routed nowNs
  | .ok current =>
      if current.state = .running then
        if slot.migrationStorage.isEmpty ∨ slot.migrateRequested = false then
          { slot with thread := .loading routed }
        else slot.exportJob routed current nowNs
      else slot.writeResult routed nowNs

/-- One step of `run_slot` at a time. -/
def runSlot (slot : Slot κ) (nowNs : UInt64) : Slot κ :=
  match slot.thread with
  | .waiting => if slot.state = .requested then slot.bindRequest nowNs else slot
  | .bound routed => slot.enter routed nowNs
  | .entered routed progress => slot.checkCancel routed progress
  | .looping routed progress => slot.continueRun routed progress nowNs
  | .loading routed => { slot with thread := .advancing routed slot.cancelGeneration }
  | .advancing routed cancelGeneration => slot.advanceOne routed cancelGeneration
  | .exported => { slot with state := .migrationReady, thread := .waiting }
  | .exportFailed routed =>
      { slot with migrateRequested := false, thread := .loading routed }
  | .finished =>
      { slot with remainingWorkUnits := 0, finishedNs := nowNs, thread := .publishing }
  | .publishing => { slot with state := .ready, thread := .waiting }

end Slot

end FlowEdge
