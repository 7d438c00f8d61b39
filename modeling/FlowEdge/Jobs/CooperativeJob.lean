import FlowEdge.Jobs.StateCapsule

/-!
# Cooperative jobs

A bounded workload that advances in small budgets between which it can be cancelled or
exported. The backend is a type of its own with callbacks that may do anything; the job
checks what they report.
-/

namespace FlowEdge

/-- `BackendStep`, with the codes that it does not declare. -/
inductive BackendStep where
  | inProgress
  | complete
  | failed
  | undeclared (code : UInt8)
  deriving DecidableEq

/-- `BackendAdvance`: what a backend reports of an advance. -/
structure BackendAdvance where
  step : BackendStep := .failed
  completedWorkUnits : UInt64 := 0
  deriving DecidableEq

/-- The callbacks of a backend with state `κ`. `saveState` is given the buffer as it was and
returns the bytes that it leaves there. -/
structure CooperativeJobOps (κ : Type) where
  begin : κ → Bool × κ
  advance : κ → UInt64 → BackendAdvance × κ
  cancel : κ → κ
  stateBytes : κ → UInt64
  saveState : κ → List UInt8 → Bool × (Nat → UInt8)
  loadState : κ → List UInt8 → Bool × κ

/-- `CooperativeJob`: a job and how far it is. -/
structure CooperativeJob where
  descriptor : JobDescriptor
  state : JobState := .ready
  completedWorkUnits : UInt64 := 0
  deriving DecidableEq

/-- `same_descriptor`: equal in every field but the reserved one. -/
def sameDescriptor (left right : JobDescriptor) : Bool :=
  left.protocolVersion = right.protocolVersion ∧ left.kind = right.kind ∧
    left.modelDigest = right.modelDigest ∧ left.stateSchema = right.stateSchema ∧
    left.sessionId = right.sessionId ∧ left.generation = right.generation ∧
    left.deadlineNs = right.deadlineNs ∧ left.totalWorkUnits = right.totalWorkUnits

namespace CooperativeJob

variable {κ : Type}

/-- `bind`: a fresh job of a valid descriptor. -/
def bind (descriptor : JobDescriptor) : Except JobError CooperativeJob :=
  if validJobDescriptor descriptor = false then
    .error ⟨.invalidDescriptor, "Cooperative job binding is incomplete"⟩
  else .ok { descriptor }

/-- `progress`: the state, the work done and the work left. -/
def progress (job : CooperativeJob) : JobProgress where
  state := job.state
  completedWorkUnits := job.completedWorkUnits
  remainingWorkUnits := job.descriptor.totalWorkUnits - job.completedWorkUnits

/-- The job and the backend after a call, and what the call returned. -/
structure Outcome (κ : Type) where
  job : CooperativeJob
  backend : κ
  result : Except JobError JobProgress

/-- `start`: let the backend begin. -/
def start (operations : CooperativeJobOps κ) (job : CooperativeJob) (backend : κ) : Outcome κ :=
  if job.state ≠ .ready then
    { job, backend, result := .error ⟨.invalidState, "Cooperative job has already started"⟩ }
  else
    let (begun, backend) := operations.begin backend
    if begun = false then
      { job := { job with state := .failed }, backend
        result := .error ⟨.callbackFailed, "Cooperative job begin callback failed"⟩ }
    else
      let job := { job with state := .running }
      { job, backend, result := .ok job.progress }

/-- `cancel_before`: cancel a job that is older than the generation. -/
def cancelBefore (operations : CooperativeJobOps κ) (generation : UInt64) (job : CooperativeJob)
    (backend : κ) : CooperativeJob × κ :=
  if terminal job.state = false ∧ generation > job.descriptor.generation then
    ({ job with state := .cancelled }, operations.cancel backend)
  else (job, backend)

/-- What `advance` makes of the report of the backend. -/
def record (job : CooperativeJob) (budget : UInt64) (report : BackendAdvance) (backend : κ) :
    Outcome κ :=
  let remaining := job.descriptor.totalWorkUnits - job.completedWorkUnits
  if report.step ≠ .inProgress ∧ report.step ≠ .complete ∧ report.step ≠ .failed then
    { job := { job with state := .failed }, backend
      result := .error
        ⟨.callbackContract, "Cooperative job callback returned an invalid state"⟩ }
  else if report.step = .failed then
    { job := { job with state := .failed }, backend
      result := .error ⟨.callbackFailed, "Cooperative job advance callback failed"⟩ }
  else if report.completedWorkUnits = 0 ∨ report.completedWorkUnits > budget ∨
      report.completedWorkUnits > remaining then
    { job := { job with state := .failed }, backend
      result := .error
        ⟨.callbackContract, "Cooperative job callback reported invalid progress"⟩ }
  else
    let completed := job.completedWorkUnits + report.completedWorkUnits
    let exhausted : Bool := completed = job.descriptor.totalWorkUnits
    if decide (report.step = .complete) ≠ exhausted then
      { job := { job with state := .failed, completedWorkUnits := completed }, backend
        result := .error
          ⟨.callbackContract, "Cooperative job completion disagrees with its budget"⟩ }
    else
      let job := { job with
        state := if exhausted then .complete else .running
        completedWorkUnits := completed }
      { job, backend, result := .ok job.progress }

/-- `advance`: one quantum of at most `workBudget` units. -/
def advance (operations : CooperativeJobOps κ) (workBudget cancelBeforeGeneration : UInt64)
    (job : CooperativeJob) (backend : κ) : Outcome κ :=
  if terminal job.state then
    { job, backend, result := .ok job.progress }
  else if job.state ≠ .running then
    { job, backend
      result := .error ⟨.invalidState, "Cooperative job must be started before advance"⟩ }
  else if cancelBeforeGeneration > job.descriptor.generation then
    let (job, backend) := cancelBefore operations cancelBeforeGeneration job backend
    { job, backend, result := .ok job.progress }
  else if workBudget = 0 then
    { job, backend
      result := .error ⟨.invalidBudget, "Cooperative job work budget must be non-zero"⟩ }
  else
    let remaining := job.descriptor.totalWorkUnits - job.completedWorkUnits
    let budget := if workBudget < remaining then workBudget else remaining
    let (report, backend) := operations.advance backend budget
    record job budget report backend

/-- `export_capsule` into a buffer: the buffer afterwards, and the bytes it returned. -/
def exportCapsule (operations : CooperativeJobOps κ) (job : CooperativeJob) (backend : κ)
    (destination : List UInt8) : List UInt8 × Except JobError Nat :=
  if job.state = .ready then
    (destination, .error ⟨.invalidState, "Cooperative job must start before state export"⟩)
  else
    let payloadBytes := (operations.stateBytes backend).toNat
    let required := stateCapsuleBytes payloadBytes
    if required = 0 ∨ destination.length < required then
      (destination, .error ⟨.bufferTooSmall, "Cooperative job capsule buffer is too small"⟩)
    else
      let buffer := (destination.drop stateCapsuleHeaderBytes).take payloadBytes
      let (saved, bytes) := operations.saveState backend buffer
      let payload := (List.range payloadBytes).map bytes
      let filled := destination.take stateCapsuleHeaderBytes ++ payload ++
        destination.drop (stateCapsuleHeaderBytes + payloadBytes)
      if saved = false then
        (filled, .error ⟨.callbackFailed, "Cooperative job state export failed"⟩)
      else
        match writeStateCapsule
            { descriptor := job.descriptor, state := job.state,
              completedWorkUnits := job.completedWorkUnits }
            payload destination.length with
        | .error error => (filled, .error ⟨.capsuleInvalid, error.message⟩)
        | .ok capsule => (capsule ++ destination.drop capsule.length, .ok capsule.length)

/-- `restore_capsule`: take over the state of a capsule of the same job. -/
def restoreCapsule (operations : CooperativeJobOps κ) (source : List UInt8)
    (job : CooperativeJob) (backend : κ) : Outcome κ :=
  if job.state ≠ .ready then
    { job, backend
      result := .error
        ⟨.invalidState, "Only a fresh cooperative job can restore a capsule"⟩ }
  else
    match readStateCapsule source with
    | .error error => { job, backend, result := .error ⟨.capsuleInvalid, error.message⟩ }
    | .ok capsule =>
        if capsule.metadata.state = .ready then
          { job, backend
            result := .error
              ⟨.capsuleInvalid, "A ready state capsule cannot resume execution"⟩ }
        else if sameDescriptor job.descriptor capsule.metadata.descriptor = false then
          { job, backend
            result := .error
              ⟨.capsuleIncompatible, "State capsule belongs to an incompatible job"⟩ }
        else
          let (loaded, backend) := operations.loadState backend capsule.payload
          if loaded = false then
            { job, backend
              result := .error ⟨.callbackFailed, "Cooperative job state import failed"⟩ }
          else
            let job := { job with
              state := capsule.metadata.state
              completedWorkUnits := capsule.metadata.completedWorkUnits }
            { job, backend, result := .ok job.progress }

/-! ## The descriptor is fixed -/

variable (operations : CooperativeJobOps κ) (budget generation : UInt64)

theorem descriptor_start (job : CooperativeJob) (backend : κ) :
    (job.start operations backend).job.descriptor = job.descriptor := by
  unfold start
  dsimp only
  split
  · rfl
  split <;> rfl

theorem descriptor_cancelBefore (job : CooperativeJob) (backend : κ) :
    (job.cancelBefore operations generation backend).1.descriptor = job.descriptor := by
  unfold cancelBefore
  split <;> rfl

theorem descriptor_record (job : CooperativeJob) (budget : UInt64) (report : BackendAdvance)
    (backend : κ) : (job.record budget report backend).job.descriptor = job.descriptor := by
  unfold record
  dsimp only
  repeat' split
  all_goals rfl

theorem descriptor_advance (job : CooperativeJob) (backend : κ) :
    (job.advance operations budget generation backend).job.descriptor = job.descriptor := by
  unfold advance
  split
  · rfl
  split
  · rfl
  split
  · exact job.descriptor_cancelBefore operations generation backend
  split
  · rfl
  · exact job.descriptor_record _ _ _

theorem descriptor_restoreCapsule (source : List UInt8) (job : CooperativeJob) (backend : κ) :
    (job.restoreCapsule operations source backend).job.descriptor = job.descriptor := by
  unfold restoreCapsule
  split
  · rfl
  split
  · rfl
  repeat' split
  all_goals rfl

/-! ## Progress and state -/

/-- A call that succeeds returns the progress of the job, which has started. -/
def Outcome.Reports (outcome : Outcome κ) : Prop :=
  ∀ progress, outcome.result = .ok progress →
    progress = outcome.job.progress ∧ outcome.job.state ≠ .ready

theorem reports_start (job : CooperativeJob) (backend : κ) :
    (job.start operations backend).Reports := by
  unfold start
  split
  · exact nofun
  dsimp only
  split
  · exact nofun
  · exact fun _ same => ⟨(Except.ok.inj same).symm, nofun⟩

theorem reports_record (job : CooperativeJob) (budget : UInt64) (report : BackendAdvance)
    (backend : κ) : (job.record budget report backend).Reports := by
  unfold record
  dsimp only
  split
  · exact nofun
  split
  · exact nofun
  split
  · exact nofun
  split
  · exact nofun
  · refine fun _ same => ⟨(Except.ok.inj same).symm, ?_⟩
    dsimp only
    split <;> exact nofun

variable {job : CooperativeJob}

theorem started_cancelBefore (started : job.state ≠ .ready) (backend : κ) :
    (job.cancelBefore operations generation backend).1.state ≠ .ready := by
  unfold cancelBefore
  split
  · exact nofun
  · exact started

theorem reports_advance (job : CooperativeJob) (backend : κ) :
    (job.advance operations budget generation backend).Reports := by
  unfold advance
  split
  · next ended =>
      refine fun _ same => ⟨(Except.ok.inj same).symm, fun ready => ?_⟩
      rw [ready] at ended
      cases ended
  split
  · exact nofun
  · next here =>
      rw [not_not] at here
      split
      · exact fun _ same => ⟨(Except.ok.inj same).symm,
          started_cancelBefore operations generation (by simp [here]) backend⟩
      split
      · exact nofun
      · exact job.reports_record _ _ _

theorem reports_restoreCapsule (source : List UInt8) (job : CooperativeJob) (backend : κ) :
    (job.restoreCapsule operations source backend).Reports := by
  unfold restoreCapsule
  split
  · exact nofun
  split
  · exact nofun
  split
  · exact nofun
  · next started =>
      split
      · exact nofun
      dsimp only
      split
      · exact nofun
      · exact fun _ same => ⟨(Except.ok.inj same).symm, started⟩

theorem start_incomplete (ready : job.state = .ready) (backend : κ) :
    (job.start operations backend).job.state ≠ .complete := by
  unfold start
  split
  · simp [ready]
  dsimp only
  split <;> simp

/-- A job that a newer generation cancels is not completed by that. -/
theorem cancelBefore_incomplete (incomplete : job.state ≠ .complete) (backend : κ) :
    (job.cancelBefore operations generation backend).1.state ≠ .complete := by
  unfold cancelBefore
  split
  · simp
  · exact incomplete

theorem advance_cancelled {generation : UInt64} (newer : generation > job.descriptor.generation)
    (incomplete : job.state ≠ .complete) (backend : κ) :
    (job.advance operations budget generation backend).job.state ≠ .complete := by
  unfold advance
  split
  · exact incomplete
  split
  · exact incomplete
  · exact cancelBefore_incomplete operations generation incomplete backend

/-- The first bytes of a storage are not the capsule of a completed job. -/
structure Resumable (storage : List UInt8) (count : Nat) : Prop where
  fits : count ≤ storage.length
  incomplete : ∀ capsule, readStateCapsule (storage.take count) = .ok capsule →
    capsule.metadata.state ≠ .complete

variable {storage : List UInt8} {count : Nat}

/-- The capsule is the same in a storage that it was copied into. -/
theorem Resumable.moved (resumable : Resumable storage count) (rest : List UInt8) :
    Resumable (storage.take count ++ rest) count := by
  have length : (storage.take count).length = count := by
    rw [List.length_take, Nat.min_eq_left resumable.fits]
  refine ⟨by simp [length], ?_⟩
  rw [List.take_left' length]
  exact resumable.incomplete

theorem restoreCapsule_incomplete (resumable : Resumable storage count) (ready : job.state = .ready)
    (backend : κ) :
    (job.restoreCapsule operations (storage.take count) backend).job.state ≠ .complete := by
  have fresh : job.state ≠ .complete := by simp [ready]
  unfold restoreCapsule
  split
  · exact fresh
  split
  · exact fresh
  · next capsule read =>
      split
      · exact fresh
      split
      · exact fresh
      dsimp only
      split
      · exact fresh
      · exact resumable.incomplete capsule read

/-- The capsule of a job. -/
def metadata (job : CooperativeJob) : StateCapsuleMetadata where
  descriptor := job.descriptor
  state := job.state
  completedWorkUnits := job.completedWorkUnits

/-- What a job exports can be read from the bytes that it wrote, with the state that its backend
saved. -/
theorem exportCapsule_read {operations : CooperativeJobOps κ} {backend : κ}
    {destination : List UInt8}
    (exported : job.exportCapsule operations backend destination = (storage, .ok count)) :
    count ≤ storage.length ∧ job.state ≠ .ready ∧ ∃ buffer,
      (operations.saveState backend buffer).1 = true ∧
      readStateCapsule (storage.take count) =
        .ok {
          metadata := job.metadata.carried
          payload := (List.range (operations.stateBytes backend).toNat).map
            (operations.saveState backend buffer).2 } := by
  unfold exportCapsule at exported
  split at exported
  · cases exported
  next started =>
  dsimp only at exported
  split at exported
  · cases exported
  split at exported
  · cases exported
  next saved =>
  split at exported
  · cases exported
  · next capsule written =>
      cases exported
      refine ⟨by simp, started, _, by simpa using saved, ?_⟩
      rw [List.take_left' rfl]
      exact readStateCapsule_write written

/-- The capsule that a running job writes can be resumed. -/
theorem exportCapsule_resumable {operations : CooperativeJobOps κ} {backend : κ}
    {destination : List UInt8} (incomplete : job.state ≠ .complete)
    (exported : job.exportCapsule operations backend destination = (storage, .ok count)) :
    Resumable storage count := by
  obtain ⟨fits, -, buffer, -, read⟩ := exportCapsule_read exported
  refine ⟨fits, fun capsule again => ?_⟩
  cases read.symm.trans again
  exact incomplete

end CooperativeJob

end FlowEdge
