import FlowEdge.Worker.JobWorkerPool

/-!
# What holds of a slot

`Slot.Sound` ties what the thread of a lane is doing to the state that the lane shows: the
job it runs is that of the request, and a result that the lane shows answers the request.
Lane steps and the changes that the coordinator makes to a slot keep it.
-/

namespace FlowEdge

open Words

variable {κ : Type}

/-- The job carries the identity of the request. -/
structure RoutedJob.Serves (routed : RoutedJob κ) (request : JobRequestMessage) : Prop where
  sequence : routed.sequence = request.envelope.sequence
  descriptor : routed.job.descriptor = request.metadata.descriptor

variable {request : JobRequestMessage}

theorem RoutedJob.Serves.withJob {routed : RoutedJob κ} (serves : routed.Serves request)
    {job : CooperativeJob} (same : job.descriptor = routed.job.descriptor) :
    RoutedJob.Serves { routed with job } request :=
  ⟨serves.sequence, same.trans serves.descriptor⟩

/-- A result that the adapter of a request produced answers it. -/
theorem RoutedJob.Serves.answers {routed : RoutedJob κ} (serves : routed.Serves request)
    {backend : κ} {timestampNs : UInt64} {result : JobResultMessage}
    (written : routed.writeResult backend timestampNs = .ok result) : result.Answers request := by
  have built := RoutedJob.writeResult_ok written
  obtain ⟨-, sequence, descriptor⟩ := makeJobResult_code built
  exact ⟨validate_makeJobResult built, sequence.trans serves.sequence,
    descriptor.trans serves.descriptor⟩

theorem makeFailedResult_ok (valid : request.validate = .success) (timestampNs : UInt64)
    {code : JobResultCode} (failure : code = .failed ∨ code = .adapterNotFound) :
    (makeFailedResult request timestampNs code).Answers request ∧
      jobResultCode (makeFailedResult request timestampNs code) = code := by
  obtain ⟨result, built, answered⟩ : ∃ result, makeJobResult request.envelope.sequence
      request.metadata.descriptor
      { state := .failed, completedWorkUnits := 0,
        remainingWorkUnits := request.metadata.descriptor.totalWorkUnits }
      timestampNs code [] request.metadata.serviceClass = .ok result ∧
        result.Answers request ∧ jobResultCode result = code := by
    apply makeJobResult_failed (JobRequestMessage.valid_of_validate valid)
    · rcases failure with rfl | rfl <;> rfl
    · rcases failure with rfl | rfl <;> rfl
  unfold makeFailedResult
  rw [built]
  exact answered

/-! ## What a lane step leaves alone -/

/-- The fields of a slot that only the coordinator writes. -/
structure SlotOwned (κ : Type) where
  registry : JobAdapterRegistry κ
  request : JobRequestMessage
  drainRequested : Bool
  sessionId : UInt64
  generation : UInt64
  cancelGeneration : UInt64
  preemptedNs : UInt64
  dispatchedNs : UInt64
  migrationSource : UInt32
  eventsPublished : Bool
  consecutiveFailures : Nat
  quarantined : Bool
  ticket : Nat

namespace Slot

/-- The fields of a slot that are the coordinator's. -/
def owned (slot : Slot κ) : SlotOwned κ where
  registry := slot.registry
  request := slot.request
  drainRequested := slot.drainRequested
  sessionId := slot.sessionId
  generation := slot.generation
  cancelGeneration := slot.cancelGeneration
  preemptedNs := slot.preemptedNs
  dispatchedNs := slot.dispatchedNs
  migrationSource := slot.migrationSource
  eventsPublished := slot.eventsPublished
  consecutiveFailures := slot.consecutiveFailures
  quarantined := slot.quarantined
  ticket := slot.ticket

theorem owned_continueRun (slot : Slot κ) (routed : RoutedJob κ)
    (progress : Except JobError JobProgress) (nowNs : UInt64) :
    (slot.continueRun routed progress nowNs).owned = slot.owned ∧
      (slot.continueRun routed progress nowNs).state = slot.state := by
  unfold continueRun
  split
  · exact ⟨rfl, rfl⟩
  split
  · split
    · exact ⟨rfl, rfl⟩
    · unfold exportJob
      dsimp only
      split <;> exact ⟨rfl, rfl⟩
  · exact ⟨rfl, rfl⟩

theorem owned_runSlot (slot : Slot κ) (nowNs : UInt64) :
    (slot.runSlot nowNs).owned = slot.owned := by
  unfold runSlot
  split
  · split
    · unfold bindRequest
      dsimp only
      split <;> rfl
    · rfl
  · rfl
  · unfold checkCancel
    split <;> rfl
  · exact (slot.owned_continueRun _ _ nowNs).1
  · rfl
  · unfold advanceOne
    dsimp only
    split <;> rfl
  all_goals rfl

theorem thread_advanceOne (slot : Slot κ) (routed : RoutedJob κ) (cancelGeneration : UInt64) :
    (slot.advanceOne routed cancelGeneration).thread =
      let outcome := routed.job.advance routed.operations.cooperative slot.workQuantum
        cancelGeneration slot.backend
      .looping { routed with job := outcome.job } outcome.result := by
  dsimp only [advanceOne]
  split
  · next succeeded => rw [succeeded]
  · next failed => rw [failed]

/-- A lane gives the result of its job, or that of a failure. -/
theorem writeResult_cases (slot : Slot κ) (routed : RoutedJob κ) (nowNs : UInt64) :
    (slot.executionFailed = false ∧ ∃ result,
      routed.writeResult slot.backend nowNs = .ok result ∧
        jobResultCode (slot.writeResult routed nowNs).result = jobResultCode result) ∨
      ((slot.executionFailed = true ∨ succeeded (routed.writeResult slot.backend nowNs) = false) ∧
        jobResultCode (slot.writeResult routed nowNs).result =
          jobResultCode (makeFailedResult slot.request nowNs .failed)) := by
  cases failed : slot.executionFailed with
  | true => exact .inr ⟨.inl rfl, by simp [writeResult, failed, jobResultCode]⟩
  | false =>
      cases written : routed.writeResult slot.backend nowNs with
      | ok result =>
          exact .inl ⟨rfl, result, rfl, by simp [writeResult, failed, written, jobResultCode]⟩
      | error _ =>
          exact .inr ⟨.inr rfl, by simp [writeResult, failed, written, jobResultCode]⟩

section Owned

variable (slot : Slot κ) (nowNs : UInt64)

@[simp] theorem runSlot_registry : (slot.runSlot nowNs).registry = slot.registry :=
  congrArg SlotOwned.registry (slot.owned_runSlot nowNs)

@[simp] theorem runSlot_request : (slot.runSlot nowNs).request = slot.request :=
  congrArg SlotOwned.request (slot.owned_runSlot nowNs)

@[simp] theorem runSlot_drainRequested :
    (slot.runSlot nowNs).drainRequested = slot.drainRequested :=
  congrArg SlotOwned.drainRequested (slot.owned_runSlot nowNs)

@[simp] theorem runSlot_sessionId : (slot.runSlot nowNs).sessionId = slot.sessionId :=
  congrArg SlotOwned.sessionId (slot.owned_runSlot nowNs)

@[simp] theorem runSlot_generation : (slot.runSlot nowNs).generation = slot.generation :=
  congrArg SlotOwned.generation (slot.owned_runSlot nowNs)

@[simp] theorem runSlot_cancelGeneration :
    (slot.runSlot nowNs).cancelGeneration = slot.cancelGeneration :=
  congrArg SlotOwned.cancelGeneration (slot.owned_runSlot nowNs)

@[simp] theorem runSlot_migrationSource :
    (slot.runSlot nowNs).migrationSource = slot.migrationSource :=
  congrArg SlotOwned.migrationSource (slot.owned_runSlot nowNs)

@[simp] theorem runSlot_eventsPublished :
    (slot.runSlot nowNs).eventsPublished = slot.eventsPublished :=
  congrArg SlotOwned.eventsPublished (slot.owned_runSlot nowNs)

@[simp] theorem runSlot_quarantined : (slot.runSlot nowNs).quarantined = slot.quarantined :=
  congrArg SlotOwned.quarantined (slot.owned_runSlot nowNs)

@[simp] theorem runSlot_ticket : (slot.runSlot nowNs).ticket = slot.ticket :=
  congrArg SlotOwned.ticket (slot.owned_runSlot nowNs)

end Owned

/-- The slot holds an accepted request. -/
def holding (slot : Slot κ) : Bool := slot.state ≠ .idle ∧ slot.state ≠ .drained

/-- A lane step sets no state but those of a lane at work. -/
theorem state_runSlot (slot : Slot κ) (nowNs : UInt64) :
    (slot.runSlot nowNs).state = slot.state ∨ (slot.runSlot nowNs).state = .running ∨
      (slot.runSlot nowNs).state = .migrationReady ∨ (slot.runSlot nowNs).state = .ready := by
  unfold runSlot
  split
  · split
    · refine .inl ?_
      unfold bindRequest
      dsimp only
      split <;> rfl
    · exact .inl rfl
  · exact .inr (.inl rfl)
  · unfold checkCancel
    split <;> exact .inl rfl
  · exact .inl (slot.owned_continueRun _ _ nowNs).2
  · exact .inl rfl
  · unfold advanceOne
    dsimp only
    split <;> exact .inl rfl
  · exact .inr (.inr (.inl rfl))
  · exact .inl rfl
  · exact .inl rfl
  · exact .inr (.inr (.inr rfl))

/-! ## The invariant -/

/-- The slot belongs to its request, which is valid. -/
structure Owns (slot : Slot κ) : Prop where
  valid : slot.request.validate = .success
  session : slot.sessionId = slot.request.metadata.descriptor.sessionId
  generation : slot.generation = slot.request.metadata.descriptor.generation

/-- The thread waits: a result is there if the lane is ready, and what the lane resumes or
hands over is not a completed job. -/
structure Waits (slot : Slot κ) : Prop where
  notRunning : slot.state ≠ .running
  answers : slot.state = .ready → slot.result.Answers slot.request
  resumes : slot.state = .requested → slot.resumeBytes ≠ 0 →
    CooperativeJob.Resumable slot.migrationStorage slot.resumeBytes
  exported : slot.state = .migrationReady →
    CooperativeJob.Resumable slot.migrationStorage slot.migrationBytes

/-- The thread runs the job of the request. -/
structure Works (slot : Slot κ) (routed : RoutedJob κ) : Prop where
  running : slot.state = .running
  serves : routed.Serves slot.request

/-- What the thread of a lane is doing fits the state of the lane. -/
def ThreadFits (slot : Slot κ) : Prop :=
  match slot.thread with
  | .waiting => slot.Waits
  | .bound routed => slot.state = .requested ∧ routed.Serves slot.request ∧
      routed.job.state = .ready ∧ (slot.resumeBytes ≠ 0 →
        CooperativeJob.Resumable slot.migrationStorage slot.resumeBytes)
  | .entered routed progress => slot.Works routed ∧ routed.job.state ≠ .complete ∧
      ∀ current, progress = .ok current → current = routed.job.progress
  | .looping routed progress => slot.Works routed ∧
      ∀ current, progress = .ok current → current = routed.job.progress
  | .loading routed => slot.Works routed ∧ routed.job.state = .running
  | .advancing routed _ => slot.Works routed ∧ routed.job.state = .running
  | .exported => slot.state = .running ∧
      CooperativeJob.Resumable slot.migrationStorage slot.migrationBytes
  | .exportFailed routed => slot.Works routed ∧ routed.job.state = .running
  | .finished =>
      (slot.state = .requested ∨ slot.state = .running) ∧ slot.result.Answers slot.request
  | .publishing =>
      (slot.state = .requested ∨ slot.state = .running) ∧ slot.result.Answers slot.request

/-- The invariant of a lane. -/
structure Sound (slot : Slot κ) : Prop where
  owns : slot.holding = true → slot.Owns
  fits : slot.ThreadFits

variable {slot : Slot κ}

/-- A thread waits unless its lane is requested or running. -/
theorem Sound.waiting (sound : slot.Sound) (notRequested : slot.state ≠ .requested)
    (notRunning : slot.state ≠ .running) : slot.thread = .waiting := by
  have fits := sound.fits
  unfold ThreadFits at fits
  split at fits
  case h_1 here => exact here
  case h_2 => exact absurd fits.1 notRequested
  case h_7 => exact absurd fits.1 notRunning
  case h_9 => exact absurd fits.1 (by simp [notRequested, notRunning])
  case h_10 => exact absurd fits.1 (by simp [notRequested, notRunning])
  all_goals exact absurd fits.1.running notRunning

theorem Sound.waits {state : LaneState} (sound : slot.Sound) (here : slot.state = state)
    (rests : state ≠ .requested ∧ state ≠ .running := by decide) : slot.thread = .waiting :=
  sound.waiting (here ▸ rests.1) (here ▸ rests.2)

theorem Sound.answers (sound : slot.Sound) (ready : slot.state = .ready) :
    slot.result.Answers slot.request := by
  have waiting := sound.waits ready
  have fits := sound.fits
  rw [ThreadFits, waiting] at fits
  exact fits.answers ready

/-- A lane without a request to run does not move. -/
theorem Sound.runSlot_eq (sound : slot.Sound) (nowNs : UInt64)
    (notRequested : slot.state ≠ .requested) (notRunning : slot.state ≠ .running) :
    slot.runSlot nowNs = slot := by
  unfold Slot.runSlot
  rw [sound.waiting notRequested notRunning]
  exact if_neg notRequested

theorem Sound.runSlot_eq_of {state : LaneState} (sound : slot.Sound) (nowNs : UInt64)
    (here : slot.state = state) (rests : state ≠ .requested ∧ state ≠ .running := by decide) :
    slot.runSlot nowNs = slot :=
  sound.runSlot_eq nowNs (here ▸ rests.1) (here ▸ rests.2)

theorem holding_iff : slot.holding = true ↔ slot.state ≠ .idle ∧ slot.state ≠ .drained := by
  simp [holding]

theorem holding_of {state : LaneState} (here : slot.state = state)
    (held : state ≠ .idle ∧ state ≠ .drained := by decide) : slot.holding = true :=
  holding_iff.mpr (here ▸ held)

/-! ## Lane steps -/

theorem ThreadFits.bindRequest (valid : slot.request.validate = .success)
    (requested : slot.state = .requested) (waits : slot.Waits) (nowNs : UInt64) :
    (slot.bindRequest nowNs).ThreadFits := by
  unfold Slot.bindRequest
  dsimp only
  split
  · refine ⟨.inl requested, (makeFailedResult_ok valid nowNs ?_).1⟩
    split
    · exact .inr rfl
    · exact .inl rfl
  · next routed bound =>
      obtain ⟨job, sequence, -, -⟩ := JobAdapterRegistry.bind_ok bound
      exact ⟨requested, ⟨sequence, by rw [job]⟩, by rw [job], waits.resumes requested⟩

variable {routed : RoutedJob κ}

theorem ThreadFits.enter (serves : routed.Serves slot.request) (ready : routed.job.state = .ready)
    (resumes : slot.resumeBytes ≠ 0 →
      CooperativeJob.Resumable slot.migrationStorage slot.resumeBytes) (nowNs : UInt64) :
    (slot.enter routed nowNs).ThreadFits := by
  unfold Slot.enter
  dsimp only
  by_cases resuming : slot.resumeBytes ≠ 0
  · rw [if_pos (show decide (slot.resumeBytes ≠ 0) = true from decide_eq_true resuming)]
    refine ⟨⟨rfl, serves.withJob (CooperativeJob.descriptor_restoreCapsule _ _ _ _)⟩, ?_, ?_⟩
    · exact CooperativeJob.restoreCapsule_incomplete _ (resumes resuming) ready _
    · exact fun _ done => (CooperativeJob.reports_restoreCapsule _ _ _ _ _ done).1
  · rw [if_neg (show ¬ decide (slot.resumeBytes ≠ 0) = true by simpa using resuming)]
    refine ⟨⟨rfl, serves.withJob (CooperativeJob.descriptor_start _ _ _)⟩, ?_, ?_⟩
    · exact CooperativeJob.start_incomplete _ ready _
    · exact fun _ done => (CooperativeJob.reports_start _ _ _ _ done).1

theorem ThreadFits.writeResult (valid : slot.request.validate = .success)
    (works : slot.Works routed) (nowNs : UInt64) : (slot.writeResult routed nowNs).ThreadFits := by
  refine ⟨.inr works.running, ?_⟩
  apply JobResultMessage.Answers.withClass
  · split
    · next result written =>
        split at written
        · cases written
        · exact works.serves.answers written
    · exact (makeFailedResult_ok valid nowNs (.inl rfl)).1
  · exact (JobRequestMessage.valid_of_validate valid).serviceClass

theorem ThreadFits.continueRun (valid : slot.request.validate = .success)
    (works : slot.Works routed) {progress : Except JobError JobProgress}
    (faithful : ∀ current, progress = .ok current → current = routed.job.progress)
    (nowNs : UInt64) :
    (slot.continueRun routed progress nowNs).ThreadFits := by
  unfold Slot.continueRun
  split
  · exact ThreadFits.writeResult valid works nowNs
  · next current =>
      split
      · next running =>
          have here : routed.job.state = .running := by
            rw [← running, faithful current rfl]
            rfl
          split
          · exact ⟨⟨works.running, works.serves⟩, here⟩
          · unfold Slot.exportJob
            dsimp only
            split
            · next bytes written =>
                exact ⟨works.running, CooperativeJob.exportCapsule_resumable (by simp [here])
                  (Prod.ext rfl written)⟩
            · exact ⟨⟨works.running, works.serves⟩, here⟩
      · exact ThreadFits.writeResult valid works nowNs

theorem ThreadFits.runSlot (sound : slot.Sound) (nowNs : UInt64) :
    (slot.runSlot nowNs).ThreadFits := by
  have fits := sound.fits
  have valid : slot.state = .requested ∨ slot.state = .running →
      slot.request.validate = .success := by
    intro busy
    apply (sound.owns _).valid
    rcases busy with state | state <;> simp [holding, state]
  unfold Slot.runSlot
  cases here : slot.thread with
  | waiting =>
      rw [ThreadFits, here] at fits
      dsimp only
      split
      · next requested => exact ThreadFits.bindRequest (valid (.inl requested)) requested fits nowNs
      · exact sound.fits
  | bound =>
      rw [ThreadFits, here] at fits
      exact ThreadFits.enter fits.2.1 fits.2.2.1 fits.2.2.2 nowNs
  | entered routed =>
      rw [ThreadFits, here] at fits
      obtain ⟨works, -, faithful⟩ := fits
      dsimp only [checkCancel]
      split
      · have same := CooperativeJob.descriptor_cancelBefore routed.operations.cooperative
          slot.cancelGeneration routed.job slot.backend
        exact ⟨⟨works.running, works.serves.withJob same⟩, fun _ same => (Except.ok.inj same).symm⟩
      · exact ⟨⟨works.running, works.serves⟩, faithful⟩
  | looping =>
      rw [ThreadFits, here] at fits
      exact ThreadFits.continueRun (valid (.inr fits.1.running)) fits.1 fits.2 nowNs
  | loading =>
      rw [ThreadFits, here] at fits
      exact ⟨⟨fits.1.running, fits.1.serves⟩, fits.2⟩
  | advancing routed cancelGeneration =>
      rw [ThreadFits, here] at fits
      have serves := fits.1.serves.withJob (CooperativeJob.descriptor_advance
        routed.operations.cooperative slot.workQuantum cancelGeneration routed.job slot.backend)
      have faithful := fun progress done => (CooperativeJob.reports_advance
        routed.operations.cooperative slot.workQuantum cancelGeneration routed.job slot.backend
          progress done).1
      dsimp only [advanceOne]
      split <;> exact ⟨⟨fits.1.running, serves⟩, faithful⟩
  | exported =>
      rw [ThreadFits, here] at fits
      exact ⟨by simp, by simp, by simp, fun _ => fits.2⟩
  | exportFailed =>
      rw [ThreadFits, here] at fits
      exact ⟨⟨fits.1.running, fits.1.serves⟩, fits.2⟩
  | finished =>
      rw [ThreadFits, here] at fits
      exact fits
  | publishing =>
      rw [ThreadFits, here] at fits
      exact ⟨by simp, fun _ => fits.2, by simp, by simp⟩

theorem Sound.runSlot (sound : slot.Sound) (nowNs : UInt64) : (slot.runSlot nowNs).Sound := by
  refine ⟨?_, ThreadFits.runSlot sound nowNs⟩
  intro after
  suffices owns : slot.Owns from
    ⟨by simpa using owns.valid, by simpa using owns.session, by simpa using owns.generation⟩
  apply sound.owns
  by_cases requested : slot.state = .requested
  · simp [holding, requested]
  by_cases running : slot.state = .running
  · exact holding_of running
  rwa [sound.runSlot_eq nowNs requested running] at after

theorem holding_runSlot (sound : slot.Sound) (nowNs : UInt64) :
    (slot.runSlot nowNs).holding = slot.holding := by
  by_cases passive : slot.state ≠ .requested ∧ slot.state ≠ .running
  · rw [sound.runSlot_eq nowNs passive.1 passive.2]
  · have before : slot.holding = true := by
      simp only [not_and_or, not_not] at passive
      rcases passive with state | state <;> simp [holding, state]
    rw [before, holding_iff]
    rw [holding_iff] at before
    rcases slot.state_runSlot nowNs with state | state | state | state <;> simp [state, before]

/-- A lane that is idle after a step was not moved by it. -/
theorem Sound.runSlot_eq_of_idle (sound : slot.Sound) {nowNs : UInt64}
    (idle : (slot.runSlot nowNs).state = .idle) : slot.runSlot nowNs = slot := by
  have empty : slot.holding = false := by
    rw [← holding_runSlot sound nowNs]
    simp [holding, idle]
  apply sound.runSlot_eq
  · intro requested
    simp [holding, requested] at empty
  · intro running
    simp [holding, running] at empty

/-- The accepted request that a slot holds, with its number. -/
def claim (slot : Slot κ) : Option (JobRequestMessage × Nat) :=
  if slot.holding then some (slot.request, slot.ticket) else none

theorem claim_eq_some {entry : JobRequestMessage × Nat} :
    slot.claim = some entry ↔
      slot.holding = true ∧ slot.request = entry.1 ∧ slot.ticket = entry.2 := by
  rw [claim, Option.ite_none_right_eq_some, Option.some.injEq, Prod.ext_iff]

theorem claim_runSlot (sound : slot.Sound) (nowNs : UInt64) :
    (slot.runSlot nowNs).claim = slot.claim := by
  unfold claim
  rw [holding_runSlot sound nowNs, runSlot_request, runSlot_ticket]

/-! ## Changes by the coordinator -/

/-- The fields that the invariant reads. -/
structure Shown (κ : Type) where
  thread : LaneThread κ
  state : LaneState
  request : JobRequestMessage
  result : JobResultMessage
  sessionId : UInt64
  generation : UInt64
  migrationStorage : List UInt8
  migrationBytes : Nat
  resumeBytes : Nat

/-- The fields of a slot that the invariant reads. -/
def shown (slot : Slot κ) : Shown κ where
  thread := slot.thread
  state := slot.state
  request := slot.request
  result := slot.result
  sessionId := slot.sessionId
  generation := slot.generation
  migrationStorage := slot.migrationStorage
  migrationBytes := slot.migrationBytes
  resumeBytes := slot.resumeBytes

theorem Sound.congr {other : Slot κ} (sound : slot.Sound) (same : other.shown = slot.shown) :
    other.Sound := by
  simp only [shown, Shown.mk.injEq] at same
  obtain ⟨thread, state, request, result, session, generation, storage, exported, resumes⟩ := same
  have works : ∀ routed, slot.Works routed → other.Works routed := by
    intro routed works
    exact ⟨state.trans works.running, request ▸ works.serves⟩
  have waits : slot.Waits → other.Waits := by
    rintro ⟨notRunning, answers, resuming, handing⟩
    rw [← state, ← request, ← result] at answers
    rw [← state, ← storage, ← resumes] at resuming
    rw [← state, ← storage, ← exported] at handing
    exact ⟨state ▸ notRunning, answers, resuming, handing⟩
  refine ⟨?_, ?_⟩
  · intro held
    have owns := sound.owns (by rwa [holding, ← state])
    exact ⟨request ▸ owns.valid, by rw [session, request, owns.session],
      by rw [generation, request, owns.generation]⟩
  · have fits := sound.fits
    rw [ThreadFits] at fits ⊢
    rw [thread, state, request, result, storage, exported, resumes]
    split at fits
    · exact waits fits
    · exact fits
    · exact ⟨works _ fits.1, fits.2⟩
    · exact ⟨works _ fits.1, fits.2⟩
    · exact ⟨works _ fits.1, fits.2⟩
    · exact ⟨works _ fits.1, fits.2⟩
    · exact fits
    · exact ⟨works _ fits.1, fits.2⟩
    · exact fits
    · exact fits

/-- A slot whose thread waits. -/
theorem Sound.of_waiting (waiting : slot.thread = .waiting) (owns : slot.holding = true → slot.Owns)
    (waits : slot.Waits) : slot.Sound := by
  refine ⟨owns, ?_⟩
  rw [ThreadFits, waiting]
  exact waits

end Slot

namespace JobWorkerPool

open Slot

variable {slot : Slot κ}

theorem writeRejection_ok (valid : slot.request.validate = .success) (nowNs : UInt64)
    {code : JobResultCode} (rejected : code.rejected = true) :
    ∃ result, writeRejection slot nowNs code = { slot with result } ∧
      result.Answers slot.request ∧ jobResultCode result = code := by
  obtain ⟨result, built, answers, same⟩ :=
    makeRejectedJobResult_ok (JobRequestMessage.valid_of_validate valid) nowNs rejected
  refine ⟨result, ?_, answers, same⟩
  rw [writeRejection, built]

theorem rejectReady_ok (sound : slot.Sound) (ready : slot.state = .ready) (nowNs : UInt64) :
    ∃ result, writeRejection slot nowNs .rejectedStale = { slot with result } ∧
      result.Answers slot.request ∧ jobResultCode result = .rejectedStale :=
  writeRejection_ok (sound.owns (holding_of ready)).valid nowNs (by decide)

theorem sound_rejectReady (sound : slot.Sound) (ready : slot.state = .ready) (nowNs : UInt64) :
    (writeRejection slot nowNs .rejectedStale).Sound := by
  have owns := sound.owns (holding_of ready)
  obtain ⟨result, written, answers, -⟩ := rejectReady_ok sound ready nowNs
  rw [written]
  refine .of_waiting (sound.waits ready) (fun _ => ?_) ?_
  · exact ⟨owns.valid, owns.session, owns.generation⟩
  · exact ⟨by simp [ready], fun _ => answers, by simp [ready], by simp [ready]⟩

/-- What a lane that takes a request does with it: it starts it, or answers it at once. -/
theorem launch_cases (pool : JobWorkerPool κ) (slot : Slot κ) (waiting : slot.thread = .waiting)
    (owns : slot.Owns) (fresh : slot.resumeBytes = 0) (nowNs : UInt64) :
    (pool.launch nowNs slot).Sound ∧ (pool.launch nowNs slot).holding = true ∧
      (pool.launch nowNs slot).owned = slot.owned := by
  have answered : ∀ code : JobResultCode, code.rejected = true →
      (rejectSlot slot nowNs code).Sound ∧ (rejectSlot slot nowNs code).holding = true ∧
        (rejectSlot slot nowNs code).owned = slot.owned := by
    intro code rejected
    obtain ⟨result, written, answers, -⟩ := writeRejection_ok owns.valid nowNs rejected
    rw [rejectSlot, written]
    refine ⟨.of_waiting waiting (fun _ => ?_) ?_, by simp [holding], rfl⟩
    · exact ⟨owns.valid, owns.session, owns.generation⟩
    · exact ⟨by simp, fun _ => answers, by simp, by simp⟩
  unfold launch
  split
  · exact answered .rejectedStale (by decide)
  split
  · exact answered .rejectedDeadline (by decide)
  · refine ⟨.of_waiting waiting (fun _ => ?_) ?_, by simp [holding], rfl⟩
    · exact ⟨owns.valid, owns.session, owns.generation⟩
    · exact ⟨by simp, by simp, by simp [fresh], by simp⟩

/-- A lane that is left without a request. -/
theorem sound_vacated (waiting : slot.thread = .waiting)
    (vacant : slot.state = .idle ∨ slot.state = .drained) : slot.Sound := by
  rcases vacant with state | state
  · exact .of_waiting waiting (by simp [holding, state])
      ⟨by simp [state], by simp [state], by simp [state], by simp [state]⟩
  · exact .of_waiting waiting (by simp [holding, state])
      ⟨by simp [state], by simp [state], by simp [state], by simp [state]⟩

theorem state_vacant (slot : Slot κ) :
    (vacant slot).state = .idle ∨ (vacant slot).state = .drained := by
  unfold vacant
  split
  · exact .inr rfl
  · exact .inl rfl

theorem thread_vacant (slot : Slot κ) : (vacant slot).thread = slot.thread := by
  unfold vacant
  split <;> rfl

theorem claim_of_vacated (vacant : slot.state = .idle ∨ slot.state = .drained) :
    slot.claim = none := by
  rcases vacant with state | state <;> simp [claim, holding, state]

end JobWorkerPool

end FlowEdge
