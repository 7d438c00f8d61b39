import FlowEdge.Worker.JobControl
import FlowEdge.Worker.JobFreshness

/-!
# The event log and the delivered results

The events of a job that ended are emitted when its result is first read. The result is
released later, and until then a newer generation of its session can still replace it by a
rejection, of which no event tells. The log agrees with the results that are read as long as
no result is replaced after it was read.
-/

namespace FlowEdge

open Words StatePrograms

variable {κ : Type}

/-! ## Endings -/

/-- What a terminal event and a result both say about a job. -/
structure JobEnding where
  sequence : UInt64
  descriptor : JobDescriptor
  code : JobResultCode
  progress : JobProgress
  deriving DecidableEq

/-- The ending that a result reports. -/
def JobResultMessage.ending (result : JobResultMessage) : JobEnding where
  sequence := result.envelope.sequence
  descriptor := result.metadata.descriptor
  code := jobResultCode result
  progress := result.metadata.progress

/-- The events that end a job. -/
def JobEventKind.terminal : JobEventKind → Bool
  | .completed | .cancelled | .failed | .rejected => true
  | _ => false

/-- The ending of an accepted job that an event reports. The rejection of a request that was
not accepted names no worker. -/
def JobEventMessage.ending (event : JobEventMessage) : Option JobEnding :=
  if event.metadata.event.terminal ∧ event.metadata.workerIndex ≠ noWorker then
    some {
      sequence := event.envelope.sequence
      descriptor := event.metadata.descriptor
      code := event.metadata.resultCode
      progress := event.metadata.progress }
  else none

/-- The ending of a request that is rejected because a newer generation superseded it. -/
def JobRequestMessage.staleEnding (request : JobRequestMessage) : JobEnding where
  sequence := request.envelope.sequence
  descriptor := request.metadata.descriptor
  code := .rejectedStale
  progress := untouched .failed request

theorem JobWorkerPool.terminalEvent_compatible {code : JobResultCode} {progress : JobProgress}
    (valid : validJobResultCode code = true) (compatible : code.compatible progress.state = true)
    (decided : code ≠ .progress) : (terminalEvent code).compatible progress code = true := by
  cases code with
  | progress => exact absurd rfl decided
  | undeclared => cases valid
  | _ => simpa [JobResultCode.compatible, terminalEvent, JobEventKind.compatible,
      JobResultCode.rejected] using compatible

theorem JobWorkerPool.terminal_terminalEvent (code : JobResultCode) :
    (terminalEvent code).terminal = true := by
  unfold terminalEvent
  repeat' split
  all_goals rfl

/-- A result that replaces one that waits. -/
theorem JobWorkerPool.ending_writeRejection {slot : Slot κ}
    (valid : slot.request.validate = .success) (nowNs : UInt64) :
    ∃ result, writeRejection slot nowNs .rejectedStale = { slot with result } ∧
      result.ending = slot.request.staleEnding := by
  obtain ⟨result, built, answers, code⟩ := makeRejectedJobResult_ok
    (JobRequestMessage.valid_of_validate valid) nowNs
    (show JobResultCode.rejected .rejectedStale = true by decide)
  refine ⟨result, by rw [writeRejection, built], ?_⟩
  unfold makeRejectedJobResult at built
  rw [if_neg (by decide)] at built
  rw [JobResultMessage.ending, answers.sequence, answers.descriptor, code,
    (makeJobResult_content built).1]
  rfl

/-! ## Results are decided -/

namespace Slot

/-- The lane has not failed unnoticed, and the result that it shows ends the job. -/
def Decided (slot : Slot κ) : Prop :=
  match slot.thread with
  | .waiting => slot.state = .ready → jobResultCode slot.result ≠ .progress
  | .entered routed progress | .looping routed progress =>
      (∀ current, progress = .ok current → routed.job.state ≠ .ready) ∧
        (succeeded progress = false → slot.executionFailed = true)
  | .finished | .publishing => jobResultCode slot.result ≠ .progress
  | _ => True

variable {slot : Slot κ}

theorem decided_of_waiting (waiting : slot.thread = .waiting)
    (code : slot.state = .ready → jobResultCode slot.result ≠ .progress) : slot.Decided := by
  rw [Decided, waiting]
  exact code

theorem Decided.code (decided : slot.Decided) (sound : slot.Sound) (ready : slot.state = .ready) :
    jobResultCode slot.result ≠ .progress := by
  rw [Decided, sound.waits ready] at decided
  exact decided ready

theorem decided_bindRequest (valid : slot.request.validate = .success) (nowNs : UInt64) :
    (slot.bindRequest nowNs).Decided := by
  unfold bindRequest
  dsimp only
  split
  · show jobResultCode (makeFailedResult slot.request nowNs _) ≠ .progress
    rw [(makeFailedResult_ok valid nowNs _).2]
    · split <;> decide
    · split
      · exact .inr rfl
      · exact .inl rfl
  · trivial

theorem decided_enter (slot : Slot κ) (routed : RoutedJob κ) (nowNs : UInt64) :
    (slot.enter routed nowNs).Decided := by
  unfold enter
  dsimp only
  refine ⟨fun current done => ?_, fun failed => ?_⟩
  rotate_left
  · rw [failed]
    exact Bool.or_true _
  dsimp only at done ⊢
  split
  · next resuming =>
      rw [if_pos resuming] at done
      exact (CooperativeJob.reports_restoreCapsule _ _ _ _ current done).2
  · next fresh =>
      rw [if_neg fresh] at done
      exact (CooperativeJob.reports_start _ _ _ current done).2

variable {routed : RoutedJob κ}

theorem decided_checkCancel {progress : Except JobError JobProgress}
    (started : ∀ current, progress = .ok current → routed.job.state ≠ .ready)
    (noticed : succeeded progress = false → slot.executionFailed = true) :
    (slot.checkCancel routed progress).Decided := by
  unfold checkCancel
  split
  · next cancelled =>
      refine ⟨fun _ _ => ?_, nofun⟩
      cases progress with
      | error _ => exact nomatch cancelled.1
      | ok current => exact CooperativeJob.started_cancelBefore _ _ (started current rfl) _
  · exact ⟨started, noticed⟩

theorem decided_writeResult (valid : slot.request.validate = .success)
    (ended : slot.executionFailed = false →
      routed.job.state ≠ .ready ∧ routed.job.state ≠ .running) (nowNs : UInt64) :
    (slot.writeResult routed nowNs).Decided := by
  have failed := (makeFailedResult_ok valid nowNs (.inl rfl)).2
  show jobResultCode (slot.writeResult routed nowNs).result ≠ .progress
  rcases slot.writeResult_cases routed nowNs with ⟨clean, result, written, code⟩ | ⟨-, code⟩
  · intro same
    have built := RoutedJob.writeResult_ok written
    have compatible := (JobResultMessage.valid_of_validate
      (validate_makeJobResult built)).compatible
    rw [← code, same, (makeJobResult_content built).1] at compatible
    obtain ⟨started, stopped⟩ := ended clean
    rcases of_decide_eq_true compatible with ready | running
    · exact started ready
    · exact stopped running
  · rw [code, failed]
    decide

theorem decided_continueRun {progress : Except JobError JobProgress}
    (valid : slot.request.validate = .success)
    (faithful : ∀ current, progress = .ok current → current = routed.job.progress)
    (started : ∀ current, progress = .ok current → routed.job.state ≠ .ready)
    (noticed : succeeded progress = false → slot.executionFailed = true) (nowNs : UInt64) :
    (slot.continueRun routed progress nowNs).Decided := by
  unfold continueRun
  split
  · refine decided_writeResult valid (fun clean => ?_) nowNs
    rw [noticed rfl] at clean
    cases clean
  · next current =>
      split
      · split
        · trivial
        · unfold exportJob
          dsimp only
          split <;> trivial
      · next stopped =>
          rw [faithful current rfl] at stopped
          exact decided_writeResult valid (fun _ => ⟨started current rfl, stopped⟩) nowNs

/-- A lane that runs keeps its account in order. -/
theorem Decided.runSlot (sound : slot.Sound) (decided : slot.Decided) (nowNs : UInt64) :
    (slot.runSlot nowNs).Decided := by
  have fits := sound.fits
  have valid : slot.holding = true → slot.request.validate = .success :=
    fun holding => (sound.owns holding).valid
  unfold Slot.runSlot
  cases here : slot.thread with
  | waiting =>
      dsimp only
      split
      · next requested => exact decided_bindRequest (valid (holding_of requested)) nowNs
      · exact decided
  | bound routed => exact slot.decided_enter routed nowNs
  | entered =>
      rw [Decided, here] at decided
      exact decided_checkCancel decided.1 decided.2
  | looping =>
      rw [Decided, here] at decided
      rw [ThreadFits, here] at fits
      exact decided_continueRun (valid (holding_of fits.1.running)) fits.2 decided.1
        decided.2 nowNs
  | loading routed => trivial
  | advancing routed cancelGeneration =>
      have started := fun progress done => (CooperativeJob.reports_advance
        routed.operations.cooperative slot.workQuantum cancelGeneration routed.job slot.backend
          progress done).2
      dsimp only [advanceOne]
      split
      · next progress done => exact ⟨started, by rw [done]; rintro ⟨⟩⟩
      · exact ⟨started, fun _ => rfl⟩
  | exported => exact decided_of_waiting rfl (by simp)
  | exportFailed routed => trivial
  | finished =>
      rw [Decided, here] at decided
      exact decided
  | publishing =>
      rw [Decided, here] at decided
      exact decided_of_waiting rfl fun _ => decided

/-- What a step does to the part of a lane that the log depends on. The result that it shows
changes only if it is `replaced`. -/
structure LogStep (replaced : Prop) (old new : Slot κ) : Prop where
  decided : old.Decided → new.Decided
  published : new.holding = true →
    (old.holding = true ∧ new.eventsPublished = old.eventsPublished) ∨
      (old.state = .idle ∧ new.eventsPublished = false)
  result : old.state = .ready → new.state = .ready ∧ (new.result = old.result ∨ replaced)

variable {replaced : Prop}

theorem LogStep.refl (slot : Slot κ) : LogStep replaced slot slot :=
  ⟨id, fun holding => .inl ⟨holding, rfl⟩, fun ready => ⟨ready, .inl rfl⟩⟩

/-- The coordinator changes nothing that the log depends on. -/
theorem LogStep.of_same {old new : Slot κ} (shown : new.shown = old.shown)
    (failed : new.executionFailed = old.executionFailed)
    (published : new.eventsPublished = old.eventsPublished) : LogStep replaced old new := by
  simp only [Slot.shown, Shown.mk.injEq] at shown
  obtain ⟨thread, state, -, result, -⟩ := shown
  refine ⟨fun decided => ?_, fun holding => .inl ⟨?_, published⟩,
    fun ready => ⟨state.trans ready, .inl result⟩⟩
  · rwa [Decided, thread, state, result, failed]
  · rwa [Slot.holding, ← state]

/-- A lane that waited without a result and has none afterwards either. -/
theorem LogStep.of_waiting {old new : Slot κ} (waiting : new.thread = .waiting)
    (unready : old.state ≠ .ready)
    (code : new.state = .ready → jobResultCode new.result ≠ .progress)
    (published : new.holding = true →
      (old.holding = true ∧ new.eventsPublished = old.eventsPublished) ∨
        (old.state = .idle ∧ new.eventsPublished = false)) : LogStep replaced old new :=
  ⟨fun _ => decided_of_waiting waiting code, published, fun ready => absurd ready unready⟩

theorem LogStep.runSlot (sound : slot.Sound) (nowNs : UInt64) :
    LogStep replaced slot (slot.runSlot nowNs) := by
  refine ⟨fun decided => decided.runSlot sound nowNs, fun holding => .inl ⟨?_, ?_⟩, fun ready => ?_⟩
  · rwa [holding_runSlot sound nowNs] at holding
  · exact slot.runSlot_eventsPublished nowNs
  · rw [sound.runSlot_eq_of nowNs ready]
    exact ⟨ready, .inl rfl⟩

end Slot

namespace JobWorkerPool

/-! ## The log -/

/-- The endings that the event buffer reports. -/
def endings (pool : JobWorkerPool κ) : List JobEnding :=
  (pool.events.elim [] (·.events)).filterMap (·.ending)

/-- The event buffer is not full. -/
def Roomy (pool : JobWorkerPool κ) : Prop :=
  ∃ buffer ∈ pool.events, buffer.events.length < buffer.capacity

instance (pool : JobWorkerPool κ) : Decidable pool.Roomy :=
  inferInstanceAs (Decidable (∃ buffer ∈ pool.events, buffer.events.length < buffer.capacity))

variable {details : JobEventDetails}

/-- Most events report no ending. -/
theorem endings_emit (pool : JobWorkerPool κ) (sequence : UInt64)
    (silent : details.event.terminal = false ∨ details.workerIndex = noWorker) :
    (pool.emit sequence details).endings = pool.endings := by
  have none : (makeJobEvent sequence details).1.ending = none := by
    refine if_neg ?_
    rintro ⟨terminal, worker⟩
    rcases silent with live | unassigned
    · exact nomatch live.symm.trans terminal
    · exact worker unassigned
  unfold emit
  split
  · rfl
  · next buffer here =>
      dsimp only
      split
      · unfold JobEventBuffer.tryPush endings
        rw [here]
        split
        · rfl
        split
        · rfl
        · simp [none]
      · rfl

variable {pool : JobWorkerPool κ}

/-- A valid event that leaves the buffer with room was recorded. -/
theorem Roomy.emit {sequence : UInt64} (valid : (makeJobEvent sequence details).2 = .success)
    (roomy : (pool.emit sequence details).Roomy) :
    (pool.emit sequence details).endings =
      pool.endings ++ (makeJobEvent sequence details).1.ending.toList := by
  have passes : (makeJobEvent sequence details).1.validate = .success := valid
  unfold JobWorkerPool.emit at roomy ⊢
  split at roomy
  · next here =>
      obtain ⟨buffer, there, -⟩ := roomy
      cases here.symm.trans there
  · next buffer here =>
      dsimp only at roomy ⊢
      rw [if_pos valid] at roomy ⊢
      obtain ⟨after, same, room⟩ := roomy
      cases same
      unfold JobEventBuffer.tryPush at room ⊢
      rw [if_neg (by simp [passes])] at room ⊢
      split at room
      · next full => exact absurd full (Nat.ne_of_lt room)
      · next space =>
          rw [if_neg space]
          cases ending : (makeJobEvent sequence details).1.ending <;> simp [endings, here, ending]

theorem ending_makeJobEvent (sequence : UInt64) (terminal : details.event.terminal = true)
    (assigned : details.workerIndex ≠ noWorker) :
    (makeJobEvent sequence details).1.ending =
      some {
        sequence, descriptor := details.descriptor, code := details.resultCode,
        progress := details.progress } :=
  if_pos ⟨terminal, assigned⟩

variable {index : Nat}

theorem ofNat_ne_noWorker (few : index < 8) : UInt32.ofNat index ≠ noWorker := by
  intro same
  have equal := congrArg UInt32.toNat same
  rw [UInt32.toNat_ofNat_of_lt' (Nat.lt_trans few (by decide))] at equal
  rw [equal] at few
  exact absurd few (by decide)

variable {slot : Slot κ}

/-- The events of a job that ended report how it ended. -/
theorem endings_emitOutcome (roomy : (pool.emitOutcome index slot).Roomy) (few : index < 8)
    (request : slot.request.validate = .success) (valid : slot.result.validate = .success)
    (decided : jobResultCode slot.result ≠ .progress) :
    (pool.emitOutcome index slot).endings = pool.endings ++ [slot.result.ending] := by
  have result := JobResultMessage.valid_of_validate valid
  have terminal := terminal_terminalEvent (jobResultCode slot.result)
  unfold emitOutcome at roomy ⊢
  dsimp only at roomy ⊢
  rw [Roomy.emit (validate_makeJobEvent _ (JobRequestMessage.valid_of_validate request).serviceClass
    result.descriptor result.progress
    (terminalEvent_compatible result.code result.compatible decided)) roomy]
  congr 1
  · split
    · rfl
    split
    · exact endings_emit _ _ (.inl rfl)
    split
    · rw [endings_emit _ _ (.inl rfl), endings_emit _ _ (.inl rfl)]
    · rw [endings_emit _ _ (.inl rfl), endings_emit _ _ (.inl rfl), endings_emit _ _ (.inl rfl)]
  · rw [ending_makeJobEvent _ terminal (ofNat_ne_noWorker few)]
    rfl

/-- When the result of a lane is first read, its ending is recorded. -/
theorem endings_present (found : pool.slots[index]? = some slot)
    (fresh : slot.eventsPublished = false) (roomy : (pool.present index).Roomy) (few : index < 8)
    (request : slot.request.validate = .success) (valid : slot.result.validate = .success)
    (decided : jobResultCode slot.result ≠ .progress) :
    (pool.present index).endings = pool.endings ++ [slot.result.ending] := by
  unfold present at roomy ⊢
  rw [found] at roomy ⊢
  dsimp only at roomy ⊢
  rw [fresh, if_neg Bool.false_ne_true] at roomy ⊢
  refine (endings_emitOutcome roomy few request valid decided).trans ?_
  congr 1
  split <;> rfl

/-! ## What the steps do to the log -/

/-- The result of a lane is replaced by the rejection of its request as superseded. -/
def Replaces (before after : JobWorkerPool κ) (index : Nat) : Prop :=
  ∃ nowNs, after =
    before.modifySlot index fun slot => writeRejection slot nowNs .rejectedStale

/-- A result that was read already, and was not the rejection as superseded, is replaced by
that rejection. -/
def Overwrites (before after : JobWorkerPool κ) : Prop :=
  ∃ index slot, before.readyIndex = some index ∧ before.slots[index]? = some slot ∧
    slot.result.ending ≠ slot.request.staleEnding ∧ before.Replaces after index

/-- A step reads a result, releases one, or leaves the log and the results that were read
alone. -/
inductive LogMove (before after : JobWorkerPool κ) : Prop where
  | quiet
      (lanes : Lanewise (fun index => Slot.LogStep (before.Replaces after index)) before after)
      (readyIndex : after.readyIndex = before.readyIndex)
      (released : after.released = before.released) (endings : after.endings = before.endings)
  | present {index : Nat} {slot : Slot κ} (found : before.slots[index]? = some slot)
      (ready : slot.state = .ready) (valid : slot.result.validate = .success)
      (unread : before.readyIndex = none) (same : after = before.present index)
  | release {index : Nat} (presented : before.readyIndex = some index)
      (same : after = before.release index)

theorem log_launched {replaced : Prop} (sound : pool.Sound) (found : pool.slots[index]? = some slot)
    (idle : slot.state = .idle) {position : Nat} (bound : position < pool.queueOrder.length)
    (nowNs : UInt64) : Slot.LogStep replaced slot (pool.launched slot position nowNs) := by
  obtain ⟨-, -, thread, -⟩ := pool.duties_launched slot position nowNs
  have waiting := (sound.lane found).waits idle
  refine .of_waiting (thread.trans waiting) (by simp [idle]) (fun ready => ?_) fun _ =>
    .inr ⟨idle, ?_⟩
  · rcases outcome_launched sound slot bound nowNs with ⟨_, _, code⟩ | ⟨_, _, _, code⟩ |
      ⟨_, _, requested⟩
    · simp [code]
    · simp [code]
    · cases requested.symm.trans ready
  · unfold launched launch rejectSlot writeRejection
    dsimp only
    repeat' split
    all_goals rfl

variable {before after : JobWorkerPool κ}

theorem QuietStep.log (sound : before.Sound)
    (step : QuietStep before after) : LogMove before after := by
  have refl : ∀ (index : Nat) (slot : Slot κ),
      Slot.LogStep (before.Replaces after index) slot slot := fun _ slot => .refl slot
  have logged : ∀ {after : JobWorkerPool κ}, Logged before after →
      after.endings = before.endings → LogMove before after := by
    rintro after ⟨events, rfl⟩ log
    exact .quiet (.of_eq (fun _ slot => .refl slot) rfl) rfl rfl log
  cases step with
  | lane index nowNs =>
      exact .quiet (.of_lane refl fun slot found => .runSlot (sound.lane found) nowNs) rfl rfl rfl
  | refuse =>
      exact logged ((Logged.refl before).emit _ _) (endings_emit _ _ (.inr rfl))
  | countQos | openSession | closeSession => exact .quiet (.of_eq refl rfl) rfl rfl rfl
  | preempt nowNs found =>
      exact .quiet (.of_modify refl found (.of_same rfl rfl rfl)) rfl rfl rfl
  | emitPreempted =>
      exact logged ((Logged.refl before).emit _ _) (endings_emit _ _ (.inl rfl))
  | rejectReady nowNs found watermark session older ready =>
      have lane := sound.lane found
      obtain ⟨result, written, -, code⟩ := rejectReady_ok lane ready nowNs
      refine .quiet (.of_modify refl found ?_) rfl rfl rfl
      rw [written]
      refine ⟨fun _ => Slot.decided_of_waiting ?_ fun _ => ?_, fun holding => .inl ⟨holding, rfl⟩,
        fun _ => ⟨ready, .inr ⟨nowNs, rfl⟩⟩⟩
      · exact lane.waits ready
      · rw [code]
        decide
  | @dispatch index position slot nowNs found idle accepting selected =>
      obtain ⟨events, dispatchCursor, same⟩ := dispatch_eq found position nowNs
      have log : (before.dispatch index position nowNs).endings = before.endings :=
        endings_emit _ _ (.inl rfl)
      rw [same] at log refl ⊢
      exact .quiet (.of_set refl found rfl (log_launched sound found idle
        (selectPosition_some selected).1 nowNs)) rfl rfl log
  | @handoff source destination exporter target found targetFound different exported idle accepting
      accepts fits =>
      have exporting := sound.lane found
      have receiving := sound.lane targetFound
      rw [(handoff_eq found targetFound different).1] at refl ⊢
      refine .quiet (.of_set_set refl found targetFound rfl ?_ ?_) rfl rfl rfl
      · exact .of_waiting (exporting.waits exported)
          (by simp [exported]) nofun nofun
      · exact .of_waiting (receiving.waits idle) (by simp [idle])
          nofun fun _ => .inr ⟨idle, rfl⟩
  | resumeLocally found exported =>
      refine .quiet (.of_modify refl found ?_) rfl rfl rfl
      exact .of_waiting ((sound.lane found).waits exported) (by simp [exported]) nofun
        fun _ => .inl ⟨Slot.holding_of exported, rfl⟩
  | drainIdle found rests | resumeDrained found rests | recoverDrained found rests =>
      refine .quiet (.of_modify refl found ?_) rfl rfl rfl
      exact .of_waiting ((sound.lane found).waits rests) (by simp [rests]) nofun nofun
  | requestMigration hasTarget found =>
      exact .quiet (.of_modify refl found (.of_same rfl rfl rfl)) rfl rfl rfl
  | @noteFailure index slot found ready =>
      obtain ⟨_, _, _, _, _, -, same⟩ := noteFailure_eq found
      have lane := sound.lane found
      have waits := lane.waits ready
      rw [same] at refl ⊢
      refine .quiet (.of_set refl found rfl ?_) rfl rfl rfl
      exact ⟨fun decided => Slot.decided_of_waiting waits fun _ => decided.code lane ready,
        fun holding => .inl ⟨holding, rfl⟩, fun ready => ⟨ready, .inl rfl⟩⟩
  | present found ready valid unread => exact .present found ready valid unread rfl

theorem Transition.log (sound : before.Sound)
    (transition : Transition before after) : LogMove before after := by
  have refl : ∀ (index : Nat) (slot : Slot κ),
      Slot.LogStep (before.Replaces after index) slot slot := fun _ slot => .refl slot
  cases transition with
  | step step =>
      cases step with
      | quiet step => exact step.log sound
      | @admitRequest request timestampNs admissible =>
          have log : (before.admitRequest request timestampNs).endings = before.endings := by
            obtain ⟨sessions, noted⟩ := noteSession_eq
              ((before.enqueue request).emitAdmitted request timestampNs)
              request.metadata.descriptor
            rw [admitRequest, noted]
            exact endings_emit _ _ (.inl rfl)
          obtain ⟨sessions, events, same⟩ := before.admit_eq request timestampNs
          rw [same] at log refl ⊢
          exact .quiet (.of_eq refl rfl) rfl rfl log
      | raise => exact .quiet (.of_eq refl rfl) rfl rfl rfl
      | release presented => exact .release presented rfl
  | beginDrain found =>
      exact .quiet (.of_modify refl found (.of_same rfl rfl rfl)) rfl rfl rfl

/-! ## The log agrees with what is read -/

/-- The events of the lane whose result was read are published, and those of no other lane. -/
def Announced (pool : JobWorkerPool κ) : Prop :=
  ∀ (index : Nat) (slot : Slot κ), pool.slots[index]? = some slot → slot.holding = true →
    (slot.eventsPublished = true ↔ pool.readyIndex = some index)

/-- The results that were read, in order, with the numbers of their requests: those that were
released, and the one that is presented. -/
def reads (pool : JobWorkerPool κ) : List (Nat × JobEnding) :=
  pool.released.map (fun delivery => (delivery.ticket, delivery.result.ending)) ++
    (pool.presentedSlot.map fun slot => (slot.ticket, slot.result.ending)).toList

/-- The log reports exactly the results that were read. -/
def Agrees (pool : JobWorkerPool κ) : Prop := pool.endings = pool.reads.map Prod.snd

instance (pool : JobWorkerPool κ) : Decidable pool.Agrees :=
  inferInstanceAs (Decidable (pool.endings = pool.reads.map Prod.snd))

theorem presentedSlot_of_found (presented : pool.readyIndex = some index)
    (found : pool.slots[index]? = some slot) : pool.presentedSlot = some slot := by
  rw [presentedSlot, presented]
  exact found

theorem presentedSlot_present (found : pool.slots[index]? = some slot) :
    ∃ shown, (pool.present index).presentedSlot = some shown ∧
      shown.result = slot.result ∧ (pool.present index).released = pool.released := by
  obtain ⟨consecutiveFailures, events, same⟩ := present_eq found
  rw [same]
  exact ⟨_, presentedSlot_of_found rfl (found_setSlot found _), rfl, rfl⟩

theorem release_eq (found : pool.slots[index]? = some slot) :
    pool.release index =
      { pool.setSlot index (vacant { slot with remainingWorkUnits := 0 }) with
        readyCursor := (index + 1) % pool.slots.length
        readyIndex := none
        released := pool.released ++
          [{ ticket := slot.ticket, request := slot.request, result := slot.result }] } := by
  rw [release, found]
  rw [modifySlot_eq_setSlot found]

theorem LogMove.decided (sound : before.Sound)
    (move : LogMove before after) (decided : ∀ slot ∈ before.slots, slot.Decided) :
    ∀ slot ∈ after.slots, slot.Decided := by
  cases move with
  | quiet lanes =>
      exact lanes.forall_slots (fun _ _ _ step => step.decided) decided
  | @present index slot found ready valid unread same =>
      obtain ⟨consecutiveFailures, events, shape⟩ := present_eq found
      rw [same, shape]
      intro each member
      rcases List.mem_or_eq_of_mem_set member with old | rfl
      · exact decided each old
      · exact decided slot (List.mem_of_getElem? found)
  | @release index presented same =>
      obtain ⟨slot, found, ready⟩ := sound.presented index presented
      rw [same, release_eq found]
      intro each member
      rcases List.mem_or_eq_of_mem_set member with old | rfl
      · exact decided each old
      · refine Slot.decided_of_waiting ((thread_vacant _).trans
          ((sound.lane found).waits ready)) fun state => ?_
        rcases state_vacant { slot with remainingWorkUnits := 0 } with vacated | vacated <;>
        cases vacated.symm.trans state

theorem decided_fresh (config : Config κ) : ∀ slot ∈ (fresh config).slots, slot.Decided := by
  intro slot member
  obtain ⟨waiting, idle⟩ := vacant_fresh config slot member
  exact Slot.decided_of_waiting waiting fun ready => nomatch idle.symm.trans ready

theorem LogMove.announced (sound : before.Sound)
    (move : LogMove before after) (announced : before.Announced) : after.Announced := by
  cases move with
  | quiet lanes readyIndex =>
      intro index new found holding
      obtain ⟨old, was, step⟩ := lanes.earlier found
      rw [readyIndex]
      rcases step.published holding with ⟨held, same⟩ | ⟨idle, unpublished⟩
      · rw [same]
        exact announced index old was held
      · rw [unpublished]
        refine iff_of_false Bool.false_ne_true fun presented => ?_
        obtain ⟨slot, here, ready⟩ := sound.presented index presented
        cases was.symm.trans here
        cases idle.symm.trans ready
  | @present index slot found ready valid unread same =>
      obtain ⟨consecutiveFailures, events, shape⟩ := present_eq found
      rw [same, shape]
      intro lane new here holding
      by_cases this : index = lane
      · subst this
        cases (found_setSlot found _).symm.trans here
        exact iff_of_true rfl rfl
      · have was : before.slots[lane]? = some new := (List.getElem?_set_ne this).symm.trans here
        rw [announced lane new was holding, unread]
        exact iff_of_false nofun fun presented => this (Option.some.inj presented)
  | @release index presented same =>
      obtain ⟨slot, found, ready⟩ := sound.presented index presented
      rw [same, release_eq found]
      intro lane new here holding
      by_cases this : index = lane
      · subst this
        cases (found_setSlot found _).symm.trans here
        rw [Slot.holding_iff] at holding
        rcases state_vacant { slot with remainingWorkUnits := 0 } with vacated | vacated
        · exact absurd vacated holding.1
        · exact absurd vacated holding.2
      · have was : before.slots[lane]? = some new := (List.getElem?_set_ne this).symm.trans here
        rw [announced lane new was holding, presented]
        exact iff_of_false (fun presented => this (Option.some.inj presented)) nofun

/-- A result that was read and is replaced by the rejection that it already was. -/
theorem ending_replaced (sound : before.Sound) {old new : Slot κ}
    (found : before.slots[index]? = some old) (ready : old.state = .ready)
    (replaces : before.Replaces after index) (becomes : after.slots[index]? = some new) :
    new.result.ending = old.request.staleEnding := by
  obtain ⟨nowNs, rfl⟩ := replaces
  obtain ⟨result, written, ending⟩ := ending_writeRejection
    ((sound.lane found).owns (Slot.holding_of ready)).valid nowNs
  rw [modifySlot_eq_setSlot found, found_setSlot found, written] at becomes
  cases becomes
  exact ending

theorem LogMove.agrees (sound : before.Sound)
    (move : LogMove before after) (kept : ¬ Overwrites before after) (roomy : after.Roomy)
    (few : before.slots.length ≤ 8) (decided : ∀ slot ∈ before.slots, slot.Decided)
    (announced : before.Announced) (agrees : before.Agrees) : after.Agrees := by
  unfold Agrees reads at agrees ⊢
  cases move with
  | quiet lanes readyIndex released endings =>
      rw [endings, agrees, released]
      cases chosen : before.readyIndex with
      | none => simp [presentedSlot, chosen, readyIndex]
      | some index =>
          obtain ⟨old, found, ready⟩ := sound.presented index chosen
          obtain ⟨new, becomes, step⟩ := lanes.later found
          rw [presentedSlot_of_found chosen found,
            presentedSlot_of_found (readyIndex.trans chosen) becomes]
          have same : new.result.ending = old.result.ending := by
            rcases (step.result ready).2 with same | replaces
            · rw [same]
            · rw [ending_replaced sound found ready replaces becomes]
              by_contra different
              exact kept ⟨index, old, chosen, found, fun same => different same.symm, replaces⟩
          simp [same]
  | @present index slot found ready valid unread same =>
      subst same
      have lane := sound.lane found
      have holding : slot.holding = true := Slot.holding_of ready
      have fresh : slot.eventsPublished = false := by
        rw [← Bool.not_eq_true, announced index slot found holding, unread]
        simp
      obtain ⟨bound, -⟩ := List.getElem?_eq_some_iff.mp found
      obtain ⟨shown, presents, result, released⟩ := presentedSlot_present found
      rw [endings_present found fresh roomy (Nat.lt_of_lt_of_le bound few) (lane.owns holding).valid
        valid ((decided slot (List.mem_of_getElem? found)).code lane ready), agrees, presents,
        released, presentedSlot, unread]
      simp [result]
  | @release index presented same =>
      obtain ⟨slot, found, ready⟩ := sound.presented index presented
      rw [presentedSlot_of_found presented found] at agrees
      rw [same, release_eq found]
      refine agrees.trans ?_
      simp [presentedSlot]

/-- Replacing a result that was read leaves the log behind. -/
theorem not_overwrites (sound : before.Sound)
    (agrees : before.Agrees) (still : after.Agrees) : ¬ Overwrites before after := by
  rintro ⟨index, slot, presented, found, different, replaces⟩
  obtain ⟨nowNs, same⟩ := replaces
  have ready : slot.state = .ready := by
    obtain ⟨other, here, ready⟩ := sound.presented index presented
    cases found.symm.trans here
    exact ready
  have becomes : after.slots[index]? = some (writeRejection slot nowNs .rejectedStale) := by
    rw [same, modifySlot_eq_setSlot found]
    exact found_setSlot found _
  have ending := ending_replaced sound found ready ⟨nowNs, same⟩ becomes
  have log : after.endings = before.endings := by rw [same]; rfl
  have released : after.released = before.released := by rw [same]; rfl
  unfold Agrees reads at agrees still
  rw [log, agrees, released, presentedSlot_of_found presented found,
    presentedSlot_of_found (by rw [same]; exact presented) becomes] at still
  simp only [Option.map_some, Option.toList_some, List.map_append, List.map_cons, List.map_nil,
    List.append_cancel_left_eq, List.cons.injEq, and_true, ending] at still
  exact different still

/-- Each result that was read is for another accepted request, whose identity it carries. -/
def Accounted (pool : JobWorkerPool κ) : Prop :=
  (pool.reads.map Prod.fst).Nodup ∧ ∀ read ∈ pool.reads, ∃ request,
    pool.accepted[read.1]? = some request ∧ read.2.sequence = request.envelope.sequence ∧
      read.2.descriptor = request.metadata.descriptor

theorem accounted_of_conserved (sound : pool.Sound) (conserved : pool.ledger.Conserved) :
    pool.Accounted := by
  -- The slot that is presented holds its request, so it is among the lanes of the ledger.
  have held : ∀ slot, pool.presentedSlot = some slot → slot ∈ pool.slots ∧ slot.state = .ready ∧
      slot.claim = some (slot.request, slot.ticket) := by
    intro slot presents
    obtain ⟨index, presented, found⟩ := Option.bind_eq_some_iff.mp presents
    obtain ⟨other, here, ready⟩ := sound.presented index presented
    cases found.symm.trans here
    exact ⟨List.mem_of_getElem? found, ready, if_pos (Slot.holding_of ready)⟩
  refine ⟨?_, fun read member => ?_⟩
  · have distinct := places_nodup conserved
    rw [places, List.nodup_append] at distinct
    obtain ⟨lanes, released, apart⟩ := distinct
    rw [reads, List.map_append, List.map_map, List.nodup_append]
    refine ⟨released, ?_, fun ticket inReleased other presents => ?_⟩
    · cases pool.presentedSlot <;> simp
    · cases chosen : pool.presentedSlot with
      | none => simp [chosen] at presents
      | some slot =>
          obtain ⟨inside, -, claim⟩ := held slot chosen
          simp only [chosen, Option.map_some, Option.toList_some, List.map_cons, List.map_nil,
            List.mem_singleton] at presents
          subst presents
          refine (apart slot.ticket (List.mem_append_right _ ?_) ticket inReleased).symm
          exact List.mem_filterMap.mpr ⟨slot, inside, by rw [claim]; rfl⟩
  · rcases List.mem_append.mp member with old | new
    · obtain ⟨delivery, inside, rfl⟩ := List.mem_map.mp old
      have answers := sound.delivered delivery inside
      have listed : (delivery.request, delivery.ticket) ∈ pool.ledger.entries .delivered :=
        List.mem_map.mpr ⟨delivery, inside, rfl⟩
      exact ⟨delivery.request, conserved.issued_of_mem listed, answers.sequence, answers.descriptor⟩
    · rw [Option.mem_toList, Option.map_eq_some_iff] at new
      obtain ⟨slot, presents, rfl⟩ := new
      obtain ⟨inside, ready, claim⟩ := held slot presents
      have answers := (sound.lanes slot inside).answers ready
      have listed : (slot.request, slot.ticket) ∈ pool.ledger.entries .lanes :=
        List.mem_filterMap.mpr ⟨slot, inside, claim⟩
      exact ⟨slot.request, conserved.issued_of_mem listed, answers.sequence, answers.descriptor⟩

/-! ## Runs -/

/-- **The log and the results.** In every run with an event buffer that never fills, the
results that were read are for accepted requests, one each. The terminal events in the log
are, at every moment and in order, those of the results that were read, if and only if no
result is replaced after it was read. -/
theorem event_log_agrees_iff {config : Config κ} {pool : JobWorkerPool κ}
    (created : create config = .ok pool) {capacity : Nat}
    (buffered : config.events = some { capacity }) (clockNs : UInt64)
    (schedule : List (List LaneMove)) (readings : List UInt64) (commands : List PoolCommand)
    (roomy : ∀ moment ∈ (PoolCommand.runFrom pool clockNs schedule readings commands).moments,
      moment.Roomy) :
    let world := PoolCommand.runFrom pool clockNs schedule readings commands
    (∀ moment ∈ world.moments, moment.Accounted) ∧
      ((∀ moment ∈ world.moments, moment.Agrees) ↔
        world.moments.IsChain fun before after => ¬ Overwrites before after) := by
  intro world
  have traced : (system κ).Traced pool world :=
    (traced_runFrom created clockNs schedule readings commands).1
  refine ⟨fun moment member => ?_, fun agrees => ?_, fun kept => ?_⟩
  · exact accounted_of_conserved (traced.good moment member)
      (conserved_of_traced created traced moment member)
  · rw [List.isChain_iff_getElem]
    intro index bound
    exact not_overwrites (traced.good _ (List.getElem_mem _)) (agrees _ (List.getElem_mem _))
      (agrees _ (List.getElem_mem _))
  · have restricted : world.moments.IsChain fun before after =>
        ¬ Overwrites before after ∧ after.Roomy := by
      rw [List.isChain_iff_getElem] at kept ⊢
      exact fun index bound => ⟨kept index bound, roomy _ (List.getElem_mem _)⟩
    have known := traced.invariantAlong restricted
      (fun pool => pool.slots.length ≤ 8 ∧ (∀ slot ∈ pool.slots, slot.Decided) ∧
        pool.Announced ∧ pool.Agrees) ?_ ?_
    · exact fun moment member => (known moment member).2.2.2
    · refine ⟨length_of_create created, ?_⟩
      rw [create_ok created]
      refine ⟨decided_fresh config, fun index slot found holding => ?_, ?_⟩
      · rw [Slot.holding_iff] at holding
        exact absurd (vacant_fresh config slot (List.mem_of_getElem? found)).2 holding.1
      · simp [Agrees, endings, reads, presentedSlot, fresh, buffered]
    · rintro before after sound transition ⟨stays, room⟩ ⟨few, decided, announced, agrees⟩
      have move := Transition.log sound transition
      exact ⟨(Transition.length sound transition).trans_le few, move.decided sound decided,
        move.announced sound announced, move.agrees sound stays room few decided announced agrees⟩

/-! A result is read and not released; then a newer generation of its session is announced. -/

def loggedConfig : Config Unit := { eagerConfig with events := some { capacity := 64 } }

def rereadRun (commands : List PoolCommand) : World Unit :=
  PoolCommand.runFrom (fresh loggedConfig) 0
    [[], [], List.replicate 12 { lane := 0, nowNs := 5 }] [1, 2] commands

/-- A result that is read, released and reported. -/
theorem event_log_agrees_iff_example :
    let world := rereadRun
      [.submit (eagerRequest 1) 0, .pause, .readyResult, .releaseReadyResult]
    create loggedConfig = .ok (fresh loggedConfig) ∧ world.pool.endings.length = 1 ∧
      (∀ moment ∈ world.moments, moment.Roomy) ∧ world.pool.Accounted ∧
      world.moments.IsChain fun before after => ¬ Overwrites before after := by
  intro world
  have created : create loggedConfig = .ok (fresh loggedConfig) := rfl
  have roomy : ∀ moment ∈ world.moments, moment.Roomy := by decide
  obtain ⟨accounted, agrees⟩ := event_log_agrees_iff created rfl 0 _ _ _ roomy
  exact ⟨created, by decide, roomy, accounted _ List.mem_concat_self,
    agrees.mp (by decide)⟩

/-- The log reports a completion, and the result that is released is a rejection. -/
theorem event_log_misses_rejection :
    let world := rereadRun
      [.submit (eagerRequest 1) 0, .pause, .readyResult, .cancelBefore 7 2, .readyResult,
        .releaseReadyResult]
    create loggedConfig = .ok (fresh loggedConfig) ∧ (∀ moment ∈ world.moments, moment.Roomy) ∧
      world.pool.endings.map (·.code) = [.complete] ∧
      world.pool.released.map (fun delivery => jobResultCode delivery.result) =
        [.rejectedStale] := by
  refine ⟨rfl, ?_, ?_, ?_⟩ <;> decide

end JobWorkerPool

end FlowEdge
