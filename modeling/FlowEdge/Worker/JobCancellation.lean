import FlowEdge.Worker.JobEventLog

/-!
# Cancelled jobs and late completions

A lane looks at its cancel generation before each quantum and not after the last one. A
lane that is past its last look and will complete its job is late: cancelling it then has
no effect, and the completion of the older generation is published after `cancel_before`
returned. In a run in which no lane is late when it is cancelled, no request that was
cancelled completes.
-/

namespace FlowEdge

open Words StatePrograms

variable {κ : Type}

/-! ## Lanes past their last look -/

/-- Whether a result can be written does not depend on the time. -/
theorem RoutedJob.succeeded_writeResult (routed : RoutedJob κ) (backend : κ)
    (first second : UInt64) :
    succeeded (routed.writeResult backend first) =
      succeeded (routed.writeResult backend second) := by
  unfold RoutedJob.writeResult makeJobResult
  dsimp only
  split
  · rfl
  split
  · rfl
  split <;> rfl

theorem makeFailedResult_incomplete (request : JobRequestMessage) (timestampNs : UInt64)
    {code : JobResultCode} (failure : code ≠ .complete) :
    jobResultCode (makeFailedResult request timestampNs code) ≠ .complete := by
  unfold makeFailedResult
  split
  · next built =>
      rw [(makeJobResult_code built).1]
      exact failure
  · decide

theorem resultCode_complete {state : JobState} :
    resultCode state = .complete ↔ state = .complete := by
  unfold resultCode
  split
  · simp [*]
  split
  · simp [*]
  split <;> simp [*]

namespace Slot

/-- A lane reports a completion if its job is complete, nothing failed and the result fits. -/
theorem writeResult_complete_iff (slot : Slot κ) (routed : RoutedJob κ) (nowNs : UInt64) :
    jobResultCode (slot.writeResult routed nowNs).result = .complete ↔
      slot.executionFailed = false ∧ routed.job.state = .complete ∧
        succeeded (routed.writeResult slot.backend nowNs) = true := by
  have failure := makeFailedResult_incomplete slot.request nowNs
    (show JobResultCode.failed ≠ .complete by decide)
  rcases slot.writeResult_cases routed nowNs with ⟨clean, result, written, code⟩ | ⟨broken, code⟩
  · simp [code, clean, written, RoutedJob.code_writeResult written, resultCode_complete, succeeded]
  · rw [code]
    refine iff_of_false failure ?_
    rintro ⟨clean, -, succeeded⟩
    simp_all

/-- The progress that ends the work loop of a lane. -/
def leavesLoop : Except JobError JobProgress → Bool
  | .ok current => current.state ≠ .running
  | .error _ => true

/-- The lane has left its work loop, and the result that it writes is a completion. -/
def endsComplete (slot : Slot κ) (routed : RoutedJob κ) (progress : Except JobError JobProgress) :
    Bool :=
  leavesLoop progress ∧ slot.executionFailed = false ∧ routed.job.state = .complete ∧
    succeeded (routed.writeResult slot.backend 0)

/-- The lane publishes a completion without looking at its cancel generation again. -/
def late (slot : Slot κ) : Bool :=
  match slot.thread with
  | .waiting => slot.state = .ready ∧ jobResultCode slot.result = .complete
  | .looping routed progress => slot.endsComplete routed progress
  | .advancing routed cancelGeneration =>
      let outcome := routed.job.advance routed.operations.cooperative slot.workQuantum
        cancelGeneration slot.backend
      (slot.advanceOne routed cancelGeneration).endsComplete { routed with job := outcome.job }
        outcome.result
  | .finished => jobResultCode slot.result = .complete
  | .publishing => jobResultCode slot.result = .complete
  | _ => false

theorem late_of_waiting {slot : Slot κ} (waiting : slot.thread = .waiting) :
    slot.late = decide (slot.state = .ready ∧ jobResultCode slot.result = .complete) := by
  rw [late, waiting]

/-- What the coordinator writes to a lane at work has no influence on a late lane. -/
theorem late_retouch (slot : Slot κ) (cancelGeneration preemptedNs : UInt64)
    (drainRequested migrateRequested : Bool) :
    late { slot with cancelGeneration, preemptedNs, drainRequested, migrateRequested } =
      slot.late := by
  unfold late
  cases slot.thread with
  | advancing =>
      dsimp only [advanceOne]
      split <;> rfl
  | _ => rfl

theorem not_endsComplete {slot : Slot κ} {routed : RoutedJob κ}
    (incomplete : routed.job.state ≠ .complete) (progress : Except JobError JobProgress) :
    slot.endsComplete routed progress = false := by
  simp [endsComplete, incomplete]

/-- What a lane at the top of its work loop comes to. -/
theorem late_continueRun (slot : Slot κ) (routed : RoutedJob κ)
    (progress : Except JobError JobProgress) (nowNs : UInt64) :
    (slot.continueRun routed progress nowNs).late = slot.endsComplete routed progress := by
  have written : (slot.writeResult routed nowNs).late =
      decide (slot.executionFailed = false ∧ routed.job.state = .complete ∧
        succeeded (routed.writeResult slot.backend 0)) := by
    refine decide_eq_decide.mpr ?_
    rw [slot.writeResult_complete_iff routed nowNs, routed.succeeded_writeResult _ nowNs 0]
  unfold continueRun
  split
  · rw [written]
    simp [endsComplete, leavesLoop]
  · next current =>
      split
      · next running =>
          have stays : slot.endsComplete routed (.ok current) = false := by
            simp [endsComplete, leavesLoop, running]
          rw [stays]
          split
          · rfl
          · unfold exportJob
            dsimp only
            split <;> rfl
      · next ended =>
          rw [written]
          simp [endsComplete, leavesLoop, ended]

/-- A lane that was told to cancel and is not late does not become late. -/
theorem late_runSlot {slot : Slot κ} (sound : slot.Sound) (nowNs : UInt64)
    (cancelled : slot.generation < slot.cancelGeneration) (onTime : slot.late = false) :
    (slot.runSlot nowNs).late = false := by
  have fits := sound.fits
  unfold runSlot
  cases here : slot.thread with
  | waiting =>
      dsimp only
      split
      · unfold bindRequest
        dsimp only
        split
        · refine decide_eq_false (makeFailedResult_incomplete _ _ ?_)
          split <;> decide
        · rfl
      · exact onTime
  | bound => rfl
  | entered routed progress =>
      rw [ThreadFits, here] at fits
      obtain ⟨works, incomplete, -⟩ := fits
      dsimp only [checkCancel]
      split
      · exact not_endsComplete (CooperativeJob.cancelBefore_incomplete _ _ incomplete _) _
      · exact not_endsComplete incomplete progress
  | looping routed progress =>
      rw [late, here] at onTime
      exact (slot.late_continueRun routed progress nowNs).trans onTime
  | loading routed =>
      rw [ThreadFits, here] at fits
      obtain ⟨works, running⟩ := fits
      -- The generation that is loaded now is newer than the job, so the next quantum cancels it.
      have owns := sound.owns (holding_of works.running)
      have newer : slot.cancelGeneration > routed.job.descriptor.generation := by
        rw [works.serves.descriptor, ← owns.generation]
        exact cancelled
      exact not_endsComplete
        (CooperativeJob.advance_cancelled _ _ newer (by simp [running]) _) _
  | advancing routed cancelGeneration =>
      have thread : (slot.advanceOne routed cancelGeneration).thread = .looping _ _ :=
        slot.thread_advanceOne routed cancelGeneration
      rw [late, here] at onTime
      dsimp only
      rwa [late, thread]
  | exported => rfl
  | exportFailed => rfl
  | finished =>
      rw [late, here] at onTime
      exact onTime
  | publishing =>
      rw [late, here] at onTime
      have incomplete := of_decide_eq_false onTime
      exact decide_eq_false fun both => incomplete both.2

end Slot

namespace JobWorkerPool

/-- No lane that was told to cancel is late. -/
def Heeds (pool : JobWorkerPool κ) : Prop :=
  ∀ slot ∈ pool.slots, slot.holding = true → slot.generation < slot.cancelGeneration →
    slot.late = false

/-- A step in which no late lane is told to cancel. -/
def timely (before after : JobWorkerPool κ) : Bool :=
  (before.slots.zip after.slots).all fun (old, new) =>
    old.cancelGeneration ≥ new.cancelGeneration ∨ old.late = false

variable {before after : JobWorkerPool κ}

/-- In a timely step a lane that is told to cancel was not late. -/
theorem late_of_timely (onTime : timely before after = true) {index : Nat} {old new : Slot κ}
    (found : before.slots[index]? = some old) (again : after.slots[index]? = some new)
    (raised : old.cancelGeneration < new.cancelGeneration) : old.late = false := by
  have member : (old, new) ∈ before.slots.zip after.slots :=
    List.mem_of_getElem? (List.getElem?_zip_eq_some.mpr ⟨found, again⟩)
  have checked := List.all_eq_true.mp onTime _ member
  simp only [decide_eq_true_eq] at checked
  exact checked.resolve_left (UInt64.not_le.mpr raised)

variable {pool : JobWorkerPool κ}

theorem Heeds.setSlot (heeds : pool.Heeds) (index : Nat) (other : Slot κ)
    (here : other.holding = true → other.generation < other.cancelGeneration → other.late = false) :
    (pool.setSlot index other).Heeds := by
  intro slot member
  rcases List.mem_or_eq_of_mem_set member with old | rfl
  · exact heeds slot old
  · exact here

theorem Heeds.vacated (heeds : pool.Heeds) (index : Nat) {other : Slot κ}
    (vacant : other.state = .idle ∨ other.state = .drained) : (pool.setSlot index other).Heeds := by
  refine heeds.setSlot index other fun holding => ?_
  rw [Slot.holding_iff] at holding
  exact absurd vacant (not_or.mpr holding)

/-- A lane whose thread waits for a request is not late. -/
theorem Heeds.requested (heeds : pool.Heeds) (index : Nat) {other : Slot κ}
    (waiting : other.thread = .waiting) (requested : other.state = .requested) :
    (pool.setSlot index other).Heeds := by
  refine heeds.setSlot index other fun _ _ => ?_
  rw [Slot.late_of_waiting waiting, requested]
  rfl

theorem QuietStep.heeds (sound : before.Sound)
    (step : QuietStep before after) (onTime : timely before after = true) (heeds : before.Heeds) :
    after.Heeds := by
  have here : ∀ {index : Nat} {slot : Slot κ}, before.slots[index]? = some slot →
      slot.holding = true → slot.generation < slot.cancelGeneration → slot.late = false :=
    fun found => heeds _ (List.mem_of_getElem? found)
  cases step with
  | lane index nowNs =>
      cases found : before.slots[index]? with
      | none => rwa [modifySlot_eq_self found]
      | some slot =>
          have lane := sound.lane found
          rw [modifySlot_eq_setSlot found]
          refine heeds.setSlot index _ fun holding cancelled => ?_
          rw [Slot.holding_runSlot lane] at holding
          rw [Slot.runSlot_generation, Slot.runSlot_cancelGeneration] at cancelled
          exact Slot.late_runSlot lane nowNs cancelled (here found holding cancelled)
  | refuse request =>
      obtain ⟨events, same⟩ := (Logged.refl before).emit request.envelope.sequence _
      rw [emitRejected, same]
      exact heeds
  | countQos | openSession | closeSession => exact heeds
  | @preempt index slot sessionId generation nowNs found watermark session older holding =>
      rw [JobWorkerPool.preempt, modifySlot_eq_setSlot found] at onTime ⊢
      refine heeds.setSlot index _ fun _ cancelled => ?_
      have same := slot.late_retouch (wordMax slot.cancelGeneration generation) nowNs
        slot.drainRequested slot.migrateRequested
      refine same.trans ?_
      by_cases raised : slot.cancelGeneration < generation
      · refine late_of_timely onTime found (found_setSlot found _) ?_
        show slot.cancelGeneration < wordMax slot.cancelGeneration generation
        rwa [wordMax, if_pos raised]
      · have kept : wordMax slot.cancelGeneration generation = slot.cancelGeneration :=
          if_neg raised
        exact here found holding (kept ▸ cancelled)
  | emitPreempted =>
      obtain ⟨events, same⟩ := (Logged.refl before).emit _ _
      rw [JobWorkerPool.emitPreempted, same]
      exact heeds
  | rejectReady nowNs found watermark session older ready =>
      have lane := sound.lane found
      obtain ⟨result, written, -, code⟩ := rejectReady_ok lane ready nowNs
      rw [modifySlot_eq_setSlot found, written]
      refine heeds.setSlot _ _ fun _ _ => ?_
      rw [Slot.late_of_waiting]
      · simp [code]
      · exact lane.waits ready
  | @dispatch index position slot nowNs found idle accepting selected =>
      obtain ⟨events, dispatchCursor, same⟩ := dispatch_eq found position nowNs
      obtain ⟨-, -, zero⟩ := launched_cases sound found idle (selectPosition_some selected).1 nowNs
      have placed := heeds.setSlot index (before.launched slot position nowNs) fun _ cancelled => by
        rw [zero] at cancelled
        exact absurd cancelled (UInt64.not_lt.mpr UInt64.zero_le)
      rw [same]
      exact placed
  | handoff found targetFound different exported idle =>
      have waiting := (sound.lane targetFound).waits idle
      rw [(handoff_eq found targetFound different).1]
      exact (heeds.vacated _ (.inr rfl)).requested _ waiting rfl
  | resumeLocally found exported =>
      have waiting := (sound.lane found).waits exported
      rw [modifySlot_eq_setSlot found]
      exact heeds.requested _ waiting rfl
  | drainIdle found =>
      rw [modifySlot_eq_setSlot found]
      exact heeds.vacated _ (.inr rfl)
  | @requestMigration index slot hasTarget found held draining unmoved =>
      rw [modifySlot_eq_setSlot found]
      refine heeds.setSlot _ _ fun holding cancelled => ?_
      exact (slot.late_retouch _ _ _ hasTarget).trans (here found holding cancelled)
  | resumeDrained found | recoverDrained found =>
      rw [modifySlot_eq_setSlot found]
      exact heeds.vacated _ (.inl rfl)
  | @noteFailure index slot found ready =>
      obtain ⟨_, _, _, _, _, -, same⟩ := noteFailure_eq found
      have waiting := (sound.lane found).waits ready
      rw [same]
      refine heeds.setSlot index _ fun holding cancelled => ?_
      rw [← here found holding cancelled, Slot.late_of_waiting waiting]
      exact Slot.late_of_waiting waiting
  | @present index slot found ready valid unread =>
      obtain ⟨_, _, same⟩ := present_eq found
      have waiting := (sound.lane found).waits ready
      rw [same]
      refine heeds.setSlot index _ fun holding cancelled => ?_
      rw [← here found holding cancelled, Slot.late_of_waiting waiting]
      exact Slot.late_of_waiting waiting

theorem Step.heeds (sound : before.Sound)
    (step : Step before after) (onTime : timely before after = true) (heeds : before.Heeds) :
    after.Heeds := by
  cases step with
  | quiet step => exact step.heeds sound onTime heeds
  | admitRequest timestampNs =>
      obtain ⟨sessions, events, same⟩ := before.admit_eq _ timestampNs
      rw [same]
      exact heeds
  | raise => exact heeds
  | @release index presented =>
      obtain ⟨slot, found, -⟩ := sound.presented index presented
      unfold JobWorkerPool.release
      rw [found]
      dsimp only
      rw [modifySlot_eq_setSlot found]
      exact heeds.vacated index (state_vacant _)

theorem Transition.heeds (sound : before.Sound)
    (transition : Transition before after) (onTime : timely before after = true)
    (heeds : before.Heeds) : after.Heeds := by
  cases transition with
  | step step => exact step.heeds sound onTime heeds
  | @beginDrain index slot found fresh removable =>
      rw [modifySlot_eq_setSlot found]
      refine heeds.setSlot _ _ fun holding cancelled => ?_
      exact (slot.late_retouch _ _ true _).trans
        (heeds slot (List.mem_of_getElem? found) holding cancelled)

theorem heeds_fresh (config : Config κ) : (fresh config).Heeds := by
  intro slot member holding
  rw [Slot.holding_iff] at holding
  exact absurd (vacant_fresh config slot member).2 holding.1

/-- A result that a lane shows for a cancelled request is not a completion. -/
theorem Heeds.incomplete (heeds : pool.Heeds) (sound : pool.Sound) {slot : Slot κ}
    (member : slot ∈ pool.slots) (ready : slot.state = .ready) (halted : slot.Halted) :
    jobResultCode slot.result ≠ .complete := by
  rcases halted with cancelled | shown
  · have onTime := heeds slot member (Slot.holding_of ready) cancelled
    have waiting := (sound.lanes slot member).waits ready
    rw [Slot.late_of_waiting waiting] at onTime
    exact fun complete => of_decide_eq_false onTime ⟨ready, complete⟩
  · exact shown.2

/-- Requests stay on the books under their numbers. -/
theorem Step.accepted (step : Step before after) : before.accepted <+: after.accepted := by
  cases step with
  | quiet step =>
      have same : after.accepted = before.accepted := congrArg Prod.fst step.books
      rw [same]
  | @admitRequest request timestampNs admissible =>
      have same : (before.admitRequest request timestampNs).accepted =
          before.accepted ++ [request] :=
        congrArg Prod.fst (books_admitRequest before request timestampNs)
      rw [same]
      exact List.prefix_append _ _
  | raise => exact List.prefix_rfl
  | release =>
      unfold JobWorkerPool.release
      split <;> exact List.prefix_rfl

theorem Transition.accepted (transition : Transition before after) :
    before.accepted <+: after.accepted := by
  cases transition with
  | step step => exact step.accepted
  | beginDrain => exact List.prefix_rfl

/-- A lane that holds a request has the number that it was accepted under. -/
theorem accepted_of_claim (conserved : pool.ledger.Conserved) {slot : Slot κ}
    (member : slot ∈ pool.slots) (holding : slot.holding = true) :
    pool.accepted[slot.ticket]? = some slot.request := by
  apply List.mk_mem_zipIdx_iff_getElem?.mp
  rw [← Multiset.mem_coe]
  refine conserved ▸ Multiset.mem_sum.mpr ⟨.lanes, Finset.mem_univ _, ?_⟩
  exact Multiset.mem_coe.mpr (List.mem_filterMap.mpr ⟨slot, member, claim_of_holding holding⟩)

end JobWorkerPool

namespace PoolCommand

open JobWorkerPool

/-- A command that cancels what is older than a generation of a session: `cancel_before`, or a
`submit` that accepts a request of that generation. -/
def Cancels (world : World κ) (sessionId generation : UInt64) : PoolCommand → Prop
  | .cancelBefore session before => session = sessionId ∧ before = generation
  | .submit request nowNs =>
      request.metadata.descriptor.sessionId = sessionId ∧
        request.metadata.descriptor.generation = generation ∧
        ((JobWorkerPool.submit request nowNs).run world).1.result = .accepted
  | _ => False

/-- Once a command has cancelled a generation, nothing older is left that does not know. -/
theorem fenced_of_cancels {command : PoolCommand} {world : World κ} {sessionId generation : UInt64}
    (cancels : command.Cancels world sessionId generation) (sound : world.pool.Sound)
    (settled : world.pool.Settled) :
    (command.exec.run world).2.pool.Fenced sessionId generation := by
  cases command with
  | cancelBefore session before =>
      obtain ⟨rfl, rfl⟩ := cancels
      exact (follows_cancelBefore session before _ world sound ⟨rfl, settled.but _ _⟩).2.2.2
  | submit request nowNs =>
      obtain ⟨rfl, rfl, accepted⟩ := cancels
      exact (follows_submit request nowNs _ world sound ⟨rfl, settled⟩).2.fenced accepted
  | _ => cases cancels

end PoolCommand

namespace JobWorkerPool

/-- **No stale completion.** A command cancels what is older than a generation of a session. In
every run in which no lane is told to cancel when it is late, the requests that were accepted
by the time the command returned and are older than the generation are presented afterwards
under other codes only, and not as being in progress either. What `ready_result` returns is the
result that is presented. -/
theorem cancelled_jobs_never_complete {config : Config κ} {pool : JobWorkerPool κ}
    (created : create config = .ok pool) (clockNs : UInt64) (schedule : List (List LaneMove))
    (readings : List UInt64) (earlier later : List PoolCommand) (command : PoolCommand)
    (sessionId generation : UInt64)
    (cancels : command.Cancels (PoolCommand.runFrom pool clockNs schedule readings earlier)
      sessionId generation) :
    let first := PoolCommand.runFrom pool clockNs schedule readings (earlier ++ [command])
    let last := PoolCommand.runFrom pool clockNs schedule readings (earlier ++ command :: later)
    last.moments.IsChain (fun before after => timely before after = true) →
    (readyResult.run last).1 = (readyResult.run last).2.pool.presentedSlot.map (·.result) ∧
    ∃ rest, last.moments = first.past ++ first.pool :: rest ∧
      ∀ ticket request, first.pool.accepted[ticket]? = some request →
        request.metadata.descriptor.sessionId = sessionId →
        request.metadata.descriptor.generation < generation →
        ∀ moment ∈ first.pool :: rest, ∀ slot, moment.presentedSlot = some slot →
          slot.ticket = ticket →
          slot.request = request ∧ jobResultCode slot.result ≠ .complete ∧
            jobResultCode slot.result ≠ .progress := by
  intro first last onTime
  obtain ⟨tracedStart, settledStart, -⟩ :=
    traced_runFrom created clockNs schedule readings earlier
  have soundStart := tracedStart.now
  obtain ⟨tracedFirst, restingFirst⟩ : (system κ).Traced pool first ∧ first.pool.Settled ∧
      first.pool.Rested :=
    traced_runFrom created clockNs schedule readings (earlier ++ [command])
  have traced : (system κ).Traced pool last :=
    (traced_runFrom created clockNs schedule readings (earlier ++ command :: later)).1
  have soundFirst : first.pool.Sound := tracedFirst.now
  have soundLast : last.pool.Sound := traced.now
  refine ⟨(follows_readyResult last soundLast trivial).2, ?_⟩
  have reached : last = ((PoolCommand.execAll later).run first).2 := by
    have appended := PoolCommand.execAll_append (earlier ++ [command]) later
      { pool, clockNs, schedule, readings }
    rw [List.append_assoc] at appended
    exact appended
  have fenced : first.pool.Fenced sessionId generation := by
    have same : first = (command.exec.run (PoolCommand.runFrom pool clockNs schedule readings
        earlier)).2 := PoolCommand.execAll_append earlier [command] _
    rw [same]
    exact PoolCommand.fenced_of_cancels cancels soundStart settledStart
  obtain ⟨rest, split⟩ := (system κ).moments_of_path
    (PoolCommand.follows_execAll later first soundFirst restingFirst).1
  rw [← reached] at split
  have split : last.moments = first.past ++ first.pool :: rest := split
  refine ⟨rest, split, fun ticket request accepted session older moment member slot presented
    number => ?_⟩
  have inside : moment ∈ last.moments := by
    rw [split]
    exact List.mem_append_right _ member
  have sound : moment.Sound := traced.good moment inside
  have conserved := conserved_of_traced created traced moment inside
  have heeds := traced.invariantAlong onTime Heeds (create_ok created ▸ heeds_fresh config)
    (fun sound step onTime heeds => step.heeds sound onTime heeds) moment inside
  have decided := traced.invariant (fun pool => ∀ slot ∈ pool.slots, slot.Decided)
    (create_ok created ▸ decided_fresh config)
    (fun sound step decided => (Transition.log sound step).decided sound decided) moment inside
  -- Of the requests that are numbered so far, those of the older generations stay fated.
  obtain ⟨known, fated⟩ := traced.invariantFrom split
    (fun pool => first.pool.accepted <+: pool.accepted ∧ pool.Fated fun entry =>
      entry.2 < first.pool.accepted.length ∧
        entry.1.metadata.descriptor.sessionId = sessionId ∧
        entry.1.metadata.descriptor.generation < generation)
    ⟨List.prefix_rfl, fenced.mono fun entry chosen => chosen.2⟩
    (fun sound step known => ⟨known.1.trans step.accepted, step.fated sound
      (fun request chosen => Nat.not_lt.mpr known.1.length_le chosen.1) known.2⟩) moment member
  obtain ⟨index, chosen, found⟩ := Option.bind_eq_some_iff.mp presented
  have ready : slot.state = .ready := by
    obtain ⟨same, again, ready⟩ := sound.presented index chosen
    cases found.symm.trans again
    exact ready
  have holding : slot.holding = true := Slot.holding_of ready
  have here := List.mem_of_getElem? found
  have bound : ticket < first.pool.accepted.length := (List.getElem?_eq_some_iff.mp accepted).1
  have same : slot.request = request := by
    obtain ⟨more, appended⟩ := known
    have now := accepted_of_claim conserved here holding
    rw [number, ← appended, List.getElem?_append_left bound, accepted] at now
    exact (Option.some.inj now).symm
  refine ⟨same, heeds.incomplete sound here ready ?_,
    (decided slot here).code (sound.lane found) ready⟩
  refine (fated.lanes slot here _ (claim_of_holding holding) ⟨number ▸ bound, ?_, ?_⟩).2
  · exact same ▸ session
  · exact same ▸ older

/-- A request is cancelled before its lane has taken it, and then presented as cancelled. -/
theorem cancelled_jobs_never_complete_example :
    let run := PoolCommand.runFrom (fresh eagerConfig) 0
      [[], [], [], [], List.replicate 12 { lane := 0, nowNs := 5 }] [1, 2]
    let first := run [.submit (eagerRequest 1) 0, .cancelBefore 7 2]
    let last := run [.submit (eagerRequest 1) 0, .cancelBefore 7 2, .pause, .readyResult]
    last.pool.presentedSlot.map (fun slot => (slot.ticket, jobResultCode slot.result)) =
        some (0, .cancelled) ∧
      ∃ rest, last.moments = first.past ++ first.pool :: rest ∧
        ∀ moment ∈ first.pool :: rest, ∀ slot, moment.presentedSlot = some slot →
          slot.ticket = 0 → jobResultCode slot.result ≠ .complete := by
  intro run first last
  obtain ⟨-, rest, split, incomplete⟩ := cancelled_jobs_never_complete
    (show create eagerConfig = .ok (fresh eagerConfig) from rfl) 0
    [[], [], [], [], List.replicate 12 { lane := 0, nowNs := 5 }] [1, 2]
    [.submit (eagerRequest 1) 0] [.pause, .readyResult] (.cancelBefore 7 2) 7 2 ⟨rfl, rfl⟩
    (by decide)
  refine ⟨by decide, rest, split, fun moment member slot presented number => ?_⟩
  exact (incomplete 0 (eagerRequest 1) (by decide) (by decide) (by decide) moment member slot
    presented number).2.1

/-- The lane has loaded its cancel generation for the only quantum of the job when the job is
cancelled; it completes the job, and `ready_result` reports the completion. -/
theorem cancelled_job_completes :
    let run := PoolCommand.runFrom (fresh eagerConfig) 0
      [[], List.replicate 5 { lane := 0, nowNs := 5 }, [], [], [],
        List.replicate 12 { lane := 0, nowNs := 5 }] [1, 2]
    let first := run [.submit (eagerRequest 1) 0, .pause, .cancelBefore 7 2]
    let last := run [.submit (eagerRequest 1) 0, .pause, .cancelBefore 7 2, .pause]
    create eagerConfig = .ok (fresh eagerConfig) ∧
      first.pool.accepted = [eagerRequest 1] ∧ first.pool.released = [] ∧
      (readyResult.run last).1.map jobResultCode = some .complete := by
  refine ⟨rfl, ?_, ?_, ?_⟩
  all_goals decide

end JobWorkerPool

end FlowEdge
