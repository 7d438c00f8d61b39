import FlowEdge.Jobs.JobRegistry

/-!
# Sequences of calls to a cooperative job

A backend may answer a callback with anything and may behave differently at every call.
Whatever it does and in whatever order the job is called, the state and the progress of the
job fit each other and its descriptor. The validators of the job, of its capsule and of its
result message check the same condition, so each accepts what the other two produce.
-/

namespace FlowEdge

open Words

/-! ## Validators -/

/-- How much of the work may be done in a state. -/
def JobState.Counts (state : JobState) (completed total : UInt64) : Prop :=
  completed ≤ total ∧
    match state with
    | .ready => completed = 0
    | .running => completed < total
    | .complete => completed = total
    | .cancelled | .failed => True
    | .undeclared _ => False

theorem validJobProgress_iff (descriptor : JobDescriptor) (progress : JobProgress) :
    validJobProgress descriptor progress = true ↔
      progress.state.Counts progress.completedWorkUnits descriptor.totalWorkUnits ∧
        progress.remainingWorkUnits =
          descriptor.totalWorkUnits - progress.completedWorkUnits := by
  unfold validJobProgress JobState.Counts
  cases progress.state <;> simp [validJobState] <;> tauto

theorem StateCapsuleMetadata.validProgress_iff (metadata : StateCapsuleMetadata) :
    metadata.validProgress = true ↔ validJobDescriptor metadata.descriptor = true ∧
      metadata.state.Counts metadata.completedWorkUnits metadata.descriptor.totalWorkUnits := by
  unfold StateCapsuleMetadata.validProgress JobState.Counts
  cases metadata.state <;> simp [validJobState] <;> tauto

/-- Every state of a job has a result code that may report it. -/
theorem resultCode_fits {state : JobState} {completed total : UInt64}
    (counts : state.Counts completed total) :
    validJobResultCode (resultCode state) = true ∧ (resultCode state).compatible state = true := by
  cases state with
  | undeclared => exact counts.2.elim
  | _ => decide

namespace CooperativeJob

variable {κ : Type}

/-- The state and the progress of a job fit its descriptor. -/
structure Valid (job : CooperativeJob) : Prop where
  descriptor : validJobDescriptor job.descriptor = true
  counts : job.state.Counts job.completedWorkUnits job.descriptor.totalWorkUnits

variable {job : CooperativeJob}

theorem Valid.progress (valid : job.Valid) : validJobProgress job.descriptor job.progress = true :=
  (validJobProgress_iff _ _).mpr ⟨valid.counts, rfl⟩

theorem valid_of_bind {descriptor : JobDescriptor} (bound : bind descriptor = .ok job) :
    job = { descriptor } ∧ job.Valid := by
  unfold CooperativeJob.bind at bound
  split at bound
  · cases bound
  · next accepted =>
      cases bound
      exact ⟨rfl, by simpa using accepted, UInt64.zero_le, rfl⟩

/-! ## What a call does to a job -/

/-- A call keeps a job valid, leaves no final state and undoes no work. -/
structure Moves (before after : CooperativeJob) : Prop where
  descriptor : after.descriptor = before.descriptor
  valid : before.Valid → after.Valid
  final : terminal before.state = true → after = before
  grows : before.Valid → before.completedWorkUnits ≤ after.completedWorkUnits

theorem Moves.refl (job : CooperativeJob) : Moves job job :=
  ⟨rfl, id, fun _ => rfl, fun _ => UInt64.le_refl _⟩

theorem Moves.trans {first second third : CooperativeJob} (before : Moves first second)
    (after : Moves second third) : Moves first third where
  descriptor := after.descriptor.trans before.descriptor
  valid := after.valid ∘ before.valid
  final ended := by
    have same := before.final ended
    rw [← same] at ended
    exact (after.final ended).trans same
  grows valid := UInt64.le_trans (before.grows valid) (after.grows (before.valid valid))

/-- A job that ends without doing more work. -/
theorem moves_end {state : JobState} (running : terminal job.state = false)
    (ends : state = .cancelled ∨ state = .failed) : Moves job { job with state } := by
  refine ⟨rfl, fun valid => ⟨valid.descriptor, valid.counts.1, ?_⟩, fun ended => ?_,
    fun _ => UInt64.le_refl _⟩
  · rcases ends with rfl | rfl <;> trivial
  · cases running.symm.trans ended

variable (operations : CooperativeJobOps κ)

theorem moves_start (job : CooperativeJob) (backend : κ) :
    Moves job (job.start operations backend).job := by
  unfold start
  split
  · exact .refl job
  · next ready =>
      rw [not_not] at ready
      have unended : terminal job.state = false := by rw [ready]; rfl
      dsimp only
      split
      · exact moves_end unended (.inr rfl)
      · refine ⟨rfl, fun valid => ⟨valid.descriptor, valid.counts.1, ?_⟩, fun ended => ?_,
          fun _ => UInt64.le_refl _⟩
        · have none := valid.counts.2
          rw [ready] at none
          rw [none]
          exact UInt64.pos_iff_ne_zero.mpr (validJobDescriptor_units valid.descriptor)
        · cases unended.symm.trans ended

theorem moves_cancelBefore (generation : UInt64) (job : CooperativeJob) (backend : κ) :
    Moves job (job.cancelBefore operations generation backend).1 := by
  unfold cancelBefore
  split
  · next cancelled => exact moves_end cancelled.1 (.inl rfl)
  · exact .refl job

/-- What `advance` makes of a report: the job fails, or the work is counted. -/
inductive Recorded (job : CooperativeJob) (outcome : Outcome κ) : Prop where
  | broken (units : UInt64)
      (fits : units ≤ job.descriptor.totalWorkUnits - job.completedWorkUnits)
      (failed : outcome.job =
        { job with state := .failed, completedWorkUnits := job.completedWorkUnits + units })
      (error : ∃ reason, outcome.result = .error reason)
  | counted (units : UInt64) (positive : units ≠ 0)
      (fits : units ≤ job.descriptor.totalWorkUnits - job.completedWorkUnits)
      (done : outcome.job =
        { job with
          state :=
            if job.completedWorkUnits + units = job.descriptor.totalWorkUnits then .complete
            else .running
          completedWorkUnits := job.completedWorkUnits + units })
      (ok : outcome.result = .ok outcome.job.progress)

theorem recorded_record (job : CooperativeJob) (budget : UInt64) (report : BackendAdvance)
    (backend : κ) : Recorded job (job.record budget report backend) := by
  have broken : ∀ error : JobError, Recorded job
      { job := { job with state := .failed }, backend, result := .error error } := by
    intro error
    exact .broken 0 UInt64.zero_le (by rw [UInt64.add_zero]) ⟨error, rfl⟩
  unfold record
  dsimp only
  split
  · exact broken _
  split
  · exact broken _
  split
  · exact broken _
  · next counted =>
      simp only [not_or, gt_iff_lt, UInt64.not_lt] at counted
      obtain ⟨positive, -, fits⟩ := counted
      split
      · exact .broken report.completedWorkUnits fits rfl ⟨_, rfl⟩
      · refine .counted report.completedWorkUnits positive fits ?_ rfl
        simp only [decide_eq_true_eq]

/-- What `advance` does to a running job. -/
inductive Advanced (budget generation : UInt64) (job : CooperativeJob) (outcome : Outcome κ) :
    Prop where
  | cancelled (newer : generation > job.descriptor.generation)
      (same : outcome.job = { job with state := .cancelled })
  | refused (empty : budget = 0) (same : outcome.job = job)
      (error : ∃ reason, outcome.result = .error reason)
  | worked (recorded : Recorded job outcome)

theorem advanced_advance (budget generation : UInt64) (running : job.state = .running)
    (backend : κ) :
    Advanced budget generation job (job.advance operations budget generation backend) := by
  unfold advance
  rw [if_neg (by rw [running]; decide), if_neg (not_not.mpr running)]
  split
  · next newer =>
      refine .cancelled newer ?_
      rw [cancelBefore, if_pos ⟨by rw [running]; rfl, newer⟩]
  split
  · next empty => exact .refused empty rfl ⟨_, rfl⟩
  · exact .worked (recorded_record job _ _ _)

theorem Recorded.moves {outcome : Outcome κ} (recorded : Recorded job outcome)
    (running : job.state = .running) : Moves job outcome.job := by
  have unended : terminal job.state = false := by rw [running]; rfl
  -- The work that a report adds stays within the total.
  have adds : ∀ units : UInt64, job.Valid →
      units ≤ job.descriptor.totalWorkUnits - job.completedWorkUnits →
      job.completedWorkUnits ≤ job.completedWorkUnits + units ∧
        job.completedWorkUnits + units ≤ job.descriptor.totalWorkUnits := by
    intro units valid fits
    obtain ⟨sum, inside⟩ := toNat_add_of_le_sub valid.counts.1 fits
    simp only [UInt64.le_iff_toNat_le, sum]
    omega
  cases recorded with
  | broken units fits failed error =>
      rw [failed]
      exact ⟨rfl, fun valid => ⟨valid.descriptor, (adds units valid fits).2, trivial⟩,
        fun ended => (nomatch unended.symm.trans ended), fun valid => (adds units valid fits).1⟩
  | counted units positive fits done =>
      rw [done]
      refine ⟨rfl, fun valid => ⟨valid.descriptor, (adds units valid fits).2, ?_⟩,
        fun ended => (nomatch unended.symm.trans ended), fun valid => (adds units valid fits).1⟩
      have inside := (adds units valid fits).2
      by_cases all : job.completedWorkUnits + units = job.descriptor.totalWorkUnits
      · rw [if_pos all]
        exact all
      · rw [if_neg all]
        exact UInt64.lt_of_le_of_ne inside all

theorem moves_advance (budget generation : UInt64) (job : CooperativeJob) (backend : κ) :
    Moves job (job.advance operations budget generation backend).job := by
  by_cases running : job.state = .running
  · cases job.advanced_advance operations budget generation running backend with
    | cancelled newer same =>
        rw [same]
        exact moves_end (by rw [running]; rfl) (.inl rfl)
    | refused empty same =>
        rw [same]
        exact .refl job
    | worked recorded => exact recorded.moves running
  · unfold advance
    split
    · exact .refl job
    · exact .refl job

/-- A capsule that can be read carries a state that fits its descriptor. -/
theorem counts_of_read {source : List UInt8} {capsule : StateCapsuleView}
    (read : readStateCapsule source = .ok capsule) :
    capsule.metadata.state.Counts capsule.metadata.completedWorkUnits
      capsule.metadata.descriptor.totalWorkUnits := by
  simp only [readStateCapsule, readStateCapsuleWith, ite_error_eq_ok, Bool.not_eq_false] at read
  obtain ⟨-, -, -, -, -, -, valid, ⟨⟩⟩ := read
  exact ((StateCapsuleMetadata.validProgress_iff _).mp valid).2

/-- What `restore_capsule` does: it leaves a job that it refuses as it was. -/
inductive Restored (job : CooperativeJob) (outcome : Outcome κ) : Prop where
  | refused (same : outcome.job = job) (error : ∃ reason, outcome.result = .error reason)
  | loaded (ready : job.state = .ready) (state : JobState) (completed : UInt64)
      (counts : state.Counts completed job.descriptor.totalWorkUnits)
      (same : outcome.job = { job with state, completedWorkUnits := completed })
      (ok : outcome.result = .ok outcome.job.progress)

theorem restored_restoreCapsule (source : List UInt8) (job : CooperativeJob) (backend : κ) :
    Restored job (job.restoreCapsule operations source backend) := by
  unfold restoreCapsule
  split
  · exact .refused rfl ⟨_, rfl⟩
  · next ready =>
      rw [not_not] at ready
      split
      · exact .refused rfl ⟨_, rfl⟩
      · next capsule read =>
          split
          · exact .refused rfl ⟨_, rfl⟩
          split
          · exact .refused rfl ⟨_, rfl⟩
          · next same =>
              dsimp only
              split
              · exact .refused rfl ⟨_, rfl⟩
              · refine .loaded ready _ _ ?_ rfl rfl
                have total : job.descriptor.totalWorkUnits =
                    capsule.metadata.descriptor.totalWorkUnits := by
                  simp only [Bool.not_eq_false, sameDescriptor, decide_eq_true_eq] at same
                  exact same.2.2.2.2.2.2.2
                rw [total]
                exact counts_of_read read

theorem moves_restoreCapsule (source : List UInt8) (job : CooperativeJob) (backend : κ) :
    Moves job (job.restoreCapsule operations source backend).job := by
  cases job.restored_restoreCapsule operations source backend with
  | refused same =>
      rw [same]
      exact .refl job
  | loaded ready state completed counts same =>
      rw [same]
      refine ⟨rfl, fun valid => ⟨valid.descriptor, counts⟩, fun ended => ?_, fun valid => ?_⟩
      · rw [ready] at ended
        cases ended
      · have none := valid.counts.2
        rw [ready] at none
        rw [none]
        exact UInt64.zero_le

/-! ## Calls in sequence -/

/-- The calls of a job. -/
inductive JobCall where
  | start
  | advance (workBudget cancelBeforeGeneration : UInt64)
  | cancelBefore (generation : UInt64)
  | exportCapsule (destination : List UInt8)
  | restoreCapsule (source : List UInt8)

/-- The job and the backend after a call. -/
def JobCall.apply (operations : CooperativeJobOps κ) (job : CooperativeJob) (backend : κ) :
    JobCall → CooperativeJob × κ
  | .start =>
      let outcome := job.start operations backend
      (outcome.job, outcome.backend)
  | .advance workBudget cancelBeforeGeneration =>
      let outcome := job.advance operations workBudget cancelBeforeGeneration backend
      (outcome.job, outcome.backend)
  | .cancelBefore generation => job.cancelBefore operations generation backend
  | .exportCapsule _ => (job, backend)
  | .restoreCapsule source =>
      let outcome := job.restoreCapsule operations source backend
      (outcome.job, outcome.backend)

/-- A sequence of calls. The callbacks may behave differently at each. -/
def run (job : CooperativeJob) (backend : κ) :
    List (CooperativeJobOps κ × JobCall) → CooperativeJob × κ
  | [] => (job, backend)
  | (operations, call) :: rest =>
      let (job, backend) := call.apply operations job backend
      run job backend rest

theorem run_append (first second : List (CooperativeJobOps κ × JobCall)) (job : CooperativeJob)
    (backend : κ) : job.run backend (first ++ second) =
      (job.run backend first).1.run (job.run backend first).2 second := by
  induction first generalizing job backend with
  | nil => rfl
  | cons call rest ih => exact ih _ _

theorem moves_apply (job : CooperativeJob) (backend : κ) (call : JobCall) :
    Moves job (call.apply operations job backend).1 := by
  cases call with
  | start => exact job.moves_start operations backend
  | advance workBudget generation =>
      exact job.moves_advance operations workBudget generation backend
  | cancelBefore generation => exact job.moves_cancelBefore operations generation backend
  | exportCapsule => exact .refl job
  | restoreCapsule source => exact job.moves_restoreCapsule operations source backend

theorem moves_run (calls : List (CooperativeJobOps κ × JobCall)) (job : CooperativeJob)
    (backend : κ) : Moves job (job.run backend calls).1 := by
  induction calls generalizing job backend with
  | nil => exact .refl job
  | cons call rest ih => exact (moves_apply call.1 job backend call.2).trans (ih _ _)

/-! ## Progress -/

/-- An advance of a running job that is counted lowers the remaining work. -/
theorem Recorded.lowers {outcome : Outcome κ} (valid : job.Valid) (recorded : Recorded job outcome)
    {progress : JobProgress} (ok : outcome.result = .ok progress) :
    outcome.job.progress.remainingWorkUnits < job.progress.remainingWorkUnits := by
  cases recorded with
  | broken units fits failed error =>
      obtain ⟨reason, failed⟩ := error
      cases failed.symm.trans ok
  | counted units positive fits done _ =>
      obtain ⟨sum, inside⟩ := toNat_add_of_le_sub valid.counts.1 fits
      have more : 0 < units.toNat := UInt64.lt_iff_toNat_lt.mp (UInt64.pos_iff_ne_zero.mpr positive)
      have within : job.completedWorkUnits + units ≤ job.descriptor.totalWorkUnits := by
        rw [UInt64.le_iff_toNat_le, sum]
        exact inside
      rw [done]
      rw [UInt64.lt_iff_toNat_lt]
      show (job.descriptor.totalWorkUnits - (job.completedWorkUnits + units)).toNat <
        (job.descriptor.totalWorkUnits - job.completedWorkUnits).toNat
      rw [UInt64.toNat_sub_of_le _ _ within, UInt64.toNat_sub_of_le _ _ valid.counts.1, sum]
      omega

theorem Valid.terminal_or_running (valid : job.Valid) (started : job.state ≠ .ready) :
    terminal job.state = true ∨ job.state = .running := by
  have counts := valid.counts.2
  cases state : job.state with
  | ready => exact absurd state started
  | running => exact .inr rfl
  | undeclared =>
      rw [state] at counts
      exact counts.elim
  | _ => exact .inl rfl

/-- An advance with a budget ends a running job or lowers its remaining work. -/
theorem advance_ends_or_lowers {budget : UInt64} (generation : UInt64) (valid : job.Valid)
    (running : job.state = .running) (backend : κ) (positive : budget ≠ 0) :
    let after := (job.advance operations budget generation backend).job
    terminal after.state = true ∨ (after.state = .running ∧
      after.progress.remainingWorkUnits < job.progress.remainingWorkUnits) := by
  intro after
  cases job.advanced_advance operations budget generation running backend with
  | cancelled newer same => exact .inl (congrArg (terminal ·.state) same)
  | refused empty => exact absurd empty positive
  | worked recorded =>
      cases recorded with
      | broken units fits failed => exact .inl (congrArg (terminal ·.state) failed)
      | counted units counts fits done ok =>
          have lower := Recorded.lowers valid (.counted units counts fits done ok) ok
          have state := congrArg CooperativeJob.state done
          by_cases all : job.completedWorkUnits + units = job.descriptor.totalWorkUnits
          · rw [if_pos all] at state
            exact .inl (congrArg terminal state)
          · rw [if_neg all] at state
            exact .inr ⟨state, lower⟩

/-- A loop of advances ends after as many calls as there is work left. -/
theorem run_advances {calls : List (CooperativeJobOps κ × JobCall)}
    (advances : ∀ call ∈ calls, ∃ budget generation,
      call.2 = .advance budget generation ∧ budget ≠ 0) (valid : job.Valid)
    (started : job.state ≠ .ready) (enough : job.progress.remainingWorkUnits.toNat ≤ calls.length)
    (backend : κ) : terminal (job.run backend calls).1.state = true := by
  induction calls generalizing job backend with
  | nil =>
      rcases valid.terminal_or_running started with ended | running
      · exact ended
      · have counts := valid.counts.2
        rw [running] at counts
        have left : job.progress.remainingWorkUnits.toNat =
            job.descriptor.totalWorkUnits.toNat - job.completedWorkUnits.toNat :=
          UInt64.toNat_sub_of_le _ _ valid.counts.1
        rw [left, List.length_nil] at enough
        have less := UInt64.lt_iff_toNat_lt.mp counts
        omega
  | cons call rest ih =>
      obtain ⟨operations, call⟩ := call
      obtain ⟨budget, generation, rfl, positive⟩ := advances _ List.mem_cons_self
      -- From a final state on, the job stays as it is.
      have stays : ∀ (ended : CooperativeJob) (backend : κ), terminal ended.state = true →
          terminal (ended.run backend rest).1.state = true := by
        intro ended backend final
        rw [(moves_run rest ended backend).final final]
        exact final
      have moved := job.moves_advance operations budget generation backend
      rcases valid.terminal_or_running started with ended | running
      · refine stays _ _ ?_
        rw [moved.final ended]
        exact ended
      · rcases advance_ends_or_lowers operations generation valid running backend positive with
          ended | ⟨still, lower⟩
        · exact stays _ _ ended
        · refine ih (fun each member => advances each (List.mem_cons_of_mem _ member))
            (moved.valid valid) (by rw [still]; decide) ?_ _
          have less := UInt64.lt_iff_toNat_lt.mp lower
          rw [List.length_cons] at enough
          omega

/-! ## Capsules and results -/

/-- A capsule restores the job that wrote it. -/
theorem restoreCapsule_exported {source payload : List UInt8}
    (read : readStateCapsule source = .ok { metadata := job.metadata.carried, payload })
    (started : job.state ≠ .ready) (operations : CooperativeJobOps κ) {backend : κ}
    (loads : (operations.loadState backend payload).1 = true) :
    restoreCapsule operations source { descriptor := job.descriptor } backend =
      { job, backend := (operations.loadState backend payload).2, result := .ok job.progress } := by
  unfold restoreCapsule
  rw [if_neg (by simp), read]
  dsimp only
  rw [if_neg (by exact started), if_neg (by simp [sameDescriptor, StateCapsuleMetadata.carried,
    metadata]), loads, if_neg (by decide)]
  rfl

end CooperativeJob

/-- A bound job that is still valid can be reported unless its payload is too large. -/
theorem RoutedJob.writeResult_of_valid {κ : Type} {routed : RoutedJob κ}
    (valid : routed.job.Valid) (serviceClass : validJobServiceClass routed.serviceClass = true)
    (backend : κ) (timestampNs : UInt64) :
    (((routed.operations.result backend).length > routed.maxResultBytes.toNat ∨
        (routed.operations.result backend).length > maxJobPayloadBytes) ∧
      routed.writeResult backend timestampNs = .error .dimensionExceeded) ∨
    ∃ message, routed.writeResult backend timestampNs = .ok message ∧
      message.validate = .success := by
  unfold RoutedJob.writeResult
  dsimp only
  split
  · next large => exact .inl ⟨large, rfl⟩
  · next fits =>
      obtain ⟨code, compatible⟩ := resultCode_fits valid.counts
      right
      have built : ∃ message, makeJobResult routed.sequence routed.job.descriptor
          routed.job.progress timestampNs (resultCode routed.job.progress.state)
          (routed.operations.result backend) routed.serviceClass = .ok message := by
        unfold makeJobResult
        rw [if_neg, if_neg (fun large => fits (.inr large))]
        · exact ⟨_, rfl⟩
        · simp only [not_or, Bool.not_eq_false]
          exact ⟨valid.descriptor, valid.progress, code, compatible, serviceClass⟩
      obtain ⟨message, built⟩ := built
      exact ⟨message, built, validate_makeJobResult built⟩

namespace CooperativeJob

variable {κ : Type}

/-- **Robustness.** After any calls, with callbacks that do anything at each of them, the
progress of a job is valid; no later call leaves a final state or undoes work; an advance of a
running job that succeeds and does not cancel it lowers the remaining work, so that a loop of
advances with a budget ends within as many calls as there are units of work; an exported
capsule can be read and restores the job; a job that refuses to restore a capsule is left as it
was; and a result is refused for its size only. -/
theorem cooperative_job_robust {descriptor : JobDescriptor} {job : CooperativeJob}
    (bound : CooperativeJob.bind descriptor = .ok job) (backend : κ)
    (calls : List (CooperativeJobOps κ × JobCall)) :
    let reached := (job.run backend calls).1
    validJobProgress descriptor reached.progress = true ∧
    (∀ more, let later := (job.run backend (calls ++ more)).1
      (terminal reached.state = true → later = reached) ∧
        reached.completedWorkUnits ≤ later.completedWorkUnits ∧
        later.completedWorkUnits ≤ descriptor.totalWorkUnits) ∧
    (∀ operations budget generation state progress, reached.state = .running →
      let outcome := reached.advance operations budget generation (state : κ)
      outcome.result = .ok progress → progress.state ≠ .cancelled →
        progress.remainingWorkUnits < reached.progress.remainingWorkUnits) ∧
    (∀ (advances : List (CooperativeJobOps κ × JobCall)) (state : κ), reached.state ≠ .ready →
      (∀ call ∈ advances, ∃ budget generation,
        call.2 = .advance budget generation ∧ budget ≠ 0) →
      descriptor.totalWorkUnits.toNat ≤ advances.length →
        terminal (reached.run state advances).1.state = true) ∧
    (∀ operations (state : κ) destination storage count,
      reached.exportCapsule operations state destination = (storage, .ok count) →
      ∃ capsule, readStateCapsule (storage.take count) = .ok capsule ∧
        ∀ (loader : CooperativeJobOps κ) (start : κ),
          (loader.loadState start capsule.payload).1 = true →
          let outcome := job.restoreCapsule loader (storage.take count) start
          outcome.job = reached ∧ outcome.result = .ok reached.progress) ∧
    (∀ operations source (state : κ) error, reached.state = .ready →
      let outcome := reached.restoreCapsule operations source state
      outcome.result = .error error →
        outcome.job.state = .ready ∧ outcome.job.completedWorkUnits = 0) ∧
    (∀ (registry : JobAdapterRegistry κ) request start routed (state : κ) timestampNs,
      (registry.bind request start).1 = .ok routed → request.metadata.descriptor = descriptor →
      let ended := { routed with job := reached }
      (((ended.operations.result state).length > ended.maxResultBytes.toNat ∨
          (ended.operations.result state).length > maxJobPayloadBytes) ∧
        ended.writeResult state timestampNs = .error .dimensionExceeded) ∨
      ∃ message, ended.writeResult state timestampNs = .ok message ∧
        message.validate = .success) := by
  intro reached
  obtain ⟨shape, valid⟩ := valid_of_bind bound
  have moved : Moves job reached := moves_run calls job backend
  have here : reached.Valid := moved.valid valid
  have same : reached.descriptor = descriptor := by rw [moved.descriptor, shape]
  refine ⟨same ▸ here.progress, fun more => ?_, ?_, ?_, ?_, ?_, ?_⟩
  · have onward := moves_run more reached (job.run backend calls).2
    rw [run_append]
    refine ⟨onward.final, onward.grows here, ?_⟩
    have bounded := (onward.valid here).counts.1
    rwa [onward.descriptor, same] at bounded
  · intro operations budget generation state progress running outcome ok uncancelled
    have reports := reached.reports_advance operations budget generation state progress ok
    rw [reports.1] at uncancelled ⊢
    cases reached.advanced_advance operations budget generation running state with
    | cancelled newer ended =>
        exact absurd (congrArg CooperativeJob.state ended) uncancelled
    | refused empty unchanged error =>
        obtain ⟨reason, failed⟩ := error
        cases failed.symm.trans ok
    | worked recorded => exact recorded.lowers here ok
  · intro advances state started each enough
    refine run_advances each here started (Nat.le_trans ?_ enough) state
    have left : reached.progress.remainingWorkUnits.toNat =
        reached.descriptor.totalWorkUnits.toNat - reached.completedWorkUnits.toNat :=
      UInt64.toNat_sub_of_le _ _ here.counts.1
    rw [left, same]
    exact Nat.sub_le _ _
  · intro operations state destination storage count exported
    obtain ⟨-, started, buffer, -, read⟩ := exportCapsule_read exported
    refine ⟨_, read, fun loader start loads => ?_⟩
    have restored := restoreCapsule_exported read started loader loads
    rw [same, ← shape] at restored
    rw [restored]
    exact ⟨rfl, rfl⟩
  · intro operations source state error ready outcome failed
    cases reached.restored_restoreCapsule operations source state with
    | refused unchanged =>
        have none := here.counts.2
        rw [ready] at none
        rw [unchanged]
        exact ⟨ready, none⟩
    | loaded _ state completed counts changed ok => cases ok.symm.trans failed
  · intro registry request start routed state timestampNs routes named
    obtain ⟨-, -, serviceClass, accepted⟩ := JobAdapterRegistry.bind_ok routes
    have service := (JobRequestMessage.valid_of_validate accepted).serviceClass
    rw [← serviceClass] at service
    intro ended
    have still : ended.job.Valid := here
    exact RoutedJob.writeResult_of_valid still service state timestampNs

/-- A backend that reports more work than it was asked for. -/
def boastfulOps : CooperativeJobOps Unit where
  begin := fun _ => (true, ())
  advance := fun _ budget => ({ step := .complete, completedWorkUnits := budget + 1 }, ())
  cancel := id
  stateBytes := fun _ => 0
  saveState := fun _ _ => (true, fun _ => 0)
  loadState := fun _ _ => (true, ())

def boastedDescriptor : JobDescriptor where
  kind := .iterative
  modelDigest := Vector.replicate 16 1
  stateSchema := 1
  totalWorkUnits := 2

/-- A job whose backend reports too much has failed, and its progress is valid. -/
theorem cooperative_job_robust_example :
    let reached := (run { descriptor := boastedDescriptor } ()
      [(boastfulOps, .start), (boastfulOps, .advance 1 0)]).1
    CooperativeJob.bind boastedDescriptor = .ok { descriptor := boastedDescriptor } ∧
      reached.state = .failed ∧
      validJobProgress boastedDescriptor reached.progress = true := by
  intro reached
  have bound : CooperativeJob.bind boastedDescriptor =
      .ok { descriptor := boastedDescriptor } := rfl
  exact ⟨bound, rfl, (cooperative_job_robust bound () _).1⟩

end CooperativeJob

end FlowEdge
