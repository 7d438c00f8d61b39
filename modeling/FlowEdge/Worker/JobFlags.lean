import FlowEdge.Worker.JobMoves

/-!
# The flags of the lanes

Draining, migration and quarantine are flags that several operations and the lane itself
set and clear. This module says what a step may do to the flags of each lane, and derives
that the flags stay consistent and that a queued request always has a lane that may take
it.
-/

namespace FlowEdge

open Words

variable {κ : Type}

namespace Slot

/-- A drained, quarantined or exporting lane is draining, and only such a lane is asked to
migrate. -/
structure Flags (slot : Slot κ) : Prop where
  drained : slot.state = .drained → slot.drainRequested = true
  quarantined : slot.quarantined = true → slot.drainRequested = true
  migrating : slot.migrateRequested = true → slot.drainRequested = true
  exporting : slot.state = .migrationReady ∨ slot.thread = .exported →
    slot.drainRequested = true

/-- An idle lane is not draining. -/
def Rested (slot : Slot κ) : Prop := slot.state = .idle → slot.drainRequested = false

/-- The lane takes requests off the queue. -/
def InService (slot : Slot κ) : Prop := slot.quarantined = false ∧ slot.drainRequested = false

theorem Flags.inService {slot : Slot κ} (flags : slot.Flags)
    (accepting : slot.drainRequested = false) :
    slot.InService := by
  refine ⟨?_, accepting⟩
  rw [← Bool.not_eq_true]
  intro quarantined
  rw [flags.quarantined quarantined] at accepting
  cases accepting

/-- What a step may do to a lane. It goes out of service only if it was `removable`, and a
quarantined lane gets no request and stays in quarantine until it is recovered. -/
structure LaneStep (removable : Prop) (old new : Slot κ) : Prop where
  registry : new.registry = old.registry
  flags : old.Flags → new.Flags
  service : old.InService → new.InService ∨ removable
  quarantine : old.Flags → old.quarantined = true →
    (new.quarantined = true ∧ ∀ entry, new.claim = some entry → old.claim = some entry) ∨
      (old.state = .drained ∧ new = JobWorkerPool.recoverDrained old)

/-- A step that leaves an idle lane in service. -/
structure CalmStep (removable : Prop) (old new : Slot κ) : Prop
    extends LaneStep removable old new where
  rested : old.Rested → new.Rested

variable {removable : Prop}

theorem CalmStep.refl (slot : Slot κ) : CalmStep removable slot slot where
  registry := rfl
  flags := id
  service := .inl
  quarantine _ quarantined := .inl ⟨quarantined, fun _ => id⟩
  rested := id

/-- The fields that supervision and draining concern. -/
def duties (slot : Slot κ) : JobAdapterRegistry κ × Bool × Bool :=
  (slot.registry, slot.quarantined, slot.drainRequested)

/-- A step that leaves supervision and draining alone. -/
theorem CalmStep.of_duties {old new : Slot κ} (same : new.duties = old.duties)
    (migrating : old.Flags → new.migrateRequested = true → old.drainRequested = true)
    (state : old.Flags → new.state = .drained ∨ new.state = .migrationReady ∨
      new.thread = .exported → old.drainRequested = true)
    (idle : new.state = .idle → old.state = .idle)
    (claim : old.drainRequested = true → ∀ entry, new.claim = some entry → old.claim = some entry) :
    CalmStep removable old new := by
  simp only [duties, Prod.mk.injEq] at same
  obtain ⟨registry, quarantined, draining⟩ := same
  refine ⟨⟨registry, fun flags => ?_, fun service => .inl ?_, fun flags isQuarantined => .inl ?_⟩,
    ?_⟩
  · rw [← draining] at migrating state
    refine ⟨fun drained => state flags (.inl drained), ?_, migrating flags,
      fun exporting => state flags (.inr exporting)⟩
    rw [quarantined, draining]
    exact flags.quarantined
  · rwa [InService, quarantined, draining]
  · exact ⟨quarantined.trans isQuarantined, claim (flags.quarantined isQuarantined)⟩
  · intro rested isIdle
    exact draining.trans (rested (idle isIdle))

/-- Most changes leave all flags alone. -/
theorem CalmStep.of_same {old new : Slot κ} (same : new.duties = old.duties)
    (migrating : new.migrateRequested = old.migrateRequested) (state : new.state = old.state)
    (thread : new.thread = old.thread) (claim : new.claim = old.claim) :
    CalmStep removable old new := by
  refine .of_duties same (fun flags isMigrating => ?_) (fun flags => ?_) (fun idle => state ▸ idle)
    fun _ entry held => claim ▸ held
  · exact flags.migrating (migrating ▸ isMigrating)
  · rw [state, thread]
    rintro (drained | exporting)
    · exact flags.drained drained
    · exact flags.exporting exporting

/-- The step neither asks the lane to migrate nor lets it export unasked. -/
def Unasked (old new : Slot κ) : Prop :=
  (new.migrateRequested = true → old.migrateRequested = true) ∧
    (new.state = .migrationReady ∨ new.thread = .exported →
      (old.state = .migrationReady ∨ old.thread = .exported) ∨ old.migrateRequested = true)

theorem unasked_continueRun (slot : Slot κ) (routed : RoutedJob κ)
    (progress : Except JobError JobProgress) (nowNs : UInt64) :
    Unasked slot (slot.continueRun routed progress nowNs) := by
  have writes : Unasked slot (slot.writeResult routed nowNs) :=
    ⟨id, fun exporting => .inl (exporting.imp_right nofun)⟩
  unfold continueRun
  split
  · exact writes
  split
  · split
    · exact ⟨id, fun exporting => .inl (exporting.imp_right nofun)⟩
    · next asked =>
        simp only [not_or, Bool.not_eq_false] at asked
        unfold exportJob
        dsimp only
        split <;> exact ⟨id, fun _ => .inr asked.2⟩
  · exact writes

theorem unasked_runSlot (slot : Slot κ) (nowNs : UInt64) : Unasked slot (slot.runSlot nowNs) := by
  -- A step to a thread that is not exporting, with no change of the state.
  have quietly : ∀ {new : Slot κ}, new.migrateRequested = slot.migrateRequested →
      new.state = slot.state → new.thread ≠ .exported → Unasked slot new := by
    intro new migrating state thread
    exact ⟨fun asked => migrating ▸ asked, fun exporting =>
      .inl (.inl (state ▸ exporting.resolve_right thread))⟩
  unfold runSlot
  split
  · split
    · unfold bindRequest
      dsimp only
      split <;> exact quietly rfl rfl nofun
    · exact ⟨id, .inl⟩
  · exact ⟨id, nofun⟩
  · unfold checkCancel
    split <;> exact quietly rfl rfl nofun
  · exact slot.unasked_continueRun _ _ nowNs
  · exact quietly rfl rfl nofun
  · unfold advanceOne
    dsimp only
    split <;> exact quietly rfl rfl nofun
  · next thread => exact ⟨id, fun _ => .inl (.inr thread)⟩
  · exact ⟨nofun, fun exporting => .inl (exporting.imp_right nofun)⟩
  · exact quietly rfl rfl nofun
  · exact ⟨id, nofun⟩

theorem CalmStep.runSlot {slot : Slot κ} (sound : slot.Sound) (nowNs : UInt64) :
    CalmStep removable slot (slot.runSlot nowNs) := by
  refine .of_duties (by simp [duties]) (fun flags => ?_) (fun flags => ?_) (fun idle => ?_)
    fun _ entry => by rw [claim_runSlot sound nowNs]; exact id
  · exact fun migrating => flags.migrating ((slot.unasked_runSlot nowNs).1 migrating)
  · rintro (drained | exporting)
    · apply flags.drained
      rcases slot.state_runSlot nowNs with state | state | state | state <;> simp_all
    · rcases (slot.unasked_runSlot nowNs).2 exporting with before | migrating
      · exact flags.exporting before
      · exact flags.migrating migrating
  · rw [sound.runSlot_eq_of_idle idle] at idle
    exact idle

end Slot

namespace JobWorkerPool

/-! ## Steps, lane by lane -/

/-- Every lane changed as the relation allows. -/
structure Lanewise (relation : Nat → Slot κ → Slot κ → Prop) (before after : JobWorkerPool κ) :
    Prop where
  length : after.slots.length = before.slots.length
  lanes : ∀ (index : Nat) (old new : Slot κ), before.slots[index]? = some old →
    after.slots[index]? = some new → relation index old new

namespace Lanewise

variable {relation : Nat → Slot κ → Slot κ → Prop} {before after : JobWorkerPool κ} {index : Nat}
  {slot : Slot κ}

section Changes

variable (reflexive : ∀ index slot, relation index slot slot)
include reflexive

theorem of_eq (same : after.slots = before.slots) : Lanewise relation before after := by
  refine ⟨congrArg List.length same, fun index old new found again => ?_⟩
  rw [same] at again
  cases found.symm.trans again
  exact reflexive index old

theorem of_logged (logged : Logged before after) : Lanewise relation before after := by
  obtain ⟨events, rfl⟩ := logged
  exact of_eq reflexive rfl

theorem of_set {other : Slot κ} (found : before.slots[index]? = some slot)
    (same : after.slots = before.slots.set index other) (changed : relation index slot other) :
    Lanewise relation before after := by
  refine ⟨by rw [same, List.length_set], fun lane old new was becomes => ?_⟩
  rw [same] at becomes
  by_cases here : index = lane
  · subst here
    cases found.symm.trans was
    cases (found_setSlot found other).symm.trans becomes
    exact changed
  · rw [List.getElem?_set_ne here] at becomes
    cases was.symm.trans becomes
    exact reflexive lane old

/-- Two lanes changed. -/
theorem of_set_set {first second : Nat} {target other taken : Slot κ}
    (found : before.slots[first]? = some slot) (targetFound : before.slots[second]? = some target)
    (same : after.slots = (before.slots.set first other).set second taken)
    (changed : relation first slot other) (targetChanged : relation second target taken) :
    Lanewise relation before after := by
  refine ⟨by rw [same, List.length_set, List.length_set], fun lane old new was becomes => ?_⟩
  rw [same] at becomes
  by_cases here : second = lane
  · subst here
    cases targetFound.symm.trans was
    obtain ⟨bound, -⟩ := List.getElem?_eq_some_iff.mp targetFound
    rw [List.getElem?_set_self (by rwa [List.length_set])] at becomes
    cases becomes
    exact targetChanged
  · rw [List.getElem?_set_ne here] at becomes
    have moved : Lanewise relation before (before.setSlot first other) :=
      of_set reflexive found rfl changed
    exact moved.lanes lane old new was becomes

theorem of_modify (found : before.slots[index]? = some slot) {update : Slot κ → Slot κ}
    (changed : relation index slot (update slot)) :
    Lanewise relation before (before.modifySlot index update) :=
  of_set reflexive found (modify_eq_set found update) changed

theorem of_lane {nowNs : UInt64} (runs : ∀ slot, before.slots[index]? = some slot →
      relation index slot (slot.runSlot nowNs)) :
    Lanewise relation before (before.modifySlot index (·.runSlot nowNs)) := by
  cases found : before.slots[index]? with
  | none => exact of_eq reflexive (by rw [modifySlot_eq_self found])
  | some slot => exact of_modify reflexive found (runs slot found)

end Changes

theorem mono {wider : Nat → Slot κ → Slot κ → Prop} (lanewise : Lanewise relation before after)
    (included : ∀ index old new, relation index old new → wider index old new) :
    Lanewise wider before after :=
  ⟨lanewise.length, fun index old new was becomes =>
    included index old new (lanewise.lanes index old new was becomes)⟩

theorem trans (transitive : ∀ index first second third, relation index first second →
      relation index second third → relation index first third) {middle : JobWorkerPool κ}
    (one : Lanewise relation before middle) (two : Lanewise relation middle after) :
    Lanewise relation before after := by
  refine ⟨two.length.trans one.length, fun index old new was becomes => ?_⟩
  obtain ⟨bound, -⟩ := List.getElem?_eq_some_iff.mp was
  have between := List.getElem?_eq_getElem (one.length.symm ▸ bound)
  exact transitive index old _ new (one.lanes index old _ was between)
    (two.lanes index _ new between becomes)

/-- Where a lane comes from. -/
theorem earlier (lanewise : Lanewise relation before after) {new : Slot κ}
    (found : after.slots[index]? = some new) :
    ∃ old, before.slots[index]? = some old ∧ relation index old new := by
  obtain ⟨bound, -⟩ := List.getElem?_eq_some_iff.mp found
  have was := List.getElem?_eq_getElem (lanewise.length ▸ bound)
  exact ⟨_, was, lanewise.lanes index _ new was found⟩

theorem later (lanewise : Lanewise relation before after) {old : Slot κ}
    (found : before.slots[index]? = some old) :
    ∃ new, after.slots[index]? = some new ∧ relation index old new := by
  obtain ⟨bound, -⟩ := List.getElem?_eq_some_iff.mp found
  have becomes := List.getElem?_eq_getElem (lanewise.length.symm ▸ bound)
  exact ⟨_, becomes, lanewise.lanes index old _ found becomes⟩

/-- What every lane keeps holds for all lanes. -/
theorem forall_slots (lanewise : Lanewise relation before after) {holds : Slot κ → Prop}
    (kept : ∀ index old new, relation index old new → holds old → holds new)
    (start : ∀ slot ∈ before.slots, holds slot) : ∀ slot ∈ after.slots, holds slot := by
  intro slot member
  obtain ⟨index, found⟩ := List.mem_iff_getElem?.mp member
  obtain ⟨old, was, step⟩ := lanewise.earlier found
  exact kept index old slot step (start old (List.mem_of_getElem? was))

end Lanewise

/-- One lane may leave, if no queued request needs it. -/
def Leaves (pool : JobWorkerPool κ) (leaving index : Nat) : Prop :=
  index = leaving ∧ pool.canRemoveWorker index = true

section Calm

variable {pool : JobWorkerPool κ} {leaving : Nat}

/-- What the lanes do in a quiet step. -/
abbrev Calm (pool : JobWorkerPool κ) (leaving : Nat) : Nat → Slot κ → Slot κ → Prop :=
  fun index => Slot.CalmStep (pool.Leaves leaving index)

theorem Calm.refl (index : Nat) (slot : Slot κ) : Calm pool leaving index slot slot :=
  Slot.CalmStep.refl slot

theorem duties_launched (pool : JobWorkerPool κ) (slot : Slot κ) (position : Nat) (nowNs : UInt64) :
    (pool.launched slot position nowNs).duties = slot.duties ∧
      (pool.launched slot position nowNs).migrateRequested = false ∧
      (pool.launched slot position nowNs).thread = slot.thread ∧
      ((pool.launched slot position nowNs).state = .requested ∨
        (pool.launched slot position nowNs).state = .ready) := by
  have written : ∀ (assigned : Slot κ) (code : JobResultCode),
      (rejectSlot assigned nowNs code).duties = assigned.duties ∧
        (rejectSlot assigned nowNs code).migrateRequested = assigned.migrateRequested ∧
        (rejectSlot assigned nowNs code).thread = assigned.thread := by
    intro assigned code
    unfold rejectSlot writeRejection
    split <;> exact ⟨rfl, rfl, rfl⟩
  unfold launched launch
  dsimp only
  split
  · obtain ⟨duties, migrating, thread⟩ := written (assign slot _ _ nowNs) .rejectedStale
    exact ⟨duties, migrating, thread, .inr rfl⟩
  split
  · obtain ⟨duties, migrating, thread⟩ := written (assign slot _ _ nowNs) .rejectedDeadline
    exact ⟨duties, migrating, thread, .inr rfl⟩
  · exact ⟨rfl, rfl, rfl, .inl rfl⟩

theorem calm_launched {removable : Prop} (sound : pool.Sound) {index : Nat} {slot : Slot κ}
    (found : pool.slots[index]? = some slot) (idle : slot.state = .idle)
    (accepting : slot.drainRequested = false) (position : Nat) (nowNs : UInt64) :
    Slot.CalmStep removable slot (pool.launched slot position nowNs) := by
  obtain ⟨duties, migrating, thread, state⟩ := pool.duties_launched slot position nowNs
  have waiting := (sound.lane found).waits idle
  refine .of_duties duties (fun _ asked => ?_) (fun _ exporting => ?_) (fun isIdle => ?_)
    fun draining => ?_
  · rw [migrating] at asked
    cases asked
  · rw [thread, waiting] at exporting
    rcases state with state | state <;> simp [state] at exporting
  · rcases state with state | state <;> simp [state] at isIdle
  · rw [accepting] at draining
    cases draining

theorem calm_vacant {removable : Prop} {slot : Slot κ} (waiting : slot.thread = .waiting) :
    Slot.CalmStep removable slot (vacant { slot with remainingWorkUnits := 0 }) := by
  have cleared : (vacant { slot with remainingWorkUnits := 0 }).claim = none :=
    claim_of_vacated (state_vacant _)
  have thread := (thread_vacant { slot with remainingWorkUnits := 0 }).trans waiting
  by_cases draining : slot.drainRequested = true
  · have shape : vacant { slot with remainingWorkUnits := 0 } =
        { slot with
          remainingWorkUnits := 0, migrationSource := noWorker, resumeCompletedWorkUnits := 0,
          sessionId := 0, generation := 0, state := .drained } := if_pos draining
    rw [shape] at cleared ⊢
    refine .of_duties rfl (fun _ _ => draining) (fun _ _ => draining) nofun fun _ entry held => ?_
    rw [cleared] at held
    cases held
  · have shape : vacant { slot with remainingWorkUnits := 0 } =
        { slot with
          remainingWorkUnits := 0, migrationSource := noWorker, resumeCompletedWorkUnits := 0,
          state := .idle } := if_neg draining
    rw [shape] at cleared thread ⊢
    have inService := Bool.not_eq_true _ ▸ draining
    refine ⟨⟨rfl, fun flags => ⟨nofun, flags.quarantined, flags.migrating, ?_⟩, .inl,
      fun flags quarantined => absurd (flags.quarantined quarantined) draining⟩,
      fun _ _ => inService⟩
    rintro (state | exporting)
    · cases state
    · cases thread.symm.trans exporting

end Calm

variable {before after : JobWorkerPool κ}

theorem QuietStep.calm (sound : before.Sound) (step : QuietStep before after) :
    ∃ leaving, Lanewise (Calm before leaving) before after := by
  cases step with
  | lane index nowNs =>
      exact ⟨0, .of_lane Calm.refl fun slot found => .runSlot (sound.lane found) nowNs⟩
  | refuse | emitPreempted => exact ⟨0, .of_logged Calm.refl ((Logged.refl before).emit _ _)⟩
  | countQos | openSession | closeSession => exact ⟨0, .of_eq Calm.refl rfl⟩
  | preempt nowNs found =>
      exact ⟨0, .of_modify Calm.refl found (.of_same rfl rfl rfl rfl rfl)⟩
  | rejectReady nowNs found watermark session older ready =>
      obtain ⟨result, written, -, -⟩ := rejectReady_ok (sound.lane found) ready nowNs
      refine ⟨0, .of_modify Calm.refl found ?_⟩
      rw [written]
      exact .of_same rfl rfl rfl rfl rfl
  | dispatch nowNs found idle accepting =>
      obtain ⟨events, dispatchCursor, same⟩ := dispatch_eq found _ nowNs
      rw [same]
      exact ⟨0, .of_set Calm.refl found rfl (calm_launched sound found idle accepting _ nowNs)⟩
  | @handoff source destination exporter target found targetFound different exported idle accepting
      accepts fits =>
      obtain ⟨same, still⟩ := handoff_eq found targetFound different
      rw [same]
      have waits := (sound.lane targetFound).waits idle
      refine ⟨0, .of_set_set Calm.refl found targetFound rfl ?_ ?_⟩
      · have empty : (vacate exporter).claim = none := claim_of_vacated (.inr rfl)
        refine .of_duties rfl (fun flags => flags.migrating)
          (fun flags _ => flags.exporting (.inl exported)) (by rintro ⟨⟩) fun _ entry held => ?_
        rw [empty] at held
        cases held
      · refine .of_duties rfl (fun flags => flags.migrating) (fun flags exporting => ?_)
          (by rintro ⟨⟩) fun draining => ?_
        · simp [receive, waits] at exporting
        · rw [accepting] at draining
          cases draining
  | @resumeLocally index slot found exported =>
      refine ⟨0, .of_modify Calm.refl found (.of_duties rfl (by rintro _ ⟨⟩)
        (fun flags exporting => ?_) (by rintro ⟨⟩) fun _ entry => ?_)⟩
      · exact flags.exporting (.inl exported)
      · have same : (JobWorkerPool.resumeLocally slot).claim = slot.claim :=
          claim_congr (by simp [Slot.holding, exported, JobWorkerPool.resumeLocally]) rfl rfl
        exact fun held => same ▸ held
  | drainIdle found idle draining =>
      refine ⟨0, .of_modify Calm.refl found
        (.of_duties rfl (fun _ _ => draining) (fun _ _ => draining)
        (by rintro ⟨⟩) fun _ entry => ?_)⟩
      rw [claim_of_vacated (.inr rfl)]
      simp
  | requestMigration hasTarget found holding draining =>
      refine ⟨0, .of_modify Calm.refl found
        (.of_duties rfl (fun _ _ => draining) (fun _ _ => draining)
        id fun _ _ => id)⟩
  | resumeDrained found drained trusted =>
      have waits := (sound.lane found).waits drained
      refine ⟨0, .of_modify Calm.refl found
        ⟨⟨rfl, fun flags => ⟨by rintro ⟨⟩, ?_, by rintro ⟨⟩, ?_⟩, .inl ∘ ?_, ?_⟩,
        fun _ _ => rfl⟩⟩
      · exact fun quarantined => by cases trusted.symm.trans quarantined
      · rintro (state | exporting)
        · cases state
        · cases waits.symm.trans exporting
      · exact fun service => ⟨service.1, rfl⟩
      · exact fun _ quarantined => by cases trusted.symm.trans quarantined
  | recoverDrained found drained =>
      have waits := (sound.lane found).waits drained
      refine ⟨0, .of_modify Calm.refl found
        ⟨⟨rfl, fun flags => ⟨by rintro ⟨⟩, by rintro ⟨⟩, by rintro ⟨⟩, ?_⟩,
        fun _ => .inl ⟨rfl, rfl⟩, fun _ _ => .inr ⟨drained, rfl⟩⟩, fun _ _ => rfl⟩⟩
      rintro (state | exporting)
      · cases state
      · cases waits.symm.trans exporting
  | @noteFailure index slot found ready =>
      obtain ⟨consecutiveFailures, quarantined, drainRequested, _, _, ⟨flags⟩, same⟩ :=
        noteFailure_eq found
      rw [same]
      refine ⟨index, .of_set Calm.refl found rfl ?_⟩
      rcases flags with ⟨rfl, rfl⟩ | ⟨rfl, rfl, removable⟩
      · exact .of_same rfl rfl rfl rfl (claim_congr rfl rfl rfl)
      · refine ⟨⟨rfl, fun flags => ⟨fun _ => rfl, fun _ => rfl, fun _ => rfl, fun _ => rfl⟩,
          fun _ => .inr ⟨rfl, removable⟩, fun _ _ => .inl ⟨rfl, fun _ => id⟩⟩, fun _ idle => ?_⟩
        cases ready.symm.trans idle
  | @present index slot found ready valid unread =>
      obtain ⟨consecutiveFailures, _, same⟩ := present_eq found
      rw [same]
      exact ⟨0, .of_set Calm.refl found rfl (.of_same rfl rfl rfl rfl (claim_congr rfl rfl rfl))⟩

theorem Step.calm (sound : before.Sound) (step : Step before after) :
    ∃ leaving, Lanewise (Calm before leaving) before after := by
  cases step with
  | quiet step => exact step.calm sound
  | @admitRequest request timestampNs admissible =>
      obtain ⟨sessions, events, same⟩ := before.admit_eq request timestampNs
      exact ⟨0, .of_eq Calm.refl (by rw [same]; rfl)⟩
  | raise => exact ⟨0, .of_eq Calm.refl rfl⟩
  | @release index presented =>
      obtain ⟨slot, found, ready⟩ := sound.presented index presented
      have waiting := (sound.lane found).waits ready
      refine ⟨0, .of_set Calm.refl found ?_ (calm_vacant waiting)⟩
      rw [JobWorkerPool.release, found]
      exact modify_eq_set found _

/-- What a transition does to the lanes. -/
theorem Transition.lanes (sound : before.Sound) (transition : Transition before after) :
    ∃ leaving,
      Lanewise (fun index => Slot.LaneStep (before.Leaves leaving index)) before after := by
  cases transition with
  | step step =>
      obtain ⟨leaving, lanewise⟩ := step.calm sound
      exact ⟨leaving, lanewise.mono fun _ _ _ calm => calm.toLaneStep⟩
  | @beginDrain index slot found fresh removable =>
      refine ⟨index, .of_modify (fun _ slot => (Slot.CalmStep.refl slot).toLaneStep) found ?_⟩
      exact ⟨rfl, fun _ => ⟨fun _ => rfl, fun _ => rfl, fun _ => rfl, fun _ => rfl⟩,
        fun _ => .inr ⟨rfl, removable⟩, fun _ quarantined => .inl ⟨quarantined, fun _ => id⟩⟩

/-! ## Invariants -/

/-- No idle lane among the given ones is draining. -/
def RestedOn (pool : JobWorkerPool κ) (lanes : Nat → Prop) : Prop :=
  ∀ (lane : Nat) (slot : Slot κ), pool.slots[lane]? = some slot → lanes lane → slot.Rested

/-- No idle lane is draining. -/
def Rested (pool : JobWorkerPool κ) : Prop := pool.RestedOn fun _ => True

variable {pool : JobWorkerPool κ}

theorem Rested.on (rested : pool.Rested) (lanes : Nat → Prop) : pool.RestedOn lanes :=
  fun lane slot found _ => rested lane slot found trivial

theorem rested_of_split {index : Nat} (here : pool.RestedOn (· = index))
    (others : pool.RestedOn (· ≠ index)) : pool.Rested := by
  intro lane slot found _
  by_cases same : lane = index
  · exact here lane slot found same
  · exact others lane slot found same

theorem Step.restedOn (sound : before.Sound) (step : Step before after) {lanes : Nat → Prop}
    (rested : before.RestedOn lanes) : after.RestedOn lanes := by
  obtain ⟨leaving, lanewise⟩ := step.calm sound
  intro lane slot found chosen
  obtain ⟨old, was, calm⟩ := lanewise.earlier found
  exact calm.rested (rested lane old was chosen)

theorem RestedOn.modifySlot {index : Nat} (rested : pool.RestedOn (· ≠ index))
    (update : Slot κ → Slot κ) : (pool.modifySlot index update).RestedOn (· ≠ index) := by
  intro lane slot found different
  exact rested lane slot ((List.getElem?_modify_ne _ _ different.symm).symm.trans found) different

theorem restedOn_of_found {index : Nat} {slot : Slot κ} (found : pool.slots[index]? = some slot)
    (rested : slot.Rested) : pool.RestedOn (· = index) := by
  rintro lane other here rfl
  cases found.symm.trans here
  exact rested

theorem Transition.flags (sound : before.Sound) (transition : Transition before after)
    (flags : ∀ slot ∈ before.slots, slot.Flags) : ∀ slot ∈ after.slots, slot.Flags := by
  obtain ⟨leaving, lanewise⟩ := transition.lanes sound
  exact lanewise.forall_slots (fun _ _ _ step => step.flags) flags

/-- Every queued request has a lane in service that accepts it. -/
def Served (pool : JobWorkerPool κ) : Prop :=
  ∀ queueSlot ∈ pool.queueOrder, ∃ slot ∈ pool.slots, slot.InService ∧
    slot.registry.registrationAccepts (pool.queued queueSlot) = true

/-- A request that stays in the queue keeps a lane: if its lane leaves, there was another. -/
theorem Lanewise.serves {leaving : Nat}
    (lanewise : Lanewise (fun index => Slot.LaneStep (before.Leaves leaving index)) before after)
    {queueSlot : Nat} (member : queueSlot ∈ before.queueOrder) {slot : Slot κ}
    (inside : slot ∈ before.slots) (service : slot.InService)
    (accepts : slot.registry.registrationAccepts (before.queued queueSlot) = true) :
    ∃ slot ∈ after.slots, slot.InService ∧
      slot.registry.registrationAccepts (before.queued queueSlot) = true := by
  have stays : ∀ (index : Nat) (old : Slot κ), before.slots[index]? = some old → old.InService →
      old.registry.registrationAccepts (before.queued queueSlot) = true →
      ¬ before.Leaves leaving index →
      ∃ slot ∈ after.slots, slot.InService ∧
        slot.registry.registrationAccepts (before.queued queueSlot) = true := by
    intro index old was service accepts remains
    obtain ⟨new, becomes, step⟩ := lanewise.later was
    exact ⟨new, List.mem_of_getElem? becomes, (step.service service).resolve_right remains,
      step.registry ▸ accepts⟩
  obtain ⟨index, found⟩ := List.mem_iff_getElem?.mp inside
  by_cases leaves : before.Leaves leaving index
  · obtain ⟨rfl, removable⟩ := leaves
    obtain ⟨other, candidate, different, here, trusted, accepting, takes⟩ :=
      (canRemoveWorker_iff found).mp removable queueSlot member accepts
    exact stays other candidate here ⟨trusted, accepting⟩ takes fun leaves => different leaves.1
  · exact stays index slot found service accepts leaves

theorem Served.admitRequest (sound : pool.Sound) (flags : ∀ slot ∈ pool.slots, slot.Flags)
    (served : pool.Served) {request : JobRequestMessage} (admissible : pool.Admissible request)
    (timestampNs : UInt64) : (pool.admitRequest request timestampNs).Served := by
  obtain ⟨sessions, events, same⟩ := pool.admit_eq request timestampNs
  obtain ⟨fresh, order, -, here, others⟩ := sound.enqueue admissible.room request
  rw [same]
  intro queueSlot member
  have member : queueSlot ∈ (pool.enqueue request).queueOrder := member
  show ∃ slot ∈ pool.slots, slot.InService ∧
    slot.registry.registrationAccepts ((pool.enqueue request).queued queueSlot) = true
  rw [order, List.mem_append, List.mem_singleton] at member
  rcases member with old | rfl
  · have request := congrArg Prod.fst (others queueSlot old)
    obtain ⟨slot, inside, service, accepts⟩ := served queueSlot old
    exact ⟨slot, inside, service, (congrArg _ request).trans accepts⟩
  · have accepting := admissible.accepting
    simp only [hasAcceptingWorker, List.any_eq_true, decide_eq_true_eq] at accepting
    obtain ⟨slot, inside, accepting, accepts⟩ := accepting
    have request := congrArg Prod.fst here
    exact ⟨slot, inside, (flags slot inside).inService accepting,
      (congrArg _ request).trans accepts⟩

theorem Transition.served (sound : before.Sound)
    (transition : Transition before after) (flags : ∀ slot ∈ before.slots, slot.Flags)
    (served : before.Served) : after.Served := by
  obtain ⟨leaving, lanewise⟩ := transition.lanes sound
  -- A transition that queues nothing.
  have kept : (∀ queueSlot ∈ after.queueOrder, queueSlot ∈ before.queueOrder ∧
      after.entryAt queueSlot = before.entryAt queueSlot) → after.Served := by
    intro queue queueSlot member
    obtain ⟨earlier, same⟩ := queue queueSlot member
    obtain ⟨slot, inside, service, accepts⟩ := served queueSlot earlier
    have request : after.queued queueSlot = before.queued queueSlot := congrArg Prod.fst same
    rw [request]
    exact lanewise.serves earlier inside service accepts
  cases transition with
  | step step =>
      cases step with
      | quiet step => exact kept (step.origin sound).queue
      | admitRequest timestampNs admissible =>
          exact served.admitRequest sound flags admissible timestampNs
      | raise => exact kept fun _ member => ⟨member, rfl⟩
      | @release index presented =>
          obtain ⟨slot, found, -⟩ := sound.presented index presented
          refine kept fun queueSlot member => ?_
          rw [JobWorkerPool.release, found] at member ⊢
          exact ⟨member, rfl⟩
  | beginDrain => exact kept fun _ member => ⟨member, rfl⟩

end JobWorkerPool

end FlowEdge
