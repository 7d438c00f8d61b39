import FlowEdge.Protocol.JobControl
import FlowEdge.Worker.JobConservation
import FlowEdge.Worker.JobService

/-!
# Administration of the worker pool

The control service turns a request into an operation on the pool and answers with the
status of the lanes. This module proves what an administrator may rely on: the flags of
the lanes fit together, so that every response is well formed, a quarantined lane gets no
work until it is recovered, and no queued request is left without a lane.
-/

namespace FlowEdge

open Words BitMasks StatePrograms

variable {κ : Type}

/-- The code of a response to a drain request. -/
def mapDrainResult : WorkerDrainResult → JobControlCode
  | .started => .success
  | .alreadyDraining => .alreadyDraining
  | .wouldStrandWork => .wouldStrandWork
  | .invalidWorker => .invalidWorker

/-- The code of a response to a recovery request. -/
def mapRecoveryResult : WorkerRecoveryResult → JobControlCode
  | .recovered => .success
  | .notQuarantined => .workerNotQuarantined
  | .notDrained => .workerNotDrained
  | .invalidWorker => .invalidWorker

namespace JobWorkerPool

/-- The lanes that are not told to drain. -/
def acceptingWorkerCount (pool : JobWorkerPool κ) : Nat :=
  pool.slots.countP fun slot => slot.drainRequested = false

/-- The states that the status counts as busy. -/
def LaneState.busy (state : LaneState) : Bool :=
  state = .requested ∨ state = .running ∨ state = .migrationReady

/-- `busy_count`: the lanes run while it counts. -/
def busyCount : List Nat → PoolM κ Nat
  | [] => return 0
  | index :: rest => do
      let some slot ← loadSlot index | return 0
      let others ← busyCount rest
      return (if LaneState.busy slot.state then 1 else 0) + others

end JobWorkerPool

namespace JobControlService

open JobWorkerPool

/-- Enter a lane into the masks. -/
def noteLane (bound : Bool) (index : Nat) (slot : Slot κ) (status : JobControlStatus) :
    JobControlStatus :=
  { status with
    drainingMask := note slot.drainRequested index status.drainingMask
    drainedMask := note (slot.state = .drained) index status.drainedMask
    boundMask := note bound index status.boundMask
    quarantinedMask := note slot.quarantined index status.quarantinedMask }

/-- The loop of `capture_status` over the lanes. Whether a lane is bound to a processor is its
own affair. -/
def captureMasks (bound : Nat → Bool) : List Nat → JobControlStatus → PoolM κ JobControlStatus
  | [], status => return status
  | index :: rest, status => do
      let some slot ← loadSlot index | return status
      captureMasks bound rest (noteLane (bound index) index slot status)

/-- The counts, masks and statistics of a response, taken lane by lane. -/
def captureStatus (bound : Nat → Bool) (stats : JobTransportStats) : PoolM κ JobControlStatus := do
  let pool ← getPool
  let lanes := List.range pool.slots.length
  let busy ← busyCount lanes
  let masks ← captureMasks bound lanes
    { workerCount := UInt32.ofNat pool.slots.length
      acceptingWorkers := UInt32.ofNat pool.acceptingWorkerCount
      busyWorkers := UInt32.ofNat busy
      queuedJobs := UInt32.ofNat pool.queueOrder.length }
  return { masks with
    workerFailures := pool.failureCount
    workerQuarantines := pool.quarantineCount
    qosRejections := pool.qosRejectionCount
    requestsReceived := stats.requestsReceived
    requestsAccepted := stats.requestsAccepted
    requestsRejected := stats.requestsRejected
    resultsPublished := stats.resultsPublished
    corruptInputs := stats.corruptInputs
    publishBlocked := stats.publishBlocked }

/-- What the service does for a valid request, and the code that it answers with. -/
def perform (operation : JobControlOperation) (workerIndex : Nat) : PoolM κ JobControlCode :=
  match operation with
  | .drainWorker => do return mapDrainResult (← requestWorkerDrain workerIndex)
  | .resumeWorker => do
      match (← getPool).slots[workerIndex]? with
      | none => return .invalidWorker
      | some slot =>
          if slot.quarantined then return .workerQuarantined
          else do
            let resumed ← resumeWorker workerIndex
            return if resumed then .success else .workerNotDrained
  | .recoverWorker => do return mapRecoveryResult (← recoverWorker workerIndex)
  | .status => return .success
  | .shutdown => return .success
  | .undeclared _ => return .success

/-- `build_response`. That a shutdown stops the service after the response does not show in it. -/
def buildResponse (bound : Nat → Bool) (stats : JobTransportStats) (request : JobControlRequest) :
    PoolM κ JobControlResponse := do
  let code ← perform request.metadata.operation request.metadata.workerIndex.toNat
  let status ← captureStatus bound stats
  return {
    envelope := {
      kind := .jobControlResponse
      structSize := UInt32.ofNat jobControlResponseBytes
      sequence := request.envelope.sequence
      sessionId := request.envelope.sessionId }
    metadata := {
      operation := request.metadata.operation
      code
      workerIndex := request.metadata.workerIndex
      status } }

/-! ## What the operations do -/

/-- What an operation looks at. To resume or to recover a lane its state is loaded, before which
the lanes run. -/
def lookedAt (world : World κ) : JobControlOperation → World κ
  | .resumeWorker => world.interfere
  | .recoverWorker => world.interfere
  | _ => world

/-- The code that answers an operation on a lane. -/
def answerCode (pool : JobWorkerPool κ) (index : Nat) : JobControlOperation → JobControlCode
  | .drainWorker =>
      match pool.slots[index]? with
      | none => .invalidWorker
      | some slot =>
          if slot.drainRequested then .alreadyDraining
          else if pool.canRemoveWorker index then .success
          else .wouldStrandWork
  | .resumeWorker =>
      match pool.slots[index]? with
      | none => .invalidWorker
      | some slot =>
          if slot.quarantined then .workerQuarantined
          else if slot.state = .drained then .success
          else .workerNotDrained
  | .recoverWorker =>
      match pool.slots[index]? with
      | none => .invalidWorker
      | some slot =>
          if slot.quarantined = false then .workerNotQuarantined
          else if slot.state = .drained then .success
          else .workerNotDrained
  | _ => .success

/-- The command of the pool that an operation is. A lane in quarantine is not resumed. -/
def operationCommands (pool : JobWorkerPool κ) (index : Nat) :
    JobControlOperation → List PoolCommand
  | .drainWorker => [.requestWorkerDrain index]
  | .resumeWorker =>
      if pool.slots[index]?.any (·.quarantined = false) then [.resumeWorker index] else []
  | .recoverWorker => [.recoverWorker index]
  | _ => []

/-- How an operation that succeeds changes its lane. -/
def laneChange : JobControlOperation → Option (Slot κ → Slot κ)
  | .drainWorker => some fun slot => { slot with drainRequested := true }
  | .resumeWorker => some fun slot =>
      { slot with migrateRequested := false, drainRequested := false, state := .idle }
  | .recoverWorker => some fun slot =>
      { slot with
        consecutiveFailures := 0, quarantined := false
        migrateRequested := false, drainRequested := false, state := .idle }
  | _ => none

variable {world : World κ}

/-- Lanes do not change whether they are in quarantine. -/
theorem quarantined_interfere (sound : world.pool.Sound) (index : Nat) :
    world.interfere.pool.slots[index]?.map (·.quarantined) =
      world.pool.slots[index]?.map (·.quarantined) := by
  have stable : Stable fun pool : JobWorkerPool κ => pool.slots[index]?.map (·.quarantined) =
      world.pool.slots[index]?.map (·.quarantined) := by
    intro pool lane nowNs _ same
    show ((pool.modifySlot lane _).slots[index]?).map _ = _
    rw [getElem?_modifySlot, ← same]
    split
    · rw [Option.map_map]
      congr 1
      funext slot
      exact slot.runSlot_quarantined nowNs
    · rfl
  exact (follows_yield stable world sound rfl).2

/-- The operation answers with its code, is its command of the pool, and makes its change of the
lane if it succeeds. -/
structure Operates (operation : JobControlOperation) (index : Nat) (world : World κ) : Prop where
  code : ((perform operation index).run world).1 =
    answerCode (lookedAt world operation).pool index operation
  commands : ((perform operation index).run world).2 =
    ((PoolCommand.execAll (operationCommands world.pool index operation)).run world).2
  lane : answerCode (lookedAt world operation).pool index operation = .success →
    ∀ update, laneChange operation = some update →
      ((lookedAt world operation).change (·.modifySlot index update)).moments <+:
        ((perform operation index).run world).2.moments

theorem operates_drainWorker (sound : world.pool.Sound) (index : Nat) :
    Operates .drainWorker index world := by
  suffices drained : mapDrainResult ((requestWorkerDrain index).run world).1 =
      answerCode world.pool index .drainWorker ∧
      (answerCode world.pool index .drainWorker = .success →
        (world.change (·.modifySlot index beginDrain)).moments <+:
          ((requestWorkerDrain index).run world).2.moments) by
    refine ⟨drained.1, rfl, fun success update chosen => ?_⟩
    cases chosen
    exact drained.2 success
  rw [run_requestWorkerDrain, answerCode]
  cases found : world.pool.slots[index]? with
  | none => exact ⟨rfl, nofun⟩
  | some slot =>
      by_cases draining : slot.drainRequested = true
      · simp only [if_pos draining]
        exact ⟨rfl, nofun⟩
      by_cases removable : world.pool.canRemoveWorker index = true
      · have drains : Transition world.pool (world.pool.modifySlot index beginDrain) :=
          .beginDrain found (Bool.not_eq_true _ ▸ draining) removable
        obtain ⟨path, started, -⟩ := follows_finishDrain index
          (world.change (·.modifySlot index beginDrain)) (drains.sound sound) (at_beginDrain found)
        simp only [if_neg draining, removable, Bool.true_eq_false, if_false, if_true]
        exact ⟨congrArg mapDrainResult started, fun _ => (quiet κ).moments_prefix_of_path path⟩
      · simp only [if_neg draining, Bool.not_eq_true _ ▸ removable, if_true]
        exact ⟨rfl, nofun⟩

theorem sound_interfere (sound : world.pool.Sound) : world.interfere.pool.Sound :=
  (quiet κ).good_of_path (follows_yield Stable.top world sound trivial).1 sound

/-- What `pump` does comes after the change of the lane. -/
theorem moments_prefix_pump (sound : world.pool.Sound) {index : Nat} {update : Slot κ → Slot κ}
    (step : QuietStep world.pool (world.pool.modifySlot index update)) :
    (world.change (·.modifySlot index update)).moments <+:
      (pump.run (world.change (·.modifySlot index update))).2.moments :=
  (quiet κ).moments_prefix_of_path
    (steps_pump (world.change (·.modifySlot index update)) (step.sound sound) trivial).1

theorem run_perform_resumeWorker (index : Nat) (world : World κ) :
    (perform .resumeWorker index).run world =
      match world.pool.slots[index]? with
      | none => (.invalidWorker, world)
      | some slot =>
          if slot.quarantined then (.workerQuarantined, world)
          else
            (if ((resumeWorker index).run world).1 then .success else .workerNotDrained,
              ((resumeWorker index).run world).2) := by
  unfold perform
  dsimp only
  rw [run_getPool]
  cases world.pool.slots[index]? with
  | none => rfl
  | some slot =>
      dsimp only
      split <;> rfl

theorem operates_resumeWorker (sound : world.pool.Sound) (index : Nat) :
    Operates .resumeWorker index world := by
  have same := quarantined_interfere sound index
  suffices resumed : ((perform .resumeWorker index).run world).1 =
      answerCode world.interfere.pool index .resumeWorker ∧
      ((perform .resumeWorker index).run world).2 = ((PoolCommand.execAll
        (operationCommands world.pool index .resumeWorker)).run world).2 ∧
      (answerCode world.interfere.pool index .resumeWorker = .success →
        (world.interfere.change (·.modifySlot index resumeDrained)).moments <+:
          ((perform .resumeWorker index).run world).2.moments) by
    refine ⟨resumed.1, resumed.2.1, fun success update chosen => ?_⟩
    cases chosen
    exact resumed.2.2 success
  rw [run_perform_resumeWorker, answerCode, operationCommands]
  cases found : world.pool.slots[index]? with
  | none =>
      rw [found, Option.map_none, Option.map_eq_none_iff] at same
      rw [same]
      exact ⟨rfl, rfl, nofun⟩
  | some slot =>
      rw [found, Option.map_some, Option.map_eq_some_iff] at same
      obtain ⟨loaded, here, quarantined⟩ := same
      by_cases untrusted : slot.quarantined = true
      · simp only [here, quarantined, untrusted, if_true, Option.any_some, Bool.true_eq_false,
          decide_false, Bool.false_eq_true, if_false]
        exact ⟨trivial, rfl, nofun⟩
      rw [Bool.not_eq_true] at untrusted
      rw [untrusted] at quarantined
      have command : ((PoolCommand.execAll [.resumeWorker index]).run world).2 =
          ((resumeWorker index).run world).2 := rfl
      simp only [here, quarantined, untrusted, Option.any_some, decide_true, if_true,
        Bool.false_eq_true, if_false, command, run_resumeWorker, false_or]
      by_cases drained : loaded.state = .drained
      · simp only [drained, ne_eq, not_true_eq_false, if_false, if_true, true_and]
        exact fun _ => moments_prefix_pump (sound_interfere sound)
          (.resumeDrained here drained quarantined)
      · simp only [drained, ne_eq, not_false_eq_true, if_true, if_false, true_and]
        exact ⟨rfl, nofun⟩

theorem operates_recoverWorker (sound : world.pool.Sound) (index : Nat) :
    Operates .recoverWorker index world := by
  suffices recovered : mapRecoveryResult ((recoverWorker index).run world).1 =
      answerCode world.interfere.pool index .recoverWorker ∧
      (answerCode world.interfere.pool index .recoverWorker = .success →
        (world.interfere.change (·.modifySlot index recoverDrained)).moments <+:
          ((recoverWorker index).run world).2.moments) by
    refine ⟨recovered.1, rfl, fun success update chosen => ?_⟩
    cases chosen
    exact recovered.2 success
  rw [run_recoverWorker, answerCode]
  cases found : world.interfere.pool.slots[index]? with
  | none => exact ⟨rfl, nofun⟩
  | some slot =>
      by_cases trusted : slot.quarantined = false
      · simp only [if_pos trusted]
        exact ⟨rfl, nofun⟩
      by_cases drained : slot.state = .drained
      · simp only [if_neg trusted, drained, ne_eq, not_true_eq_false, if_false, if_true]
        exact ⟨rfl, fun _ => moments_prefix_pump (sound_interfere sound)
          (.recoverDrained found drained (Bool.not_eq_false _ ▸ trusted))⟩
      · simp only [if_neg trusted, drained, ne_eq, not_false_eq_true, if_true, if_false]
        exact ⟨rfl, nofun⟩

theorem operates_perform (sound : world.pool.Sound) (operation : JobControlOperation)
    (index : Nat) :
    Operates operation index world := by
  cases operation with
  | drainWorker => exact operates_drainWorker sound index
  | resumeWorker => exact operates_resumeWorker sound index
  | recoverWorker => exact operates_recoverWorker sound index
  | status | shutdown | undeclared => exact ⟨rfl, rfl, nofun⟩

/-! ## Reading the status -/

section Pauses

variable {α β : Type}

/-- The program only lets the lanes run. -/
def Pauses (program : PoolM κ α) : Prop :=
  ∀ world, ∃ pauses, (program.run world).2 =
    ((PoolCommand.execAll (List.replicate pauses .pause)).run world).2

theorem Pauses.ret (value : α) : Pauses (pure value : PoolM κ α) := fun _ => ⟨0, rfl⟩

theorem Pauses.bind {program : PoolM κ α} {next : α → PoolM κ β} (first : Pauses program)
    (second : ∀ value, Pauses (next value)) : Pauses (program >>= next) := by
  intro world
  obtain ⟨earlier, before⟩ := first world
  obtain ⟨later, after⟩ := second (program.run world).1 (program.run world).2
  refine ⟨earlier + later, ?_⟩
  rw [List.replicate_add, PoolCommand.execAll_append, ← before]
  exact after

theorem pauses_loadSlot (index : Nat) : Pauses (loadSlot index : PoolM κ (Option (Slot κ))) :=
  fun _ => ⟨1, rfl⟩

theorem pauses_busyCount (lanes : List Nat) : Pauses (busyCount lanes : PoolM κ Nat) := by
  induction lanes with
  | nil => exact .ret 0
  | cons index rest ih =>
      refine (pauses_loadSlot index).bind fun loaded => ?_
      cases loaded with
      | none => exact .ret 0
      | some slot => exact ih.bind fun _ => .ret _

theorem pauses_captureMasks (bound : Nat → Bool) (lanes : List Nat) (status : JobControlStatus) :
    Pauses (captureMasks bound lanes status : PoolM κ JobControlStatus) := by
  induction lanes generalizing status with
  | nil => exact .ret status
  | cons index rest ih =>
      refine (pauses_loadSlot index).bind fun loaded => ?_
      cases loaded with
      | none => exact .ret status
      | some slot => exact ih _

theorem pauses_captureStatus (bound : Nat → Bool) (stats : JobTransportStats) :
    Pauses (captureStatus bound stats : PoolM κ JobControlStatus) := by
  have reading : Pauses (getPool : PoolM κ (JobWorkerPool κ)) := fun _ => ⟨0, rfl⟩
  refine reading.bind fun pool => (pauses_busyCount _).bind fun busy => ?_
  exact (pauses_captureMasks bound _ _).bind fun _ => .ret _

end Pauses

end JobControlService

/-! ## Invariants of the lanes -/

namespace JobWorkerPool

/-- The flags of every lane fit together. -/
def Flagged (pool : JobWorkerPool κ) : Prop := ∀ slot ∈ pool.slots, slot.Flags

theorem flagged_fresh (config : Config κ) : (fresh config).Flagged := by
  intro slot member
  obtain ⟨lane, -, rfl⟩ := List.mem_map.mp member
  exact ⟨nofun, nofun, nofun, by simp⟩

theorem Stable.flagged : Stable fun pool : JobWorkerPool κ => pool.Flagged :=
  fun index nowNs sound => (Transition.step (.quiet (.lane _ index nowNs))).flags sound

theorem Transition.length {before after : JobWorkerPool κ} (sound : before.Sound)
    (transition : Transition before after) : after.slots.length = before.slots.length := by
  obtain ⟨leaving, lanewise⟩ := transition.lanes sound
  exact lanewise.length

theorem length_of_create {config : Config κ} {pool : JobWorkerPool κ}
    (created : create config = .ok pool) : pool.slots.length ≤ 8 := by
  have same := create_ok created
  unfold create at created
  split at created
  · cases created
  · next few =>
      simp only [not_or] at few
      simpa [same, fresh] using few.2

/-- **No stranded work.** At every moment of every run each queued request has a lane that is
neither draining nor quarantined and accepts its route and size. -/
theorem queued_requests_never_stranded {config : Config κ} {pool : JobWorkerPool κ}
    (created : create config = .ok pool) (clockNs : UInt64) (schedule : List (List LaneMove))
    (readings : List UInt64) (commands : List PoolCommand) :
    ∀ moment ∈ (PoolCommand.runFrom pool clockNs schedule readings commands).moments,
      ∀ queueSlot ∈ moment.queueOrder, ∃ slot ∈ moment.slots,
        slot.drainRequested = false ∧ slot.quarantined = false ∧
          slot.registry.registrationAccepts (moment.queued queueSlot) = true := by
  obtain ⟨traced, -⟩ := traced_runFrom created clockNs schedule readings commands
  have served := traced.invariant (fun pool => pool.Flagged ∧ pool.Served)
    (create_ok created ▸ ⟨flagged_fresh config, by simp [Served, fresh]⟩)
    fun sound transition known =>
      ⟨Transition.flags sound transition known.1, transition.served sound known.1 known.2⟩
  intro moment member queueSlot queued
  obtain ⟨slot, inside, ⟨trusted, accepting⟩, accepts⟩ := (served moment member).2 queueSlot queued
  exact ⟨slot, inside, accepting, trusted, accepts⟩

/-- The only lane of a pool is busy when another request is queued and the lane is to drain. -/
theorem queued_requests_never_stranded_example :
    let world := PoolCommand.runFrom (fresh eagerConfig) 0 [] [1]
      [.submit (eagerRequest 1) 0, .submit (eagerRequest 1) 0, .requestWorkerDrain 0]
    create eagerConfig = .ok (fresh eagerConfig) ∧ world.pool.queueOrder = [0] ∧
      ∃ slot ∈ world.pool.slots, slot.drainRequested = false ∧ slot.quarantined = false ∧
        slot.registry.registrationAccepts (world.pool.queued 0) = true := by
  intro world
  have created : create eagerConfig = .ok (fresh eagerConfig) := rfl
  refine ⟨created, by decide, ?_⟩
  exact queued_requests_never_stranded created 0 [] [1] _ world.pool
    List.mem_concat_self 0 (by decide)

end JobWorkerPool

/-! ## Responses -/

namespace JobControlService

open JobWorkerPool

theorem follows_busyCount {pre : JobWorkerPool κ → Prop} (stable : Stable pre) (lanes : List Nat) :
    Follows pre (busyCount lanes) fun busy pool => busy ≤ lanes.length ∧ pre pool := by
  induction lanes with
  | nil => exact .ret fun _ assumed => ⟨Nat.le_refl 0, assumed⟩
  | cons index rest ih =>
      unfold busyCount
      refine follows_loadSlot stable fun loaded => ?_
      cases loaded with
      | none => exact .ret fun _ known => ⟨Nat.zero_le _, known.2⟩
      | some slot =>
          refine .bind _ (ih.weaken (fun _ _ => And.right) fun _ _ => id) fun others => ?_
          refine .ret fun pool known => ⟨?_, known.2⟩
          have few := known.1
          rw [List.length_cons]
          split <;> omega

theorem wellFormed_noteLane {status : JobControlStatus} (formed : status.WellFormed) {slot : Slot κ}
    (flags : slot.Flags) (bound : Bool) {index : Nat}
    (inside : Within (single index) (below status.workerCount)) :
    (noteLane bound index slot status).WellFormed :=
  { formed with
    draining := formed.draining.note inside
    drained := formed.drained.note_note (by simpa using flags.drained) index
    bound := formed.bound.note inside
    quarantined := formed.quarantined.note_note flags.quarantined index }

/-- The masks stay within the lanes, and within each other. -/
theorem follows_captureMasks (bound : Nat → Bool) (lanes : List Nat) (status : JobControlStatus)
    (formed : status.WellFormed)
    (inside : ∀ index ∈ lanes, Within (single index) (below status.workerCount)) :
    Follows Flagged (captureMasks bound lanes status : PoolM κ JobControlStatus)
      fun captured _ => captured.WellFormed := by
  induction lanes generalizing status with
  | nil => exact .ret fun _ _ => formed
  | cons index rest ih =>
      unfold captureMasks
      refine follows_loadSlot Stable.flagged fun loaded => ?_
      cases loaded with
      | none => exact .ret fun _ _ => formed
      | some slot =>
          refine .assuming (fun pool _ known => known.2 slot (List.mem_of_getElem? known.1))
            fun flags => ?_
          have here := wellFormed_noteLane formed flags (bound index)
            (inside index List.mem_cons_self)
          exact (ih (noteLane (bound index) index slot status) here fun each member =>
            inside each (List.mem_cons_of_mem index member)).weaken (fun _ _ => And.right)
              fun _ _ => id

theorem follows_captureStatus (bound : Nat → Bool) (stats : JobTransportStats) :
    Follows (fun pool => pool.Flagged ∧ pool.slots.length ≤ 8)
      (captureStatus bound stats : PoolM κ JobControlStatus)
      fun status _ => status.WellFormed := by
  unfold captureStatus
  refine follows_getPool fun pool => ?_
  refine .assuming (fun current _ known => ?_) fun few : pool.slots.length ≤ 8 => ?_
  · obtain ⟨rfl, -, few⟩ := known
    exact few
  have word : ∀ {count : Nat}, count ≤ 8 → (UInt32.ofNat count).toNat = count :=
    fun small => UInt32.toNat_ofNat_of_lt' (Nat.lt_of_le_of_lt small (by decide))
  have fits : ∀ {count : Nat}, count ≤ pool.slots.length →
      UInt32.ofNat count ≤ UInt32.ofNat pool.slots.length := by
    intro count fits
    rw [UInt32.le_iff_toNat_le, word few, word (fits.trans few)]
    exact fits
  have flagged : Stable fun pool : JobWorkerPool κ => pool.Flagged := Stable.flagged
  have counted := follows_busyCount flagged (List.range pool.slots.length)
  refine .bind _ (counted.weaken ?_ fun _ _ => id) fun busy => ?_
  · rintro current - ⟨rfl, flagged, -⟩
    exact flagged
  refine .assuming (fun _ _ known => ?_) fun busyFits : busy ≤ pool.slots.length => ?_
  · simpa using known.1
  refine .bind (fun captured _ => captured.WellFormed) ((follows_captureMasks bound
    (List.range pool.slots.length) _ ?_ ?_).weaken (fun _ _ => And.right) fun _ _ => id)
    fun captured => .ret fun _ formed => { formed with }
  · have none : ∀ mask, Within 0 mask := fun mask => by simp [Within]
    refine ⟨?_, fits List.countP_le_length, fits busyFits, none _, none _, none _, none _⟩
    rw [UInt32.le_iff_toNat_le, word few]
    exact few
  · exact fun index member => single_within_below (List.mem_range.mp member) (by omega)

theorem validJobControlCode_answerCode (pool : JobWorkerPool κ) (index : Nat)
    (operation : JobControlOperation) :
    validJobControlCode (answerCode pool index operation) = true := by
  cases operation <;> simp only [answerCode] <;> (repeat' split) <;> rfl

theorem follows_perform (operation : JobControlOperation) (workerIndex : Nat) :
    (system κ).Follows (fun pool => pool.Settled ∧ pool.Rested) (perform operation workerIndex)
      fun code _ => validJobControlCode code = true := by
  intro world sound known
  have operates := operates_perform sound operation workerIndex
  rw [operates.code, operates.commands]
  exact ⟨(PoolCommand.follows_execAll _ world sound known).1, validJobControlCode_answerCode _ _ _⟩

theorem follows_buildResponse (bound : Nat → Bool) (stats : JobTransportStats)
    {request : JobControlRequest} (valid : request.validate = .success) :
    (system κ).Follows (fun pool => (pool.Flagged ∧ pool.slots.length ≤ 8) ∧
        pool.Settled ∧ pool.Rested)
      (buildResponse bound stats request) fun response _ => response.validate = .success := by
  obtain ⟨operation, target⟩ := JobControlRequest.target_of_validate valid
  have performs : (system κ).Follows (fun pool => pool.Settled ∧ pool.Rested) _ _ :=
    follows_perform request.metadata.operation request.metadata.workerIndex.toNat
  have performed := System.Follows.preserving performs
    (fun pool => pool.Flagged ∧ pool.slots.length ≤ 8)
    fun sound transition known => ⟨Transition.flags sound transition known.1,
      (transition.length sound).trans_le known.2⟩
  unfold buildResponse
  refine performed.bind _ fun code => ?_
  refine .assuming (fun _ _ known => known.2) fun named => ?_
  refine .bind (fun status _ => status.WellFormed)
    ((follows_captureStatus bound stats).widen.widen.weaken
    (fun _ _ known => known.1) fun _ _ => id) fun status => .ret fun _ formed => ?_
  exact JobControlResponse.validate_of_wellFormed rfl rfl rfl operation named rfl target formed

/-- **Consistent lanes.** At every moment of every run a drained or quarantined lane is draining
and only a draining lane is asked to migrate; between the operations of the coordinator no idle
lane is draining. A quarantined lane stays so and is given no request, until it is drained and
the change is made that `recover_worker` makes when it succeeds. Therefore the response to
every valid control request is valid, whatever the transport has counted and wherever the
lanes run. -/
theorem control_responses_valid {config : Config κ} {pool : JobWorkerPool κ}
    (created : create config = .ok pool) (clockNs : UInt64) (schedule : List (List LaneMove))
    (readings : List UInt64) (commands : List PoolCommand) :
    let world := PoolCommand.runFrom pool clockNs schedule readings commands
    (∀ moment ∈ world.moments, ∀ slot ∈ moment.slots,
      (slot.state = .drained → slot.drainRequested = true) ∧
      (slot.quarantined = true → slot.drainRequested = true) ∧
      (slot.drainRequested = false → slot.migrateRequested = false)) ∧
    (∀ slot ∈ world.pool.slots, slot.state = .idle → slot.drainRequested = false) ∧
    world.moments.IsChain (fun before after => ∀ (index : Nat) (old new : Slot κ),
      before.slots[index]? = some old → after.slots[index]? = some new → old.quarantined = true →
      (new.quarantined = true ∧ ∀ entry, new.claim = some entry → old.claim = some entry) ∨
        (old.state = .drained ∧ new = recoverDrained old)) ∧
    ∀ (bound : Nat → Bool) (stats : JobTransportStats) (request : JobControlRequest),
      request.validate = .success →
      ((buildResponse bound stats request).run world).1.validate = .success := by
  intro world
  obtain ⟨traced, settled, rested⟩ : (system κ).Traced pool world ∧ world.pool.Settled ∧
      world.pool.Rested := traced_runFrom created clockNs schedule readings commands
  have lanes := traced.invariant (fun pool => pool.Flagged ∧ pool.slots.length ≤ 8)
    ⟨create_ok created ▸ flagged_fresh config, length_of_create created⟩
    fun sound transition known => ⟨Transition.flags sound transition known.1,
      (transition.length sound).trans_le known.2⟩
  have last : world.pool ∈ world.moments := List.mem_concat_self
  refine ⟨fun moment member slot inside => ?_, fun slot inside => ?_, ?_,
    fun bound stats request valid => ?_⟩
  · have flags := (lanes moment member).1 slot inside
    refine ⟨flags.drained, flags.quarantined, fun accepting => ?_⟩
    rw [← Bool.not_eq_true]
    intro migrating
    cases accepting.symm.trans (flags.migrating migrating)
  · obtain ⟨index, found⟩ := List.mem_iff_getElem?.mp inside
    exact rested index slot found trivial
  · refine (traced.stepsWith lanes).imp
      fun before after step index old new was becomes quarantined => ?_
    obtain ⟨leaving, lanewise⟩ := Transition.lanes step.2.1 step.2.2
    have flags := step.1.1 old (List.mem_of_getElem? was)
    exact (lanewise.lanes index old new was becomes).quarantine flags quarantined
  · exact (follows_buildResponse bound stats valid world (traced.good _ last)
      ⟨lanes _ last, settled, rested⟩).2

/-- A pool whose only lane is drained answers a request to recover the lane. -/
theorem control_responses_valid_example :
    let world := PoolCommand.runFrom (fresh eagerConfig) 0 [] [] [.requestWorkerDrain 0]
    let request : JobControlRequest :=
      { envelope := { kind := .jobControlRequest, structSize := 56 }
        metadata := { operation := .recoverWorker, workerIndex := 0 } }
    let response := ((buildResponse (fun _ => false) {} request).run world).1
    create eagerConfig = .ok (fresh eagerConfig) ∧ request.validate = .success ∧
      response.metadata.code = .workerNotQuarantined ∧ response.metadata.status.drainedMask = 1 ∧
      response.validate = .success := by
  have created : create eagerConfig = .ok (fresh eagerConfig) := rfl
  refine ⟨created, by decide, by decide, by decide, ?_⟩
  exact (control_responses_valid created 0 [] [] [.requestWorkerDrain 0]).2.2.2 _ {} _ (by decide)

end JobControlService

end FlowEdge
