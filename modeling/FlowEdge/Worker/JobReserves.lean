import FlowEdge.Worker.JobConservation

/-!
# Reserved places in the queue

Admission compares the free places of the queue with a number that depends on the service class
of the new request alone. What is already queued is not looked at, yet the lower classes never
take a reserved place: a request of a class enters only while the whole queue is below the
bound of its class, and no other step adds to the queue.
-/

namespace FlowEdge

open StatePrograms

theorem JobRequestMessage.declared_of_valid {request : JobRequestMessage}
    (valid : request.validate = .success) :
    request.metadata.serviceClass = .bestEffort ∨ request.metadata.serviceClass = .interactive ∨
      request.metadata.serviceClass = .critical := by
  have declared := (valid_of_validate valid).serviceClass
  cases class_ : request.metadata.serviceClass with
  | bestEffort => exact .inl rfl
  | interactive => exact .inr (.inl rfl)
  | critical => exact .inr (.inr rfl)
  | undeclared => simp [class_, validJobServiceClass] at declared

namespace JobWorkerPool

variable {κ : Type}

/-- The requests of the queue, in its order. -/
def waiting (pool : JobWorkerPool κ) : List JobRequestMessage := pool.queueOrder.map pool.queued

/-- The number of queued requests of a service class. -/
def queuedOf (pool : JobWorkerPool κ) (serviceClass : JobServiceClass) : Nat :=
  pool.waiting.countP (·.metadata.serviceClass = serviceClass)

/-! ## What a step does to the queue -/

variable {before after : JobWorkerPool κ}

theorem Transition.qosPolicy (transition : Transition before after) :
    after.qosPolicy = before.qosPolicy := by
  cases transition with
  | beginDrain => rfl
  | step step =>
      cases step with
      | quiet step => exact congrArg (·.2.1) step.kept
      | admitRequest timestampNs =>
          obtain ⟨sessions, events, same⟩ := before.admit_eq _ timestampNs
          rw [same]
          rfl
      | raise => rfl
      | @release index presented =>
          unfold JobWorkerPool.release
          split <;> rfl

variable {pool : JobWorkerPool κ} {request : JobRequestMessage}

theorem waiting_admitRequest (sound : pool.Sound)
    (room : pool.queueOrder.length ≠ pool.queueStorage.length) (timestampNs : UInt64) :
    (pool.admitRequest request timestampNs).waiting = pool.waiting ++ [request] := by
  obtain ⟨sessions, events, same⟩ := pool.admit_eq request timestampNs
  obtain ⟨queueSlot, order, -, here, others⟩ := sound.enqueue room request
  have kept : ∀ other ∈ pool.queueOrder, (pool.enqueue request).queued other = pool.queued other :=
    fun other member => congrArg Prod.fst (others other member)
  have added : (pool.enqueue request).queued queueSlot = request := congrArg Prod.fst here
  rw [same]
  show (pool.enqueue request).queueOrder.map (pool.enqueue request).queued = _
  rw [order, List.map_append, List.map_congr_left kept, List.map_singleton, added, waiting]

/-- A quiet step only takes requests off the queue. -/
theorem QuietStep.waiting (step : QuietStep before after) (sound : before.Sound) :
    after.waiting.Sublist before.waiting := by
  rcases step.moves sound with unmoved | ⟨index, position, nowNs, slot, found, -, -, rfl⟩ |
    ⟨source, destination, exporter, target, found, -, targetFound, -, different, rfl⟩
  · unfold JobWorkerPool.waiting queued
    rw [unmoved.order, unmoved.storage]
  · obtain ⟨events, dispatchCursor, same⟩ := dispatch_eq found position nowNs
    rw [same]
    exact (List.eraseIdx_sublist before.queueOrder position).map before.queued
  · rw [(handoff_eq found targetFound different).1]
    exact List.Sublist.refl _

/-- A step admits one request or only takes requests off the queue. -/
theorem Transition.waiting (transition : Transition before after) (sound : before.Sound) :
    after.waiting.Sublist before.waiting ∨
      ∃ request, before.Admissible request ∧ after.waiting = before.waiting ++ [request] := by
  cases transition with
  | beginDrain => exact .inl (List.Sublist.refl _)
  | step step =>
      cases step with
      | quiet step => exact .inl (step.waiting sound)
      | @admitRequest request timestampNs admissible =>
          exact .inr ⟨request, admissible, waiting_admitRequest sound admissible.room timestampNs⟩
      | raise => exact .inl (List.Sublist.refl _)
      | @release index presented =>
          refine .inl ?_
          unfold JobWorkerPool.release
          split <;> exact List.Sublist.refl _

/-! ## The bounds of the classes -/

/-- No class took places that are reserved for the classes above it. -/
structure Reserved (config : Config κ) (pool : JobWorkerPool κ) : Prop where
  storage : pool.queueStorage.length = config.queueCapacity
  policy : pool.qosPolicy = config.qosPolicy
  bestEffort : pool.queuedOf .bestEffort + config.qosPolicy.interactiveReserveSlots +
    config.qosPolicy.criticalReserveSlots ≤ config.queueCapacity
  belowCritical : pool.queuedOf .bestEffort + pool.queuedOf .interactive +
    config.qosPolicy.criticalReserveSlots ≤ config.queueCapacity

theorem queuedOf_mono (removed : after.waiting.Sublist before.waiting)
    (serviceClass : JobServiceClass) : after.queuedOf serviceClass ≤ before.queuedOf serviceClass :=
  removed.countP_le

theorem queuedOf_append (added : after.waiting = before.waiting ++ [request])
    (serviceClass : JobServiceClass) :
    after.queuedOf serviceClass = before.queuedOf serviceClass +
      if request.metadata.serviceClass = serviceClass then 1 else 0 := by
  rw [queuedOf, added, List.countP_append, queuedOf, List.countP_singleton]
  simp only [decide_eq_true_eq]

/-- In a sound pool each queued request is of one of the three classes. -/
theorem Sound.queue_length (sound : pool.Sound) :
    pool.queueOrder.length =
      pool.queuedOf .bestEffort + pool.queuedOf .interactive + pool.queuedOf .critical := by
  have declared : ∀ request ∈ pool.waiting, request.validate = .success := by
    intro request member
    obtain ⟨queueSlot, inside, rfl⟩ := List.mem_map.mp member
    exact sound.queue queueSlot inside
  have counted : ∀ requests : List JobRequestMessage,
      (∀ request ∈ requests, request.validate = .success) → requests.length =
        requests.countP (·.metadata.serviceClass = .bestEffort) +
          requests.countP (·.metadata.serviceClass = .interactive) +
          requests.countP (·.metadata.serviceClass = .critical) := by
    intro requests
    induction requests with
    | nil => exact fun _ => rfl
    | cons request rest ih =>
        intro valid
        have others := ih fun other member => valid other (List.mem_cons_of_mem _ member)
        rcases JobRequestMessage.declared_of_valid (valid request List.mem_cons_self) with
          same | same | same <;>
        · simp only [List.length_cons, List.countP_cons, same, others]
          simp
          omega
  have total := counted pool.waiting declared
  rwa [waiting, List.length_map] at total

/-- The queue is below the bound of the class of a request that is admitted. -/
theorem Admissible.below (admissible : pool.Admissible request) :
    pool.queueOrder.length + pool.qosPolicy.reservedSlots request.metadata.serviceClass <
      pool.queueStorage.length := by
  have room := admissible.qos
  simp only [hasQosCapacity, decide_eq_true_eq] at room
  omega

variable {config : Config κ}

theorem Reserved.admitRequest (sound : before.Sound) (reserved : before.Reserved config)
    (storage : after.queueStorage.length = before.queueStorage.length)
    (same : after.qosPolicy = before.qosPolicy) (admissible : before.Admissible request)
    (added : after.waiting = before.waiting ++ [request]) : after.Reserved config := by
  have total := sound.queue_length
  have below := admissible.below
  rw [reserved.storage, reserved.policy] at below
  have bestEffort := queuedOf_append added .bestEffort
  have interactive := queuedOf_append added .interactive
  have kept := reserved.bestEffort
  have alsoKept := reserved.belowCritical
  refine ⟨storage.trans reserved.storage, same.trans reserved.policy, ?_, ?_⟩ <;>
    rcases JobRequestMessage.declared_of_valid admissible.valid with service | service | service <;>
    simp only [service, JobQosPolicy.reservedSlots, reduceCtorEq, if_true, if_false]
      at below bestEffort interactive <;>
    omega

/-- Every step keeps the reserves. -/
theorem Transition.reserved (sound : before.Sound) (step : Transition before after)
    (reserved : before.Reserved config) : after.Reserved config := by
  have storage := step.capacity
  rcases step.waiting sound with removed | ⟨request, admissible, added⟩
  · have bestEffort := queuedOf_mono removed .bestEffort
    have interactive := queuedOf_mono removed .interactive
    have kept := reserved.bestEffort
    have alsoKept := reserved.belowCritical
    exact ⟨storage.trans reserved.storage, step.qosPolicy.trans reserved.policy, by omega, by omega⟩
  · exact reserved.admitRequest sound storage step.qosPolicy admissible added

/-- A pool is created only if its reserves leave a place in the queue. -/
theorem reserved_of_create (created : create config = .ok pool) : pool.Reserved config := by
  have fits : config.qosPolicy.interactiveReserveSlots + config.qosPolicy.criticalReserveSlots <
      config.queueCapacity := by
    simp only [create, Words.ite_error_eq_ok, not_or] at created
    omega
  obtain rfl := create_ok created
  have empty : ∀ serviceClass, (fresh config).queuedOf serviceClass = 0 := fun _ => rfl
  refine ⟨by simp [fresh], rfl, ?_, ?_⟩
  · rw [empty]
    omega
  · rw [empty, empty]
    omega

/-! ## Requests that find no place -/

/-- What `submit` looks for in the queue is not there. -/
def LacksSpace (pool : JobWorkerPool κ) (serviceClass : JobServiceClass) : Prop :=
  pool.queueOrder.length = pool.queueStorage.length ∨ pool.hasQosCapacity serviceClass = false

theorem Reserved.critical_waiting (sound : pool.Sound) (reserved : pool.Reserved config)
    (lacking : pool.LacksSpace .critical) :
    config.qosPolicy.criticalReserveSlots ≤ pool.queuedOf .critical := by
  have total := sound.queue_length
  have below := reserved.belowCritical
  have storage := reserved.storage
  rcases lacking with full | none
  · omega
  · simp only [hasQosCapacity, JobQosPolicy.reservedSlots, gt_iff_lt,
      decide_eq_false_iff_not] at none
    omega

theorem Reserved.interactive_waiting (sound : pool.Sound) (reserved : pool.Reserved config)
    (lacking : pool.LacksSpace .interactive) :
    config.qosPolicy.interactiveReserveSlots ≤
      pool.queuedOf .interactive + pool.queuedOf .critical := by
  have total := sound.queue_length
  have below := reserved.bestEffort
  have storage := reserved.storage
  rcases lacking with full | none
  · omega
  · simp only [hasQosCapacity, JobQosPolicy.reservedSlots, decide_eq_false_iff_not,
      reserved.policy] at none
    omega

/-- The answer of `submit` is that of a refusal for lack of space in the queue. `full` is also
the answer if no lane takes the request or if there is no room for its session. -/
def RefusedForSpace (pool : JobWorkerPool κ) (request : JobRequestMessage)
    (result : JobSubmitResult) : Prop :=
  result = .qosCapacity ∨
    result = .full ∧ pool.hasAcceptingWorker request = true ∧
      (pool.hasSessionCapacity request.metadata.descriptor.sessionId = true ∨
        pool.queueOrder.length = pool.queueStorage.length)

theorem not_refusedForSpace {result : JobSubmitResult} (notQos : result ≠ .qosCapacity)
    (notFull : result ≠ .full) : ¬ pool.RefusedForSpace request result := by
  rintro (qos | full)
  · exact notQos qos
  · exact notFull full.1

theorem lacksSpace_of_refused {nowNs : UInt64} {world : World κ}
    (refused : world.pool.RefusedForSpace request ((submit request nowNs).run world).1.result) :
    world.pool.LacksSpace request.metadata.serviceClass := by
  have accepted : ∀ now : World κ, ((accept request nowNs).run now).1.result = .accepted :=
    fun _ => rfl
  have rejected : ∀ (now : World κ) code result,
      ((reject request nowNs code result).run now).1.result = result := fun _ _ _ => rfl
  change world.pool.RefusedForSpace request
    (StateT.run (if _ then _ else _ : PoolM κ Submission) world).1.result at refused
  split at refused
  · exact absurd refused (not_refusedForSpace nofun nofun)
  split at refused
  · exact absurd refused (not_refusedForSpace nofun nofun)
  split at refused
  · next unserved =>
      rcases refused with qos | ⟨-, accepting, -⟩
      · cases qos
      · rw [accepting] at unserved
        cases unserved
  split at refused
  · exact absurd refused (not_refusedForSpace nofun nofun)
  split at refused
  · next lacking =>
      rcases refused with qos | ⟨-, -, session | full⟩
      · cases qos
      · exact .inl (lacking.resolve_left (by simp [session]))
      · exact .inl full
  split at refused
  · next lacking => exact .inr lacking
  rw [StateT.run_bind] at refused
  generalize (admissible request nowNs).run world = asked at refused
  change world.pool.RefusedForSpace request
    (StateT.run (if asked.1 = true then accept request nowNs else _) asked.2).1.result at refused
  split at refused
  · rw [accepted] at refused
    exact absurd refused (not_refusedForSpace nofun nofun)
  · rw [rejected] at refused
    exact absurd refused (not_refusedForSpace nofun nofun)

/-- **Reserved places.** Whatever is submitted and however it is interleaved with the lanes, the
queued requests below a class leave the reserve of the class free. So a critical request lacks
space only if critical requests fill their reserve, and an interactive one only if interactive
and critical requests fill the reserve of the interactive class. -/
theorem qos_reserves_hold {pool : JobWorkerPool κ} (created : create config = .ok pool)
    (clockNs : UInt64) (schedule : List (List LaneMove)) (readings : List UInt64)
    (commands : List PoolCommand) :
    let world := PoolCommand.runFrom pool clockNs schedule readings commands
    let interactive := config.qosPolicy.interactiveReserveSlots
    let critical := config.qosPolicy.criticalReserveSlots
    (∀ moment ∈ world.moments,
      moment.queuedOf .bestEffort + interactive + critical ≤ config.queueCapacity ∧
      moment.queuedOf .bestEffort + moment.queuedOf .interactive + critical ≤
        config.queueCapacity) ∧
    ∀ request nowNs,
      world.pool.RefusedForSpace request ((submit request nowNs).run world).1.result →
      (request.metadata.serviceClass = .critical → critical ≤ world.pool.queuedOf .critical) ∧
      (request.metadata.serviceClass = .interactive →
        interactive ≤ world.pool.queuedOf .interactive + world.pool.queuedOf .critical) := by
  intro world interactive critical
  have traced : (system κ).Traced pool world :=
    (traced_runFrom created clockNs schedule readings commands).1
  have reserved := traced.invariant (·.Reserved config) (reserved_of_create created)
    fun sound step => step.reserved sound
  refine ⟨fun moment member => ?_, fun request nowNs refused => ?_⟩
  · have kept := reserved moment member
    exact ⟨kept.bestEffort, kept.belowCritical⟩
  · have now : world.pool ∈ (system κ).moments world := List.mem_concat_self
    have lacking := lacksSpace_of_refused refused
    refine ⟨fun service => ?_, fun service => ?_⟩
    · exact (reserved _ now).critical_waiting (traced.good _ now) (service ▸ lacking)
    · exact (reserved _ now).interactive_waiting (traced.good _ now) (service ▸ lacking)

/-- Two places, one of them reserved for critical requests. -/
def reservingConfig : Config Unit where
  lanes := [(eagerRegistry, ())]
  queueCapacity := 2
  maxSessions := 1
  qosPolicy := { interactiveReserveSlots := 0, criticalReserveSlots := 1 }

/-- While a request runs and another one waits, a third one is refused. -/
theorem qos_reserves_hold_example :
    let world := PoolCommand.runFrom (fresh reservingConfig) 0 [] []
      [.submit (eagerRequest 1) 0, .submit (eagerRequest 1) 0]
    create reservingConfig = .ok (fresh reservingConfig) ∧
      world.pool.queuedOf .bestEffort = 1 ∧
      world.pool.RefusedForSpace (eagerRequest 1)
        ((submit (eagerRequest 1) 0).run world).1.result ∧
      ∀ moment ∈ world.moments, moment.queuedOf .bestEffort + 0 + 1 ≤ 2 := by
  have created : create reservingConfig = .ok (fresh reservingConfig) := rfl
  refine ⟨created, by decide, .inl (by decide), fun moment member => ?_⟩
  exact ((qos_reserves_hold created 0 _ _ _).1 moment member).1

end JobWorkerPool

end FlowEdge
