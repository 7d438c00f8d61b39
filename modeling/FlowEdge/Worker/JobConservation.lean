import FlowEdge.Foundation.Ledger
import FlowEdge.Worker.JobRuns

/-!
# No accepted job is lost or duplicated

A request that the pool accepted waits in the queue, is held by a lane, or was delivered.
Seen as a `Ledger` over these three places, a step of the pool issues a new request to the
queue, hands one over, or changes nothing; so the ledger is conserved along all runs.
-/

namespace FlowEdge

open StatePrograms

namespace JobWorkerPool

variable {κ : Type}

/-! ## The ledger of a pool -/

/-- Where an accepted request can be. -/
inductive Place where
  | queue
  | lanes
  | delivered
  deriving DecidableEq

instance : Fintype Place where
  elems := {.queue, .lanes, .delivered}
  complete place := by cases place <;> decide

/-- The request that a lane holds, with its number. -/
def claimAt (pool : JobWorkerPool κ) (index : Nat) : Option (JobRequestMessage × Nat) :=
  pool.slots[index]?.bind Slot.claim

/-- Which accepted requests are where. -/
def ledger (pool : JobWorkerPool κ) : Ledger Place JobRequestMessage where
  issued := pool.accepted
  entries
    | .queue => pool.queueOrder.map pool.entryAt
    | .lanes => pool.slots.filterMap Slot.claim
    | .delivered => pool.released.map fun delivery => (delivery.request, delivery.ticket)

/-! ## The pool refines its ledger -/

theorem filterMap_claim_perm {slots : List (Slot κ)} {index : Nat} {slot : Slot κ}
    (found : slots[index]? = some slot) (other : Slot κ) :
    ∃ rest, (slots.filterMap Slot.claim).Perm (slot.claim.toList ++ rest) ∧
      ((slots.set index other).filterMap Slot.claim).Perm (other.claim.toList ++ rest) := by
  obtain ⟨bound, rfl⟩ := List.getElem?_eq_some_iff.mp found
  have split : ∀ first : Slot κ, ((first :: slots.eraseIdx index).filterMap Slot.claim) =
      first.claim.toList ++ (slots.eraseIdx index).filterMap Slot.claim := by
    intro first
    rw [List.filterMap_cons]
    cases first.claim <;> rfl
  refine ⟨(slots.eraseIdx index).filterMap Slot.claim, ?_, ?_⟩
  · rw [← split]
    exact (List.getElem_cons_eraseIdx_perm bound).symm.filterMap _
  · rw [← split]
    exact (List.set_perm_cons_eraseIdx bound other).filterMap _

variable {before after : JobWorkerPool κ}

theorem Unmoved.claims (unmoved : Unmoved before after) :
    after.slots.map Slot.claim = before.slots.map Slot.claim := by
  refine List.ext_getElem (by simp [unmoved.length]) fun index first second => ?_
  rw [List.length_map] at first second
  rw [List.getElem_map, List.getElem_map]
  exact (unmoved.lanes index _ _ (List.getElem?_eq_getElem second)
    (List.getElem?_eq_getElem first)).1

theorem Unmoved.ledger (unmoved : Unmoved before after) : after.ledger = before.ledger := by
  obtain ⟨accepted, released⟩ := Prod.mk.inj unmoved.books
  have lanes : after.slots.filterMap Slot.claim = before.slots.filterMap Slot.claim := by
    have flat : ∀ slots : List (Slot κ), slots.filterMap Slot.claim =
        (slots.map Slot.claim).filterMap id := by simp [List.filterMap_map]
    rw [flat, flat, unmoved.claims]
  unfold JobWorkerPool.ledger entryAt queued
  rw [accepted, released, unmoved.order, unmoved.storage, unmoved.tickets, lanes]

variable {pool : JobWorkerPool κ}

theorem dispatch_ledger (sound : pool.Sound) {index position : Nat} {slot : Slot κ}
    (found : pool.slots[index]? = some slot) (idle : slot.state = .idle)
    (bound : position < pool.queueOrder.length) (nowNs : UInt64) :
    Ledger.Step pool.ledger (pool.dispatch index position nowNs).ledger := by
  obtain ⟨events, dispatchCursor, same⟩ := dispatch_eq found position nowNs
  obtain ⟨-, claim, -⟩ := launched_cases sound found idle bound nowNs
  obtain ⟨rest, before, after⟩ := filterMap_claim_perm found (pool.launched slot position nowNs)
  rw [claim_of_vacated (.inl idle)] at before
  rw [claim] at after
  rw [same]
  refine .hand .queue .lanes (pool.entryAt (pool.queueOrder.getD position 0)) (by decide) rfl
    ?_ ?_ ?_
  · have moved := (List.getElem_cons_eraseIdx_perm bound).map pool.entryAt
    rw [List.getD_eq_getElem _ _ bound]
    exact (Multiset.coe_eq_coe.mpr moved).symm
  · exact Multiset.coe_eq_coe.mpr (after.trans (before.symm.cons _))
  · intro other notQueue notLanes
    cases other with
    | queue => exact absurd rfl notQueue
    | lanes => exact absurd rfl notLanes
    | delivered => rfl

theorem handoff_ledger {source destination : Nat} {exporter target : Slot κ}
    (found : pool.slots[source]? = some exporter)
    (targetFound : pool.slots[destination]? = some target) (different : destination ≠ source)
    (exported : exporter.state = .migrationReady) (idle : target.state = .idle) :
    (pool.handoff source destination).ledger = pool.ledger := by
  obtain ⟨same, still⟩ := handoff_eq found targetFound different
  have held : exporter.claim = some (exporter.request, exporter.ticket) :=
    if_pos (Slot.holding_of exported)
  obtain ⟨rest, before, emptied⟩ := filterMap_claim_perm found (vacate exporter)
  obtain ⟨others, between, after⟩ := filterMap_claim_perm still (receive exporter target source)
  rw [held] at before
  rw [claim_of_vacated (.inr rfl)] at emptied
  rw [claim_of_vacated (.inl idle)] at between
  rw [claim_receive] at after
  have lanes : (((pool.setSlot source (vacate exporter)).setSlot destination
      (receive exporter target source)).slots.filterMap Slot.claim).Perm
      (pool.slots.filterMap Slot.claim) :=
    after.trans (((between.symm.trans emptied).append_left _).trans before.symm)
  rw [same]
  refine congrArg (Ledger.mk pool.accepted) (funext fun place => ?_)
  cases place with
  | queue => rfl
  | lanes => exact Multiset.coe_eq_coe.mpr lanes
  | delivered => rfl

theorem admit_ledger (sound : pool.Sound) {request : JobRequestMessage}
    (room : pool.queueOrder.length ≠ pool.queueStorage.length) (timestampNs : UInt64) :
    Ledger.Step pool.ledger (pool.admitRequest request timestampNs).ledger := by
  obtain ⟨sessions, events, same⟩ := pool.admit_eq request timestampNs
  obtain ⟨queueSlot, order, -, here, others⟩ := sound.enqueue room request
  have queue : ((pool.enqueue request).queueOrder.map (pool.enqueue request).entryAt).Perm
      ((request, pool.accepted.length) :: pool.queueOrder.map pool.entryAt) := by
    rw [order, List.map_append, List.map_congr_left others, List.map_singleton, here]
    exact List.perm_append_singleton _ _
  rw [same]
  refine .issue .queue request rfl ?_ ?_
  · exact Multiset.coe_eq_coe.mpr queue
  · intro other notQueue
    cases other with
    | queue => exact absurd rfl notQueue
    | lanes => rfl
    | delivered => rfl

theorem release_ledger (sound : pool.Sound) {index : Nat}
    (presented : pool.readyIndex = some index) :
    Ledger.Step pool.ledger (pool.release index).ledger := by
  obtain ⟨slot, found, ready⟩ := sound.presented index presented
  have held : slot.claim = some (slot.request, slot.ticket) :=
    if_pos (Slot.holding_of ready)
  obtain ⟨rest, before, after⟩ :=
    filterMap_claim_perm found (vacant { slot with remainingWorkUnits := 0 })
  rw [held] at before
  rw [claim_of_vacated (state_vacant _)] at after
  unfold release
  rw [found]
  rw [modifySlot_eq_setSlot found]
  refine .hand .lanes .delivered (slot.request, slot.ticket) (by decide) rfl ?_ ?_ ?_
  · exact Multiset.coe_eq_coe.mpr (before.trans (after.symm.cons _))
  · refine Multiset.coe_eq_coe.mpr ?_
    rw [List.map_append]
    exact List.perm_append_singleton _ _
  · intro other notLanes notDelivered
    cases other with
    | queue => rfl
    | lanes => exact absurd rfl notLanes
    | delivered => exact absurd rfl notDelivered

theorem Step.ledger (step : Step before after) (sound : before.Sound) :
    Ledger.Step before.ledger after.ledger := by
  cases step with
  | quiet step =>
      rcases step.moves sound with unmoved | ⟨index, position, nowNs, slot, found, idle, bound,
        rfl⟩ | ⟨source, destination, exporter, target, found, exported, targetFound, idle,
        different, rfl⟩
      · exact .same unmoved.ledger
      · exact dispatch_ledger sound found idle bound nowNs
      · exact .same (handoff_ledger found targetFound different exported idle)
  | admitRequest timestampNs admissible => exact admit_ledger sound admissible.room timestampNs
  | raise => exact .same rfl
  | release presented => exact release_ledger sound presented

/-- Each transition of a sound pool is a step of its ledger. -/
theorem Transition.ledger (transition : Transition before after) (sound : before.Sound) :
    Ledger.Step before.ledger after.ledger := by
  cases transition with
  | step step => exact step.ledger sound
  | beginDrain found => exact .same (Unmoved.beginDrain found).ledger

theorem Step.capacity (step : Step before after) :
    after.queueStorage.length = before.queueStorage.length := by
  cases step with
  | quiet step => exact congrArg (·.2.2.length) step.kept
  | admitRequest timestampNs =>
      obtain ⟨sessions, events, same⟩ := before.admit_eq _ timestampNs
      rw [same]
      exact List.length_set
  | raise => rfl
  | @release index presented =>
      unfold JobWorkerPool.release
      split <;> rfl

/-- The queue never changes its size. -/
theorem Transition.capacity (transition : Transition before after) :
    after.queueStorage.length = before.queueStorage.length := by
  cases transition with
  | step step => exact step.capacity
  | beginDrain => rfl

/-! ## Lanes -/

theorem claimAt_setSlot_ne (pool : JobWorkerPool κ) {index other : Nat} (different : index ≠ other)
    (slot : Slot κ) : (pool.setSlot index slot).claimAt other = pool.claimAt other := by
  rw [claimAt, setSlot, List.getElem?_set_ne different]
  rfl

theorem claimAt_of_found {index : Nat} {slot : Slot κ} (found : pool.slots[index]? = some slot) :
    pool.claimAt index = slot.claim := by
  rw [claimAt, found, Option.bind_some]

theorem Unmoved.claimAt (unmoved : Unmoved before after) (index : Nat) :
    after.claimAt index = before.claimAt index := by
  have same : ∀ pool : JobWorkerPool κ,
      pool.claimAt index = (pool.slots.map Slot.claim)[index]?.bind id := by
    intro pool
    rw [JobWorkerPool.claimAt, List.getElem?_map]
    cases pool.slots[index]? <;> rfl
  rw [same, same, unmoved.claims]

/-- A lane that holds a request is not given another. -/
theorem Step.claimAt (step : Step before after) (sound : before.Sound) (index : Nat) :
    before.claimAt index = none ∨ after.claimAt index = before.claimAt index ∨
      after.claimAt index = none := by
  cases step with
  | quiet step =>
      rcases step.moves sound with unmoved | ⟨lane, position, nowNs, slot, found, idle, -, rfl⟩ |
        ⟨source, destination, exporter, target, found, -, targetFound, idle, different, rfl⟩
      · exact .inr (.inl (unmoved.claimAt index))
      · by_cases here : lane = index
        · subst here
          exact .inl ((claimAt_of_found found).trans (claim_of_vacated (.inl idle)))
        · obtain ⟨events, dispatchCursor, same⟩ := dispatch_eq found position nowNs
          rw [same]
          exact .inr (.inl (claimAt_setSlot_ne before here _))
      · obtain ⟨same, still⟩ := handoff_eq found targetFound different
        by_cases atTarget : destination = index
        · subst atTarget
          exact .inl ((claimAt_of_found targetFound).trans (claim_of_vacated (.inl idle)))
        rw [same, claimAt_setSlot_ne _ atTarget]
        by_cases atSource : source = index
        · subst atSource
          refine .inr (.inr ?_)
          rw [claimAt_of_found (found_setSlot found _), claim_of_vacated (.inr rfl)]
        · exact .inr (.inl (claimAt_setSlot_ne before atSource _))
  | admitRequest timestampNs =>
      obtain ⟨sessions, events, same⟩ := before.admit_eq _ timestampNs
      rw [same]
      exact .inr (.inl rfl)
  | raise => exact .inr (.inl rfl)
  | @release lane presented =>
      obtain ⟨slot, found, -⟩ := sound.presented lane presented
      have same : (before.release lane).claimAt index =
          (before.setSlot lane (vacant { slot with remainingWorkUnits := 0 })).claimAt index := by
        rw [JobWorkerPool.release, found]
        rw [modifySlot_eq_setSlot found]
        rfl
      rw [same]
      by_cases here : lane = index
      · subst here
        refine .inr (.inr ?_)
        rw [claimAt_of_found (found_setSlot found _), claim_of_vacated (state_vacant _)]
      · exact .inr (.inl (claimAt_setSlot_ne before here _))

theorem Transition.claimAt (transition : Transition before after) (sound : before.Sound)
    (index : Nat) :
    before.claimAt index = none ∨ after.claimAt index = before.claimAt index ∨
      after.claimAt index = none := by
  cases transition with
  | step step => exact step.claimAt sound index
  | beginDrain found =>
      exact .inr (.inl ((Unmoved.beginDrain found).claimAt index))

theorem conserved_fresh (config : Config κ) : (fresh config).ledger.Conserved := by
  have lanes : (fresh config).slots.filterMap Slot.claim = [] := by
    refine List.filterMap_eq_nil_iff.mpr fun slot member => ?_
    obtain ⟨lane, -, rfl⟩ := List.mem_map.mp member
    exact claim_of_vacated (.inl rfl)
  have entries : ∀ place, (fresh config).ledger.entries place = 0 := by
    intro place
    cases place with
    | queue => rfl
    | lanes => exact congrArg _ lanes
    | delivered => rfl
  unfold Ledger.Conserved
  rw [Finset.sum_congr rfl fun place _ => entries place, Finset.sum_const_zero]
  rfl

theorem conserved_of_traced {config : Config κ} {world : World κ}
    (created : create config = .ok pool) (traced : (system κ).Traced pool world) :
    ∀ moment ∈ world.moments, moment.ledger.Conserved :=
  traced.invariant (·.ledger.Conserved) (create_ok created ▸ conserved_fresh config)
    fun sound step conserved => conserved.step (step.ledger sound)

/-- **Job conservation.** At every moment of every run the queue, the lanes and the deliveries
together hold the accepted requests and nothing else, each of them once. The queue slots in
use and the free ones are the slots of the queue, and every result that a lane shows is
valid, so that none is dropped. A lane that holds a request keeps it until it gives it up.
The requests on the books are those that `submit` accepts. -/
theorem accepted_jobs_conserved {config : Config κ} {pool : JobWorkerPool κ}
    (created : create config = .ok pool) (clockNs : UInt64) (schedule : List (List LaneMove))
    (readings : List UInt64) (commands : List PoolCommand) :
    let world := PoolCommand.runFrom pool clockNs schedule readings commands
    (∀ moment ∈ world.moments,
      moment.ledger.Conserved ∧
      (∀ number request, moment.accepted[number]? = some request →
        ∃ place rest, moment.ledger.entries place = (request, number) ::ₘ rest ∧
          (∀ entry ∈ rest, entry.2 ≠ number) ∧
          ∀ other, other ≠ place → ∀ entry ∈ moment.ledger.entries other, entry.2 ≠ number) ∧
      (moment.queueOrder ++ moment.freeQueueSlots).Perm (List.range config.queueCapacity) ∧
      ∀ slot ∈ moment.slots, slot.state = .ready → slot.result.validate = .success) ∧
    world.moments.IsChain (fun before after => ∀ index, before.claimAt index = none ∨
      after.claimAt index = before.claimAt index ∨ after.claimAt index = none) ∧
    ∀ request nowNs,
      let submitted := (submit request nowNs).run world
      submitted.2.pool.released = world.pool.released ∧
        submitted.2.pool.accepted =
          world.pool.accepted ++ if submitted.1.result = .accepted then [request] else [] := by
  intro world
  obtain ⟨traced, settled, -⟩ : (system κ).Traced pool world ∧ world.pool.Settled ∧
      world.pool.Rested :=
    traced_runFrom created clockNs schedule readings commands
  refine ⟨fun moment member => ?_, ?_, fun request nowNs => ?_⟩
  · have sound : moment.Sound := traced.good moment member
    have conserved := conserved_of_traced created traced moment member
    have capacity := traced.invariant
      (fun pool => pool.queueStorage.length = config.queueCapacity)
      (by simp [create_ok created, fresh])
      (fun _ step same => step.capacity.trans same) moment member
    refine ⟨conserved, fun number request accepted => conserved.exactly_once accepted,
      capacity ▸ sound.partition, fun slot inside ready => ?_⟩
    exact ((sound.lanes slot inside).answers ready).valid
  · exact traced.steps.imp fun before after step => step.2.claimAt step.1
  · have sound : world.pool.Sound := traced.now
    obtain ⟨-, after⟩ := follows_submit request nowNs world.pool.books world sound ⟨rfl, settled⟩
    rcases after.fits with ⟨accepted, books⟩ | ⟨refused, books, -⟩
    · obtain ⟨first, second⟩ := Prod.mk.inj books
      exact ⟨second, by rw [if_pos accepted]; exact first⟩
    · obtain ⟨first, second⟩ := Prod.mk.inj books
      exact ⟨second, by rw [if_neg refused, List.append_nil]; exact first⟩

/-! A pool with one lane, whose backend does in one call all the work that it is asked for. -/

/-- A backend that does all the work it is asked for. -/
def eagerOps : RoutedJobOps Unit where
  cooperative :=
    { begin := fun _ => (true, ())
      advance := fun _ budget => ({ step := .complete, completedWorkUnits := budget }, ())
      cancel := id
      stateBytes := fun _ => 0
      saveState := fun _ _ => (true, fun _ => 0)
      loadState := fun _ _ => (true, ()) }
  prepare := fun _ _ => (true, ())
  result := fun _ => []

def eagerDescriptor (generation : UInt64) : JobDescriptor where
  kind := .iterative
  modelDigest := Vector.replicate 16 1
  stateSchema := 1
  sessionId := 7
  generation
  totalWorkUnits := 1

/-- A request of session 7 for one unit of work. -/
def eagerRequest (generation : UInt64) : JobRequestMessage where
  envelope := { kind := .jobRequest, structSize := 120, sequence := generation, sessionId := 7 }
  metadata := { structSize := 88, descriptor := eagerDescriptor generation }

def eagerRegistry : JobAdapterRegistry Unit where
  capacity := 1
  entries := [{
    route := jobRoute (eagerDescriptor 0), operations := eagerOps,
    maxRequestBytes := 0, maxResultBytes := 0 }]
  frozen := true

/-- A pool with one lane. -/
def eagerConfig : Config Unit where
  lanes := [(eagerRegistry, ())]
  queueCapacity := 2
  maxSessions := 1

/-- A request that is submitted, run and released. -/
theorem accepted_jobs_conserved_example :
    let world := PoolCommand.runFrom (fresh eagerConfig) 0
      [[], [], List.replicate 12 { lane := 0, nowNs := 5 }] [1, 2]
      [.submit (eagerRequest 1) 0, .pause, .readyResult, .releaseReadyResult]
    create eagerConfig = .ok (fresh eagerConfig) ∧ world.pool.released.length = 1 ∧
      ∀ moment ∈ world.moments, moment.ledger.Conserved := by
  have created : create eagerConfig = .ok (fresh eagerConfig) := rfl
  refine ⟨created, by decide, fun moment member => ?_⟩
  exact ((accepted_jobs_conserved created 0 _ _ _).1 moment member).1

end JobWorkerPool

end FlowEdge
