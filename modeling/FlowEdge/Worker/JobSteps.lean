import FlowEdge.Foundation.StatePrograms
import FlowEdge.Worker.JobCoordinator
import FlowEdge.Worker.JobSlots

/-!
# The steps of the worker pool

Everything that the lanes and the coordinator do to a pool is a sequence of the atomic
changes of `Step`. A lane step touches one slot and leaves alone what the coordinator
owns; each change that the coordinator makes comes with what it knew at that time. The
steps keep `JobWorkerPool.Sound`, and `JobRuns` shows that the operations take these steps
and no others.
-/

namespace FlowEdge

open Words StatePrograms

variable {κ : Type}

namespace JobWorkerPool

/-! ## Steps -/

/-- What the coordinator checked before it queued a request. -/
structure Admissible (pool : JobWorkerPool κ) (request : JobRequestMessage) : Prop where
  valid : request.validate = .success
  accepting : pool.hasAcceptingWorker request = true
  current : pool.stale request = false
  session : pool.hasSessionCapacity request.metadata.descriptor.sessionId = true
  room : pool.queueOrder.length ≠ pool.queueStorage.length
  qos : pool.hasQosCapacity request.metadata.serviceClass = true

/-- The watermark of a session. -/
def WatermarkIs (pool : JobWorkerPool κ) (sessionId generation : UInt64) : Prop :=
  ∃ entry, pool.findSession sessionId = some entry ∧ entry.generation = generation

/-- An atomic change of the pool by a lane or by the coordinator that accepts no request,
releases no result, raises no watermark and does not begin to drain a lane. -/
inductive QuietStep : JobWorkerPool κ → JobWorkerPool κ → Prop where
  | lane (pool : JobWorkerPool κ) (index : Nat) (nowNs : UInt64) :
      QuietStep pool (pool.modifySlot index (·.runSlot nowNs))
  | refuse (pool : JobWorkerPool κ) (request : JobRequestMessage) (timestampNs : UInt64)
      (code : JobResultCode) : QuietStep pool (pool.emitRejected request timestampNs code)
  | countQos (pool : JobWorkerPool κ) :
      QuietStep pool { pool with qosRejectionCount := pool.qosRejectionCount + 1 }
  | openSession {pool : JobWorkerPool κ} {sessionId : UInt64} (generation : UInt64)
      (unknown : pool.findSession sessionId = none)
      (room : pool.sessions.any (fun entry => entry.occupied = false) = true) :
      QuietStep pool (pool.openSession sessionId generation)
  | closeSession {pool : JobWorkerPool κ} {sessionId : UInt64}
      (unqueued : ∀ queueSlot ∈ pool.queueOrder,
        (pool.queued queueSlot).metadata.descriptor.sessionId ≠ sessionId)
      (unused : ∀ slot ∈ pool.slots, slot.state = .idle ∨ slot.sessionId ≠ sessionId) :
      QuietStep pool (pool.closeSession sessionId)
  | preempt {pool : JobWorkerPool κ} {index : Nat} {slot : Slot κ}
      {sessionId generation : UInt64} (nowNs : UInt64) (found : pool.slots[index]? = some slot)
      (watermark : pool.WatermarkIs sessionId generation) (session : slot.sessionId = sessionId)
      (older : slot.generation < generation) (holding : slot.holding = true) :
      QuietStep pool (pool.preempt index generation nowNs)
  | emitPreempted {pool : JobWorkerPool κ} {index : Nat} {slot : Slot κ}
      (generation nowNs : UInt64) (found : pool.slots[index]? = some slot) :
      QuietStep pool (pool.emitPreempted index slot slot.remainingWorkUnits generation nowNs)
  | rejectReady {pool : JobWorkerPool κ} {index : Nat} {slot : Slot κ}
      {sessionId generation : UInt64} (nowNs : UInt64) (found : pool.slots[index]? = some slot)
      (watermark : pool.WatermarkIs sessionId generation) (session : slot.sessionId = sessionId)
      (older : slot.generation < generation) (ready : slot.state = .ready) :
      QuietStep pool (pool.modifySlot index fun slot => writeRejection slot nowNs .rejectedStale)
  | dispatch {pool : JobWorkerPool κ} {index position : Nat} {slot : Slot κ} (nowNs : UInt64)
      (found : pool.slots[index]? = some slot) (idle : slot.state = .idle)
      (accepting : slot.drainRequested = false)
      (selected : pool.selectPosition slot.registry nowNs = some position) :
      QuietStep pool (pool.dispatch index position nowNs)
  | handoff {pool : JobWorkerPool κ} {source destination : Nat} {exporter target : Slot κ}
      (found : pool.slots[source]? = some exporter)
      (targetFound : pool.slots[destination]? = some target) (different : destination ≠ source)
      (exported : exporter.state = .migrationReady) (idle : target.state = .idle)
      (accepting : target.drainRequested = false)
      (accepts : target.registry.registrationAccepts exporter.request = true)
      (fits : exporter.migrationBytes ≤ target.migrationStorage.length) :
      QuietStep pool (pool.handoff source destination)
  | resumeLocally {pool : JobWorkerPool κ} {index : Nat} {slot : Slot κ}
      (found : pool.slots[index]? = some slot) (exported : slot.state = .migrationReady) :
      QuietStep pool (pool.modifySlot index resumeLocally)
  | drainIdle {pool : JobWorkerPool κ} {index : Nat} {slot : Slot κ}
      (found : pool.slots[index]? = some slot) (idle : slot.state = .idle)
      (draining : slot.drainRequested = true) : QuietStep pool (pool.modifySlot index drainIdle)
  | requestMigration {pool : JobWorkerPool κ} {index : Nat} {slot : Slot κ} (hasTarget : Bool)
      (found : pool.slots[index]? = some slot) (holding : slot.holding = true)
      (draining : slot.drainRequested = true) (unmoved : slot.migrationSource = noWorker) :
      QuietStep pool (pool.modifySlot index (requestMigration hasTarget))
  | resumeDrained {pool : JobWorkerPool κ} {index : Nat} {slot : Slot κ}
      (found : pool.slots[index]? = some slot) (drained : slot.state = .drained)
      (trusted : slot.quarantined = false) : QuietStep pool (pool.modifySlot index resumeDrained)
  | recoverDrained {pool : JobWorkerPool κ} {index : Nat} {slot : Slot κ}
      (found : pool.slots[index]? = some slot) (drained : slot.state = .drained)
      (quarantined : slot.quarantined = true) :
      QuietStep pool (pool.modifySlot index recoverDrained)
  | noteFailure {pool : JobWorkerPool κ} {index : Nat} {slot : Slot κ}
      (found : pool.slots[index]? = some slot) (ready : slot.state = .ready) :
      QuietStep pool (pool.noteFailure index)
  | present {pool : JobWorkerPool κ} {index : Nat} {slot : Slot κ}
      (found : pool.slots[index]? = some slot) (ready : slot.state = .ready)
      (valid : slot.result.validate = .success) (unread : pool.readyIndex = none) :
      QuietStep pool (pool.present index)

/-- An atomic change of the pool that does not begin to drain a lane. -/
inductive Step : JobWorkerPool κ → JobWorkerPool κ → Prop where
  | quiet {before after : JobWorkerPool κ} (step : QuietStep before after) : Step before after
  | admitRequest {pool : JobWorkerPool κ} {request : JobRequestMessage} (timestampNs : UInt64)
      (admissible : pool.Admissible request) : Step pool (pool.admitRequest request timestampNs)
  | raise {pool : JobWorkerPool κ} {sessionId : UInt64} {entry : SessionWatermark}
      (generation : UInt64) (known : pool.findSession sessionId = some entry) :
      Step pool (pool.setWatermark sessionId (wordMax entry.generation generation))
  | release {pool : JobWorkerPool κ} {index : Nat} (presented : pool.readyIndex = some index) :
      Step pool (pool.release index)

/-- An atomic change of the pool. A drain is begun before the lane is looked at, so that an idle
lane can be seen draining for a moment. -/
inductive Transition : JobWorkerPool κ → JobWorkerPool κ → Prop where
  | step {before after : JobWorkerPool κ} (step : Step before after) : Transition before after
  | beginDrain {pool : JobWorkerPool κ} {index : Nat} {slot : Slot κ}
      (found : pool.slots[index]? = some slot) (fresh : slot.drainRequested = false)
      (removable : pool.canRemoveWorker index = true) :
      Transition pool (pool.modifySlot index beginDrain)

/-! ## What the changes do -/

/-- Replace a lane. -/
def setSlot (pool : JobWorkerPool κ) (index : Nat) (slot : Slot κ) : JobWorkerPool κ :=
  { pool with slots := pool.slots.set index slot }

variable {index : Nat}

theorem modify_eq_set {α : Type} {items : List α} {item : α} (found : items[index]? = some item)
    (update : α → α) : items.modify index update = items.set index (update item) := by
  rw [List.modify_eq_set_getElem?, found]
  rfl

variable {pool : JobWorkerPool κ} {slot : Slot κ}

theorem modifySlot_eq_setSlot (found : pool.slots[index]? = some slot) (update : Slot κ → Slot κ) :
    pool.modifySlot index update = pool.setSlot index (update slot) := by
  rw [modifySlot, setSlot, modify_eq_set found]

theorem setSlot_self (found : pool.slots[index]? = some slot) : pool.setSlot index slot = pool := by
  obtain ⟨bound, rfl⟩ := List.getElem?_eq_some_iff.mp found
  rw [setSlot, List.set_getElem_self]

theorem modifySlot_eq_self (absent : pool.slots[index]? = none) (update : Slot κ → Slot κ) :
    pool.modifySlot index update = pool := by
  rw [modifySlot, List.modify_eq_set_getElem?, absent]
  rfl

theorem modify_set_self {α : Type} (items : List α) (index : Nat) (item : α) (update : α → α) :
    (items.set index item).modify index update = items.set index (update item) := by
  rw [List.modify_eq_set_getElem?, List.getElem?_set]
  by_cases bound : index < items.length
  · simp [bound]
  · have past := Nat.le_of_not_lt bound
    simp [bound, List.set_eq_of_length_le past]

theorem setSlot_setSlot (index : Nat) (first second : Slot κ) :
    (pool.setSlot index first).setSlot index second = pool.setSlot index second := by
  simp only [setSlot, List.set_set]

theorem found_setSlot (found : pool.slots[index]? = some slot) (other : Slot κ) :
    (pool.setSlot index other).slots[index]? = some other := by
  obtain ⟨bound, -⟩ := List.getElem?_eq_some_iff.mp found
  exact List.getElem?_set_self bound

/-- Only events were added. -/
def Logged (before after : JobWorkerPool κ) : Prop := ∃ events, after = { before with events }

theorem Logged.refl (pool : JobWorkerPool κ) : Logged pool pool := ⟨pool.events, rfl⟩

variable {before after : JobWorkerPool κ}

theorem Logged.emit (logged : Logged before after) (sequence : UInt64) (details : JobEventDetails) :
    Logged before (after.emit sequence details) := by
  obtain ⟨events, rfl⟩ := logged
  unfold JobWorkerPool.emit
  split
  · exact ⟨events, rfl⟩
  dsimp only
  split
  · exact ⟨_, rfl⟩
  · exact ⟨events, rfl⟩

theorem emit_eq (sequence : UInt64) (details : JobEventDetails) :
    pool.emit sequence details =
      { pool with events := (pool.emit sequence details).events } := by
  obtain ⟨events, same⟩ := (Logged.refl pool).emit sequence details
  rw [same]

theorem Logged.outcome (pool : JobWorkerPool κ) (index : Nat) (slot : Slot κ) :
    Logged pool (pool.emitOutcome index slot) := by
  unfold emitOutcome
  refine Logged.emit ?_ _ _
  split
  · exact Logged.refl pool
  have begun := fun details => (Logged.refl pool).emit slot.request.envelope.sequence details
  split
  · exact begun _
  split
  · exact (begun _).emit _ _
  · exact ((begun _).emit _ _).emit _ _

/-- The lane could leave: every queued request that it accepts has another lane in service. -/
theorem canRemoveWorker_iff (found : pool.slots[index]? = some slot) :
    pool.canRemoveWorker index = true ↔ ∀ queueSlot ∈ pool.queueOrder,
      slot.registry.registrationAccepts (pool.queued queueSlot) = true →
      ∃ other candidate, other ≠ index ∧ pool.slots[other]? = some candidate ∧
        candidate.quarantined = false ∧ candidate.drainRequested = false ∧
        candidate.registry.registrationAccepts (pool.queued queueSlot) = true := by
  have beside : ∀ request, pool.hasTargetBeside index request = true ↔
      ∃ other candidate, other ≠ index ∧ pool.slots[other]? = some candidate ∧
        candidate.quarantined = false ∧ candidate.drainRequested = false ∧
        candidate.registry.registrationAccepts request = true := by
    intro request
    simp only [hasTargetBeside, List.any_eq_true, decide_eq_true_eq, Prod.exists,
      List.mk_mem_zipIdx_iff_getElem?]
    constructor
    · rintro ⟨candidate, other, here, different, rest⟩
      exact ⟨other, candidate, different, here, rest⟩
    · rintro ⟨other, candidate, different, here, rest⟩
      exact ⟨candidate, other, here, different, rest⟩
  rw [canRemoveWorker, found]
  simp only [List.all_eq_true, decide_eq_true_eq, beside]
  refine forall₂_congr fun queueSlot _ => ?_
  rw [← Bool.not_eq_true, ← imp_iff_not_or]

/-- What happens to the supervision of a lane when a failure is recorded. -/
structure Supervised (pool : JobWorkerPool κ) (index : Nat) (slot : Slot κ)
    (quarantined drainRequested : Bool) : Prop where
  flags : (quarantined = slot.quarantined ∧ drainRequested = slot.drainRequested) ∨
    (quarantined = true ∧ drainRequested = true ∧ pool.canRemoveWorker index = true)

/-- A failure touches the supervision of the lane only. -/
theorem recordWorkerFailure_eq (found : pool.slots[index]? = some slot) :
    ∃ consecutiveFailures quarantined drainRequested failureCount quarantineCount,
      Supervised pool index slot quarantined drainRequested ∧
      pool.recordWorkerFailure index =
        { pool.setSlot index { slot with consecutiveFailures, quarantined, drainRequested } with
          failureCount, quarantineCount } := by
  have counted : ({ pool with failureCount := pool.failureCount + 1 } :
      JobWorkerPool κ).slots[index]? = some slot := found
  have again := found_setSlot counted
    { slot with consecutiveFailures := slot.consecutiveFailures + 1 }
  unfold recordWorkerFailure
  dsimp only
  rw [modifySlot_eq_setSlot counted, again]
  dsimp only
  split
  · exact ⟨_, slot.quarantined, slot.drainRequested, _, _, ⟨.inl ⟨rfl, rfl⟩⟩, rfl⟩
  · next leaves =>
      refine ⟨slot.consecutiveFailures + 1, true, true, pool.failureCount + 1,
        pool.quarantineCount + 1, ⟨.inr ⟨rfl, rfl, ?_⟩⟩, ?_⟩
      · simp only [not_or, Bool.not_eq_false] at leaves
        rw [canRemoveWorker_iff found]
        intro queueSlot member accepts
        obtain ⟨other, candidate, different, here, rest⟩ :=
          (canRemoveWorker_iff again).mp leaves.2.2.2 queueSlot member accepts
        exact ⟨other, candidate, different,
          (List.getElem?_set_ne different.symm).symm.trans here, rest⟩
      · simp only [modifySlot, setSlot, modify_set_self]

theorem noteFailure_eq (found : pool.slots[index]? = some slot) :
    ∃ consecutiveFailures quarantined drainRequested failureCount quarantineCount,
      Supervised pool index slot quarantined drainRequested ∧
      pool.noteFailure index =
        { pool.setSlot index
            { slot with
              executionFailed := false, consecutiveFailures, quarantined, drainRequested } with
          failureCount, quarantineCount } := by
  unfold noteFailure
  rw [found]
  dsimp only
  rw [modifySlot_eq_setSlot found]
  split
  · have again := found_setSlot found { slot with executionFailed := false }
    obtain ⟨consecutiveFailures, quarantined, drainRequested, failureCount, quarantineCount,
      ⟨flags⟩, recorded⟩ := recordWorkerFailure_eq again
    refine ⟨consecutiveFailures, quarantined, drainRequested, failureCount, quarantineCount,
      ⟨flags.imp_right fun left => ⟨left.1, left.2.1, ?_⟩⟩, ?_⟩
    · rw [canRemoveWorker_iff found]
      intro queueSlot member accepts
      obtain ⟨other, candidate, different, here, rest⟩ :=
        (canRemoveWorker_iff again).mp left.2.2 queueSlot member accepts
      exact ⟨other, candidate, different,
        (List.getElem?_set_ne different.symm).symm.trans here, rest⟩
    · rw [recorded, setSlot_setSlot]
  · exact ⟨slot.consecutiveFailures, slot.quarantined, slot.drainRequested, pool.failureCount,
      pool.quarantineCount, ⟨.inl ⟨rfl, rfl⟩⟩, rfl⟩

theorem present_eq (found : pool.slots[index]? = some slot) :
    ∃ consecutiveFailures events,
      pool.present index =
        { pool.setSlot index { slot with consecutiveFailures, eventsPublished := true } with
          readyIndex := some index, events } := by
  obtain ⟨consecutiveFailures, cleared⟩ : ∃ consecutiveFailures,
      (if jobResultCode slot.result = .complete then
        pool.modifySlot index fun slot => { slot with consecutiveFailures := 0 }
      else pool) = pool.setSlot index { slot with consecutiveFailures } := by
    split
    · exact ⟨0, modifySlot_eq_setSlot found _⟩
    · refine ⟨slot.consecutiveFailures, ?_⟩
      exact (setSlot_self found).symm
  unfold present
  rw [found]
  dsimp only
  rw [cleared]
  split
  · next published =>
      refine ⟨consecutiveFailures, pool.events, ?_⟩
      rw [← published]
      rfl
  · obtain ⟨events, logged⟩ := Logged.outcome
      (pool.setSlot index { slot with consecutiveFailures }) index slot
    refine ⟨consecutiveFailures, events, ?_⟩
    rw [logged]
    simp only [modifySlot, setSlot, modify_set_self]

/-! ## Sessions -/

theorem find?_modifyFirst {α : Type} {test : α → Bool} {update : α → α} {items : List α} {item : α}
    (found : items.find? test = some item) (kept : test (update item) = true) :
    (modifyFirst test update items).find? test = some (update item) := by
  induction items with
  | nil => simp at found
  | cons first rest ih =>
      unfold modifyFirst
      by_cases here : test first = true
      · rw [List.find?_cons_of_pos here] at found
        cases found
        rw [if_pos here, List.find?_cons_of_pos kept]
      · rw [List.find?_cons_of_neg here] at found
        rw [if_neg here, List.find?_cons_of_neg here, ih found]

theorem find?_insert {α : Type} {test free : α → Bool} {items : List α} {item : α}
    (absent : items.find? test = none) (room : items.any free = true) (fits : test item = true) :
    (modifyFirst free (fun _ => item) items).find? test = some item := by
  induction items with
  | nil => simp at room
  | cons first rest ih =>
      unfold modifyFirst
      rw [List.find?_cons] at absent
      split at absent
      · cases absent
      · next other =>
          by_cases here : free first = true
          · rw [if_pos here, List.find?_cons_of_pos fits]
          · rw [if_neg here, List.find?_cons, other]
            exact ih absent (by simpa [here] using room)

theorem find?_modifyFirst_other {α : Type} {test chosen : α → Bool} {update : α → α}
    {items : List α} (before : ∀ item, chosen item = true → test item = false)
    (after : ∀ item, chosen item = true → test (update item) = false) :
    (modifyFirst chosen update items).find? test = items.find? test := by
  induction items with
  | nil => rfl
  | cons first rest ih =>
      unfold modifyFirst
      by_cases here : chosen first = true
      · rw [if_pos here, List.find?_cons, List.find?_cons, before first here, after first here]
      · rw [if_neg here, List.find?_cons, List.find?_cons, ih]

section Others

variable (pool : JobWorkerPool κ) {sessionId other : UInt64} (different : other ≠ sessionId)

include different

theorem findSession_openSession (generation : UInt64) :
    (pool.openSession sessionId generation).findSession other = pool.findSession other := by
  apply find?_modifyFirst_other
  · simp +contextual
  · intro entry _
    simpa using different.symm

theorem findSession_setWatermark (generation : UInt64) :
    (pool.setWatermark sessionId generation).findSession other = pool.findSession other := by
  apply find?_modifyFirst_other <;>
  · intro entry matching
    have same : entry.sessionId = sessionId := by simp_all
    simpa [same] using fun _ => different.symm

theorem findSession_closeSession :
    (pool.closeSession sessionId).findSession other = pool.findSession other := by
  apply find?_modifyFirst_other
  · intro entry matching
    have same : entry.sessionId = sessionId := by simp_all
    simpa [same] using fun _ => different.symm
  · simp

end Others

variable {sessionId : UInt64}

theorem watermark_openSession (generation : UInt64) (unknown : pool.findSession sessionId = none)
    (room : pool.sessions.any (fun entry => entry.occupied = false) = true) :
    (pool.openSession sessionId generation).WatermarkIs sessionId generation :=
  ⟨_, find?_insert unknown room (by simp), rfl⟩

variable {entry : SessionWatermark}

theorem watermark_setWatermark (known : pool.findSession sessionId = some entry)
    (generation : UInt64) :
    (pool.setWatermark sessionId generation).WatermarkIs sessionId generation := by
  have matching := List.find?_some known
  exact ⟨_, find?_modifyFirst known (by simpa using matching), rfl⟩

/-! ## Soundness of the pool -/

/-- The session of the request has a watermark. -/
def Knows (pool : JobWorkerPool κ) (request : JobRequestMessage) : Prop :=
  (pool.findSession request.metadata.descriptor.sessionId).isSome = true

variable {request : JobRequestMessage}

theorem Knows.openSession (generation : UInt64) (unknown : pool.findSession sessionId = none)
    (known : pool.Knows request) : (pool.openSession sessionId generation).Knows request := by
  have different : request.metadata.descriptor.sessionId ≠ sessionId := by
    rintro rfl
    simp [Knows, unknown] at known
  rwa [Knows, findSession_openSession pool different]

theorem Knows.setWatermark (found : pool.findSession sessionId = some entry) (generation : UInt64)
    (known : pool.Knows request) : (pool.setWatermark sessionId generation).Knows request := by
  by_cases same : request.metadata.descriptor.sessionId = sessionId
  · obtain ⟨after, here, -⟩ := watermark_setWatermark found generation
    rw [Knows, same, here]
    rfl
  · rwa [Knows, findSession_setWatermark pool same]

theorem Knows.noteSession {other : JobRequestMessage}
    (capacity : pool.hasSessionCapacity request.metadata.descriptor.sessionId = true)
    (known : other = request ∨ pool.Knows other) :
    (pool.noteSession request.metadata.descriptor).Knows other := by
  unfold JobWorkerPool.noteSession
  split
  · next unknown =>
      rcases known with rfl | known
      · have room : pool.sessions.any (fun entry => entry.occupied = false) = true := by
          simpa [hasSessionCapacity, unknown] using capacity
        obtain ⟨entry, found, -⟩ := watermark_openSession
          other.metadata.descriptor.generation unknown room
        rw [Knows, found]
        rfl
      · exact known.openSession _ unknown
  · next entry found =>
      have here : pool.Knows other := by
        rcases known with rfl | known
        · rw [Knows, found]
          rfl
        · exact known
      split
      · exact here.setWatermark found _
      · exact here

theorem noteSession_eq (pool : JobWorkerPool κ) (descriptor : JobDescriptor) :
    ∃ sessions, pool.noteSession descriptor = { pool with sessions } := by
  unfold JobWorkerPool.noteSession
  split
  · exact ⟨_, rfl⟩
  split
  · exact ⟨_, rfl⟩
  · exact ⟨_, rfl⟩

/-- What admission changes. -/
theorem admit_eq (pool : JobWorkerPool κ) (request : JobRequestMessage) (timestampNs : UInt64) :
    ∃ sessions events,
      pool.admitRequest request timestampNs = { pool.enqueue request with sessions, events } := by
  obtain ⟨events, logged⟩ : Logged (pool.enqueue request)
    ((pool.enqueue request).emitAdmitted request timestampNs) := (Logged.refl _).emit _ _
  obtain ⟨sessions, noted⟩ := noteSession_eq
    ((pool.enqueue request).emitAdmitted request timestampNs) request.metadata.descriptor
  exact ⟨sessions, events, by rw [admitRequest, noted, logged]⟩

/-- A watermark that rises makes no request current again. -/
theorem stale_setWatermark (found : pool.findSession sessionId = some entry) {generation : UInt64}
    (rises : entry.generation ≤ generation) (isStale : pool.stale request = true) :
    (pool.setWatermark sessionId generation).stale request = true := by
  by_cases same : request.metadata.descriptor.sessionId = sessionId
  · obtain ⟨after, here, rfl⟩ := watermark_setWatermark found generation
    rw [stale, same, found] at isStale
    rw [stale, same, here]
    simp only [decide_eq_true_eq] at isStale ⊢
    exact UInt64.lt_of_lt_of_le isStale rises
  · rwa [stale, findSession_setWatermark pool same]

theorem stale_noteSession (descriptor : JobDescriptor) (isStale : pool.stale request = true) :
    (pool.noteSession descriptor).stale request = true := by
  unfold JobWorkerPool.noteSession
  split
  · next unknown =>
      have different : request.metadata.descriptor.sessionId ≠ descriptor.sessionId := by
        intro same
        rw [stale, same, unknown] at isStale
        cases isStale
      rwa [stale, findSession_openSession pool different]
  · next entry found =>
      split
      · next rises => exact stale_setWatermark found (UInt64.le_of_lt rises) isStale
      · exact isStale

/-- The session of an admitted request is known from then on. -/
theorem Knows.admitRequest {other : JobRequestMessage}
    (capacity : pool.hasSessionCapacity request.metadata.descriptor.sessionId = true)
    (timestampNs : UInt64) (known : other = request ∨ pool.Knows other) :
    (pool.admitRequest request timestampNs).Knows other := by
  obtain ⟨events, logged⟩ : Logged (pool.enqueue request)
    ((pool.enqueue request).emitAdmitted request timestampNs) := (Logged.refl _).emit _ _
  unfold JobWorkerPool.admitRequest
  rw [logged]
  exact Knows.noteSession capacity known

/-- The request in a queue slot, with its number. -/
def entryAt (pool : JobWorkerPool κ) (queueSlot : Nat) : JobRequestMessage × Nat :=
  (pool.queued queueSlot, pool.tickets.getD queueSlot 0)

/-- The slots of the queue are taken or free, every queued request is valid, every lane is
sound, the lane whose result is presented is ready, the delivered results answer their
requests, and the sessions of the requests that the pool holds are known. -/
structure Sound (pool : JobWorkerPool κ) : Prop where
  partition : (pool.queueOrder ++ pool.freeQueueSlots).Perm (List.range pool.queueStorage.length)
  tickets : pool.tickets.length = pool.queueStorage.length
  queue : ∀ queueSlot ∈ pool.queueOrder, (pool.queued queueSlot).validate = .success
  lanes : ∀ slot ∈ pool.slots, slot.Sound
  presented : ∀ index, pool.readyIndex = some index →
    ∃ slot, pool.slots[index]? = some slot ∧ slot.state = .ready
  delivered : ∀ delivery ∈ pool.released, delivery.result.Answers delivery.request
  knownQueue : ∀ queueSlot ∈ pool.queueOrder, pool.Knows (pool.queued queueSlot)
  knownLanes : ∀ slot ∈ pool.slots, slot.holding = true → pool.Knows slot.request

namespace Sound

variable {pool : JobWorkerPool κ} {index : Nat} {slot : Slot κ}

theorem lane (sound : pool.Sound) (found : pool.slots[index]? = some slot) : slot.Sound :=
  sound.lanes slot (List.mem_of_getElem? found)

theorem knows (sound : pool.Sound) (found : pool.slots[index]? = some slot)
    (holding : slot.holding = true) : pool.Knows slot.request :=
  sound.knownLanes slot (List.mem_of_getElem? found) holding

theorem setSlot (sound : pool.Sound) (found : pool.slots[index]? = some slot) (other : Slot κ)
    (kept : other.Sound) (known : other.holding = true → pool.Knows other.request)
    (ready : slot.state = .ready → other.state = .ready) : (pool.setSlot index other).Sound := by
  refine { sound with lanes := ?_, presented := ?_, knownLanes := ?_ }
  · intro each member
    rcases List.mem_or_eq_of_mem_set member with old | rfl
    · exact sound.lanes each old
    · exact kept
  · intro chosen presented
    obtain ⟨before, atChosen, state⟩ := sound.presented chosen presented
    by_cases same : index = chosen
    · subst same
      rw [found] at atChosen
      cases atChosen
      exact ⟨other, found_setSlot found other, ready state⟩
    · exact ⟨before, (List.getElem?_set_ne same).trans atChosen, state⟩
  · intro each member
    rcases List.mem_or_eq_of_mem_set member with old | rfl
    · exact sound.knownLanes each old
    · exact known

/-- A change of a slot that the invariant does not see. -/
theorem retouch (sound : pool.Sound) (found : pool.slots[index]? = some slot) (other : Slot κ)
    (same : other.shown = slot.shown) : (pool.setSlot index other).Sound := by
  have state : other.state = slot.state := congrArg Slot.Shown.state same
  have request : other.request = slot.request := congrArg Slot.Shown.request same
  refine sound.setSlot found other ((sound.lane found).congr same) ?_ fun ready => state ▸ ready
  intro holding
  rw [request]
  exact sound.knows found (by rwa [Slot.holding, ← state])

/-- A lane that had nothing to run and is left without a request. -/
theorem vacateSlot (sound : pool.Sound) (found : pool.slots[index]? = some slot) (other : Slot κ)
    (waiting : other.thread = .waiting) (vacant : other.state = .idle ∨ other.state = .drained)
    (notReady : slot.state ≠ .ready) : (pool.setSlot index other).Sound := by
  refine sound.setSlot found other (sound_vacated waiting vacant) ?_ fun ready =>
    absurd ready notReady
  rcases vacant with state | state <;> simp [Slot.holding, state]

theorem runLane (sound : pool.Sound) (index : Nat) (nowNs : UInt64) :
    (pool.modifySlot index (·.runSlot nowNs)).Sound := by
  cases found : pool.slots[index]? with
  | none => rwa [modifySlot_eq_self found]
  | some slot =>
      have lane := sound.lane found
      rw [modifySlot_eq_setSlot found]
      refine sound.setSlot found _ (lane.runSlot nowNs) ?_ fun ready => ?_
      · intro holding
        rw [Slot.holding_runSlot lane nowNs] at holding
        rw [Slot.runSlot_request]
        exact sound.knows found holding
      · rw [lane.runSlot_eq_of nowNs ready]
        exact ready

theorem logged (sound : pool.Sound) (only : Logged pool after) :
    after.Sound := by
  obtain ⟨events, rfl⟩ := only
  exact { sound with }

/-- There is a free slot for a request that fits, and it is not in use. -/
theorem free_slot (sound : pool.Sound) (room : pool.queueOrder.length ≠ pool.queueStorage.length) :
    ∃ free queueSlot, pool.freeQueueSlots = free ++ [queueSlot] ∧
      queueSlot < pool.queueStorage.length ∧ queueSlot ∉ pool.queueOrder := by
  have total := sound.partition.length_eq
  rw [List.length_append, List.length_range] at total
  rcases List.eq_nil_or_concat pool.freeQueueSlots with none | ⟨free, queueSlot, some⟩
  · rw [none, List.length_nil] at total
    exact absurd total room
  rw [List.concat_eq_append] at some
  have member : queueSlot ∈ pool.queueOrder ++ pool.freeQueueSlots := by
    rw [some]
    simp
  refine ⟨free, queueSlot, some, List.mem_range.mp (sound.partition.mem_iff.mp member), ?_⟩
  intro used
  have distinct := sound.partition.nodup_iff.mpr List.nodup_range
  rw [some, List.nodup_append] at distinct
  exact distinct.2.2 queueSlot used queueSlot (by simp) rfl

/-- The queue after a request was put into it. -/
theorem enqueue (sound : pool.Sound) (room : pool.queueOrder.length ≠ pool.queueStorage.length)
    (request : JobRequestMessage) :
    ∃ queueSlot, (pool.enqueue request).queueOrder = pool.queueOrder ++ [queueSlot] ∧
      pool.freeQueueSlots = (pool.enqueue request).freeQueueSlots ++ [queueSlot] ∧
      (pool.enqueue request).entryAt queueSlot = (request, pool.accepted.length) ∧
      ∀ other ∈ pool.queueOrder, (pool.enqueue request).entryAt other = pool.entryAt other := by
  obtain ⟨free, queueSlot, split, bound, unused⟩ := sound.free_slot room
  have chosen : pool.freeQueueSlots.getLastD pool.queueStorage.length = queueSlot := by
    rw [split, List.getLastD_concat]
  refine ⟨queueSlot, ?_, ?_, ?_, fun other member => ?_⟩
  · simp only [JobWorkerPool.enqueue, chosen]
  · simp only [JobWorkerPool.enqueue, split, List.dropLast_concat]
  · simp only [entryAt, queued, JobWorkerPool.enqueue, chosen, List.getD_eq_getElem?_getD]
    rw [List.getElem?_set_self bound, List.getElem?_set_self (sound.tickets ▸ bound)]
    rfl
  · have different : queueSlot ≠ other := fun same => unused (same ▸ member)
    simp only [entryAt, queued, JobWorkerPool.enqueue, chosen, List.getD_eq_getElem?_getD,
      List.getElem?_set_ne different]

theorem admitRequest (sound : pool.Sound)
    (admissible : pool.Admissible request) (timestampNs : UInt64) :
    (pool.admitRequest request timestampNs).Sound := by
  have known : ∀ other : JobRequestMessage, other = request ∨ pool.Knows other →
      (pool.admitRequest request timestampNs).Knows other :=
    fun other known => Knows.admitRequest admissible.session timestampNs known
  obtain ⟨sessions, events, same⟩ := pool.admit_eq request timestampNs
  rw [same] at known
  obtain ⟨queueSlot, order, free, here, others⟩ := sound.enqueue admissible.room request
  have queue : ∀ each ∈ (pool.enqueue request).queueOrder,
      (each ∈ pool.queueOrder ∧ (pool.enqueue request).queued each = pool.queued each) ∨
        (pool.enqueue request).queued each = request := by
    intro each member
    rw [order, List.mem_append, List.mem_singleton] at member
    rcases member with old | rfl
    · exact .inl ⟨old, congrArg Prod.fst (others each old)⟩
    · exact .inr (congrArg Prod.fst here)
  rw [same]
  refine
    { sound with
      partition := ?_, tickets := ?_, queue := ?_, knownQueue := ?_, knownLanes := ?_ }
  · show ((pool.enqueue request).queueOrder ++ (pool.enqueue request).freeQueueSlots).Perm
      (List.range (pool.queueStorage.set _ request).length)
    rw [List.length_set, order, List.append_assoc]
    refine List.Perm.trans ?_ sound.partition
    rw [free]
    exact (List.perm_append_comm).append_left _
  · simp only [JobWorkerPool.enqueue, List.length_set, sound.tickets]
  · intro each member
    show ((pool.enqueue request).queued each).validate = .success
    rcases queue each member with ⟨old, same⟩ | same
    · rw [same]
      exact sound.queue each old
    · rw [same]
      exact admissible.valid
  · intro each member
    apply known
    show (pool.enqueue request).queued each = request ∨
      pool.Knows ((pool.enqueue request).queued each)
    rcases queue each member with ⟨old, same⟩ | same
    · rw [same]
      exact .inr (sound.knownQueue each old)
    · exact .inl same
  · exact fun slot member holding => known _ (.inr (sound.knownLanes slot member holding))

end Sound

/-- A request that `dispatch_one` selects is in the queue, and the lane may take it or it is
rejected. -/
theorem selectPosition_some {registry : JobAdapterRegistry κ} {nowNs : UInt64} {position : Nat}
    (selected : pool.selectPosition registry nowNs = some position) :
    position < pool.queueOrder.length ∧
      (pool.rejectedAt nowNs (pool.queuedAt position) = true ∨
        registry.registrationAccepts (pool.queuedAt position) = true) := by
  -- The selection so far satisfies the claim, whatever positions are left.
  refine List.foldlRecOn (motive := fun selected => ∀ best, selected = some best →
    best < pool.queueOrder.length ∧ (pool.rejectedAt nowNs (pool.queuedAt best) = true ∨
      registry.registrationAccepts (pool.queuedAt best) = true)) _ _ (by simp)
    (fun selected holds first member best chosen => ?_) position selected
  dsimp only at chosen
  split at chosen
  · exact holds best chosen
  · next eligible =>
      have here : first < pool.queueOrder.length ∧
          (pool.rejectedAt nowNs (pool.queuedAt first) = true ∨
            registry.registrationAccepts (pool.queuedAt first) = true) := by
        refine ⟨List.mem_range.mp member, ?_⟩
        simpa only [not_and_or, Bool.not_eq_false] using eligible
      split at chosen
      · cases chosen
        exact here
      · split at chosen
        · cases chosen
          exact here
        · exact holds best chosen

theorem queued_valid (sound : pool.Sound) {position : Nat}
    (bound : position < pool.queueOrder.length) : (pool.queuedAt position).validate = .success := by
  unfold queuedAt
  rw [List.getD_eq_getElem _ _ bound]
  exact sound.queue _ (List.getElem_mem bound)

/-- The slot of a lane that took the request at a position of the queue. -/
def launched (pool : JobWorkerPool κ) (slot : Slot κ) (position : Nat) (nowNs : UInt64) : Slot κ :=
  let entry := pool.entryAt (pool.queueOrder.getD position 0)
  pool.launch nowNs (assign slot entry.1 entry.2 nowNs)

/-- The queue after one of its requests was dispatched, and the lane that took it. -/
theorem dispatch_eq (found : pool.slots[index]? = some slot) (position : Nat) (nowNs : UInt64) :
    ∃ events dispatchCursor, pool.dispatch index position nowNs =
      { pool.setSlot index (pool.launched slot position nowNs) with
        queueOrder := pool.queueOrder.eraseIdx position
        freeQueueSlots := pool.freeQueueSlots ++ [pool.queueOrder.getD position 0]
        events, dispatchCursor } := by
  unfold dispatch modifySlot
  dsimp only
  rw [emit_eq]
  exact ⟨_, _, by rw [modify_eq_set found]; rfl⟩

/-- The two lanes of a job that was handed over. -/
theorem handoff_eq {source destination : Nat} {exporter target : Slot κ}
    (found : pool.slots[source]? = some exporter)
    (targetFound : pool.slots[destination]? = some target) (different : destination ≠ source) :
    pool.handoff source destination =
      (pool.setSlot source (vacate exporter)).setSlot destination
        (receive exporter target source) ∧
      (pool.setSlot source (vacate exporter)).slots[destination]? = some target := by
  have still : (pool.setSlot source (vacate exporter)).slots[destination]? = some target :=
    (List.getElem?_set_ne different.symm).trans targetFound
  refine ⟨?_, still⟩
  rw [handoff, found]
  dsimp only
  rw [modifySlot_eq_setSlot found, modifySlot_eq_setSlot still]

/-- A lane that takes a request holds it. -/
theorem launched_cases (sound : pool.Sound) (found : pool.slots[index]? = some slot)
    (idle : slot.state = .idle) {position : Nat} (bound : position < pool.queueOrder.length)
    (nowNs : UInt64) :
    (pool.launched slot position nowNs).Sound ∧
      (pool.launched slot position nowNs).claim =
        some (pool.entryAt (pool.queueOrder.getD position 0)) ∧
      (pool.launched slot position nowNs).cancelGeneration = 0 := by
  have waiting := (sound.lane found).waits idle
  let entry := pool.entryAt (pool.queueOrder.getD position 0)
  obtain ⟨placed, holding, owned⟩ := pool.launch_cases (assign slot entry.1 entry.2 nowNs)
    waiting ⟨queued_valid sound bound, rfl, rfl⟩ rfl nowNs
  refine ⟨placed, ?_, congrArg SlotOwned.cancelGeneration owned⟩
  rw [Slot.claim, launched, if_pos holding]
  exact congrArg some (Prod.ext (congrArg SlotOwned.request owned)
    (congrArg SlotOwned.ticket owned))

namespace Sound

variable {pool : JobWorkerPool κ} {index : Nat} {slot : Slot κ}

theorem dispatch (sound : pool.Sound) (found : pool.slots[index]? = some slot)
    (idle : slot.state = .idle) {position : Nat} (bound : position < pool.queueOrder.length)
    (nowNs : UInt64) : (pool.dispatch index position nowNs).Sound := by
  obtain ⟨events, dispatchCursor, same⟩ := dispatch_eq found position nowNs
  obtain ⟨launched, claim, -⟩ := launched_cases sound found idle bound nowNs
  have known : pool.Knows (pool.queuedAt position) := by
    rw [queuedAt, List.getD_eq_getElem _ _ bound]
    exact sound.knownQueue _ (List.getElem_mem bound)
  have placed := sound.setSlot found _ launched
    (fun holding => by rwa [(Slot.claim_eq_some.mp claim).2.1]) (by simp [idle])
  rw [same]
  refine { placed with partition := ?_, queue := ?_, knownQueue := ?_ }
  · rw [List.getD_eq_getElem _ _ bound]
    refine List.Perm.trans ?_ sound.partition
    have moved := List.getElem_cons_eraseIdx_perm bound
    exact (List.perm_append_comm.append_left _).trans
      (List.perm_middle.trans (moved.append_right _))
  · exact fun each member => sound.queue each (List.mem_of_mem_eraseIdx member)
  · exact fun each member => sound.knownQueue each (List.mem_of_mem_eraseIdx member)

theorem handoff (sound : pool.Sound) {source destination : Nat} {exporter target : Slot κ}
    (found : pool.slots[source]? = some exporter)
    (targetFound : pool.slots[destination]? = some target) (different : destination ≠ source)
    (exported : exporter.state = .migrationReady) (idle : target.state = .idle) :
    (pool.handoff source destination).Sound := by
  have exporting := sound.lane found
  have waiting := exporting.waits exported
  have owns := exporting.owns (Slot.holding_of exported)
  have emptied := sound.vacateSlot found (vacate exporter) waiting (.inr rfl) (by simp [exported])
  obtain ⟨same, still⟩ := handoff_eq found targetFound different
  have resumable : CooperativeJob.Resumable exporter.migrationStorage exporter.migrationBytes := by
    have fits := exporting.fits
    rw [Slot.ThreadFits, waiting] at fits
    exact fits.exported exported
  rw [same]
  refine emptied.setSlot still _ ?_ (fun _ => ?_) (by simp [idle])
  · refine .of_waiting ((sound.lane targetFound).waits idle)
      (fun _ => ⟨owns.valid, owns.session, owns.generation⟩) ?_
    exact ⟨by simp [receive], by simp [receive], fun _ _ => resumable.moved _, by simp [receive]⟩
  · have known := sound.knows found (Slot.holding_of exported)
    exact known

theorem noteFailure (sound : pool.Sound) (found : pool.slots[index]? = some slot) :
    (pool.noteFailure index).Sound := by
  obtain ⟨consecutiveFailures, quarantined, drainRequested, failureCount, quarantineCount, -,
    same⟩ := noteFailure_eq found
  have kept := sound.retouch found
    { slot with executionFailed := false, consecutiveFailures, quarantined, drainRequested } rfl
  rw [same]
  exact { kept with }

theorem present (sound : pool.Sound) (found : pool.slots[index]? = some slot)
    (ready : slot.state = .ready) : (pool.present index).Sound := by
  obtain ⟨consecutiveFailures, events, same⟩ := present_eq found
  have kept := sound.retouch found { slot with consecutiveFailures, eventsPublished := true } rfl
  rw [same]
  refine { kept with presented := ?_ }
  intro chosen presented
  cases presented
  exact ⟨_, found_setSlot found _, ready⟩

theorem release (sound : pool.Sound) (presented : pool.readyIndex = some index) :
    (pool.release index).Sound := by
  obtain ⟨slot, found, ready⟩ := sound.presented index presented
  unfold JobWorkerPool.release
  rw [found]
  rw [modifySlot_eq_setSlot found]
  let emptied := vacant { slot with remainingWorkUnits := 0 }
  have waiting : emptied.thread = .waiting :=
    (thread_vacant _).trans ((sound.lane found).waits ready)
  have unclaimed : emptied.holding = false := by
    rcases state_vacant { slot with remainingWorkUnits := 0 } with state | state <;>
    simp [emptied, Slot.holding, state]
  refine { sound with lanes := ?_, presented := by simp, delivered := ?_, knownLanes := ?_ }
  · intro each member
    rcases List.mem_or_eq_of_mem_set member with old | rfl
    · exact sound.lanes each old
    · exact sound_vacated waiting (state_vacant _)
  · intro delivery member
    rcases List.mem_append.mp member with old | new
    · exact sound.delivered delivery old
    · rw [List.mem_singleton.mp new]
      exact (sound.lane found).answers ready
  · intro each member holding
    rcases List.mem_or_eq_of_mem_set member with old | rfl
    · exact sound.knownLanes each old holding
    · exact absurd holding (by simp [emptied, unclaimed])

end Sound

theorem QuietStep.sound (step : QuietStep before after)
    (sound : before.Sound) : after.Sound := by
  cases step with
  | lane index nowNs => exact sound.runLane index nowNs
  | refuse => exact sound.logged ((Logged.refl before).emit _ _)
  | countQos => exact { sound with }
  | openSession generation unknown =>
      exact { sound with
        knownQueue := fun each member => (sound.knownQueue each member).openSession _ unknown
        knownLanes := fun slot member holding =>
          (sound.knownLanes slot member holding).openSession _ unknown }
  | closeSession unqueued unused =>
      refine { sound with knownQueue := ?_, knownLanes := ?_ }
      · intro each member
        show ((before.closeSession _).findSession
          (before.queued each).metadata.descriptor.sessionId).isSome = true
        rw [findSession_closeSession before (unqueued each member)]
        exact sound.knownQueue each member
      · intro slot member holding
        have elsewhere := (unused slot member).resolve_left fun idle => by
          simp [Slot.holding, idle] at holding
        rw [((sound.lanes slot member).owns holding).session] at elsewhere
        rw [Knows, findSession_closeSession before elsewhere]
        exact sound.knownLanes slot member holding
  | preempt nowNs found =>
      rw [JobWorkerPool.preempt, modifySlot_eq_setSlot found]
      exact sound.retouch found _ rfl
  | emitPreempted => exact sound.logged ((Logged.refl before).emit _ _)
  | rejectReady nowNs found watermark session older ready =>
      have lane := sound.lane found
      obtain ⟨result, written, -, -⟩ := rejectReady_ok lane ready nowNs
      have kept := sound_rejectReady lane ready nowNs
      rw [modifySlot_eq_setSlot found]
      rw [written] at kept ⊢
      have known := sound.knows found (Slot.holding_of ready)
      exact sound.setSlot found _ kept (fun _ => known) id
  | dispatch nowNs found idle accepting selected =>
      exact sound.dispatch found idle (selectPosition_some selected).1 nowNs
  | handoff found targetFound different exported idle =>
      exact sound.handoff found targetFound different exported idle
  | resumeLocally found exported =>
      have lane := sound.lane found
      have waiting := lane.waits exported
      have owns := lane.owns (Slot.holding_of exported)
      have fits := lane.fits
      rw [Slot.ThreadFits, waiting] at fits
      rw [modifySlot_eq_setSlot found]
      refine sound.setSlot found _ ?_ ?_ (by simp [exported])
      · exact .of_waiting waiting (fun _ => ⟨owns.valid, owns.session, owns.generation⟩)
          ⟨by simp [JobWorkerPool.resumeLocally], by simp [JobWorkerPool.resumeLocally],
            fun _ _ => fits.exported exported, by simp [JobWorkerPool.resumeLocally]⟩
      · have known := sound.knows found (Slot.holding_of exported)
        exact fun _ => known
  | drainIdle found idle =>
      rw [modifySlot_eq_setSlot found]
      exact sound.vacateSlot found _ ((sound.lane found).waits idle)
        (.inr rfl) (by simp [idle])
  | requestMigration hasTarget found =>
      rw [modifySlot_eq_setSlot found]
      exact sound.retouch found _ rfl
  | resumeDrained found drained | recoverDrained found drained =>
      rw [modifySlot_eq_setSlot found]
      exact sound.vacateSlot found _
        ((sound.lane found).waits drained) (.inl rfl)
        (by simp [drained])
  | noteFailure found => exact sound.noteFailure found
  | present found ready => exact sound.present found ready

theorem Step.sound (step : Step before after)
    (sound : before.Sound) : after.Sound := by
  cases step with
  | quiet step => exact step.sound sound
  | admitRequest timestampNs admissible => exact sound.admitRequest admissible timestampNs
  | raise generation known =>
      exact { sound with
        knownQueue := fun each member => (sound.knownQueue each member).setWatermark known _
        knownLanes := fun slot member holding =>
          (sound.knownLanes slot member holding).setWatermark known _ }
  | release presented => exact sound.release presented

/-- The transitions keep the pool sound. -/
theorem Transition.sound (transition : Transition before after)
    (sound : before.Sound) : after.Sound := by
  cases transition with
  | step step => exact step.sound sound
  | beginDrain found =>
      rw [modifySlot_eq_setSlot found]
      exact sound.retouch found _ rfl

/-- What was accepted and what was released. -/
def books (pool : JobWorkerPool κ) : List JobRequestMessage × List Delivery :=
  (pool.accepted, pool.released)

/-- What quiet steps leave alone. -/
def kept (pool : JobWorkerPool κ) :
    (List JobRequestMessage × List Delivery) × JobQosPolicy × List JobRequestMessage :=
  (pool.books, pool.qosPolicy, pool.queueStorage)

theorem Logged.kept (logged : Logged before after) : after.kept = before.kept := by
  obtain ⟨events, rfl⟩ := logged
  rfl

theorem QuietStep.kept (step : QuietStep before after) : after.kept = before.kept := by
  cases step with
  | refuse | emitPreempted => exact ((Logged.refl before).emit _ _).kept
  | dispatch nowNs found =>
      obtain ⟨events, dispatchCursor, same⟩ := dispatch_eq found _ nowNs
      rw [same]
      rfl
  | handoff found =>
      rw [JobWorkerPool.handoff, found]
      rfl
  | noteFailure found =>
      obtain ⟨_, _, _, _, _, -, same⟩ := noteFailure_eq found
      rw [same]
      rfl
  | present found =>
      obtain ⟨consecutiveFailures, events, same⟩ := present_eq found
      rw [same]
      rfl
  | _ => rfl

theorem QuietStep.books (step : QuietStep before after) : after.books = before.books :=
  congrArg Prod.fst step.kept

end JobWorkerPool

end FlowEdge
