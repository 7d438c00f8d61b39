import FlowEdge.Worker.JobSteps

/-!
# Where requests go

A quiet step leaves every request where it was, dispatches one from the queue to a lane, or
hands one over from a lane to another. What the coordinator has cancelled stays so on the
way: a request that is behind the watermark of its session is rejected when it is
dispatched, and the generation that cancels it moves along with it.
-/

namespace FlowEdge

open Words

variable {κ : Type}

namespace Slot

/-- The lane was told to cancel the request of the slot, or it shows a result already that is
not a completion. -/
def Halted (slot : Slot κ) : Prop :=
  slot.generation < slot.cancelGeneration ∨
    (slot.state = .ready ∧ jobResultCode slot.result ≠ .complete)

theorem Halted.runSlot {slot : Slot κ} (halted : slot.Halted) (sound : slot.Sound)
    (nowNs : UInt64) : (slot.runSlot nowNs).Halted := by
  rcases halted with cancelled | ⟨ready, incomplete⟩
  · refine .inl ?_
    rwa [runSlot_generation, runSlot_cancelGeneration]
  · rw [sound.runSlot_eq_of nowNs ready]
    exact .inr ⟨ready, incomplete⟩

theorem Halted.cancelled {slot : Slot κ} (halted : slot.Halted) (notReady : slot.state ≠ .ready) :
    slot.generation < slot.cancelGeneration :=
  halted.resolve_right fun ready => notReady ready.1

end Slot

namespace JobWorkerPool

/-- The request waits in the queue or a lane holds it. -/
def Holds (pool : JobWorkerPool κ) (request : JobRequestMessage) : Prop :=
  (∃ queueSlot ∈ pool.queueOrder, pool.queued queueSlot = request) ∨
    ∃ slot ∈ pool.slots, slot.holding = true ∧ slot.request = request

/-! ## Steps that move no request -/

/-- Every request is where it was, and as cancelled as it was. -/
structure Unmoved (before after : JobWorkerPool κ) : Prop where
  length : after.slots.length = before.slots.length
  lanes : ∀ (index : Nat) (old new : Slot κ), before.slots[index]? = some old →
    after.slots[index]? = some new →
    new.claim = old.claim ∧ (new.holding = true → old.Halted → new.Halted)
  order : after.queueOrder = before.queueOrder
  storage : after.queueStorage = before.queueStorage
  tickets : after.tickets = before.tickets
  books : after.books = before.books
  sessions : ∀ request, before.Holds request →
    after.findSession request.metadata.descriptor.sessionId =
      before.findSession request.metadata.descriptor.sessionId

theorem Unmoved.refl (pool : JobWorkerPool κ) : Unmoved pool pool where
  length := rfl
  lanes _ _ _ found again := by cases found.symm.trans again; exact ⟨rfl, fun _ => id⟩
  order := rfl
  storage := rfl
  tickets := rfl
  books := rfl
  sessions _ _ := rfl

variable {before after : JobWorkerPool κ}

theorem Unmoved.logged (logged : Logged before after) : Unmoved before after := by
  obtain ⟨events, rfl⟩ := logged
  exact { Unmoved.refl before with }

variable {pool : JobWorkerPool κ} {slot : Slot κ} {index : Nat}

theorem Unmoved.setSlot (found : pool.slots[index]? = some slot) (other : Slot κ)
    (same : other.claim = slot.claim) (halted : other.holding = true → slot.Halted → other.Halted) :
    Unmoved pool (pool.setSlot index other) := by
  refine { Unmoved.refl pool with length := List.length_set, lanes := ?_ }
  intro lane old new before after
  by_cases here : index = lane
  · subst here
    cases found.symm.trans before
    cases (found_setSlot found other).symm.trans after
    exact ⟨same, halted⟩
  · rw [JobWorkerPool.setSlot, List.getElem?_set_ne here] at after
    cases before.symm.trans after
    exact ⟨rfl, fun _ => id⟩

theorem Unmoved.modifySlot (found : pool.slots[index]? = some slot) {update : Slot κ → Slot κ}
    (same : (update slot).claim = slot.claim)
    (halted : (update slot).holding = true → slot.Halted → (update slot).Halted) :
    Unmoved pool (pool.modifySlot index update) := by
  rw [modifySlot_eq_setSlot found]
  exact Unmoved.setSlot found _ same halted

theorem claim_congr {other : Slot κ} (holding : other.holding = slot.holding)
    (request : other.request = slot.request) (ticket : other.ticket = slot.ticket) :
    other.claim = slot.claim := by
  rw [Slot.claim, Slot.claim, holding, request, ticket]

theorem Unmoved.lane (sound : pool.Sound) (index : Nat) (nowNs : UInt64) :
    Unmoved pool (pool.modifySlot index (·.runSlot nowNs)) := by
  cases found : pool.slots[index]? with
  | none =>
      rw [modifySlot_eq_self found]
      exact Unmoved.refl pool
  | some slot =>
      have lane := sound.lane found
      exact Unmoved.modifySlot found (Slot.claim_runSlot lane nowNs)
        fun _ halted => halted.runSlot lane nowNs

theorem halted_preempt (found : pool.slots[index]? = some slot) {generation : UInt64}
    (older : slot.generation < generation) (nowNs : UInt64) :
    Unmoved pool (pool.preempt index generation nowNs) ∧
      ∀ after, (pool.preempt index generation nowNs).slots[index]? = some after →
        after.Halted := by
  have halted : Slot.Halted { slot with
      cancelGeneration := wordMax slot.cancelGeneration generation, preemptedNs := nowNs } := by
    refine .inl ?_
    show slot.generation < wordMax slot.cancelGeneration generation
    rw [UInt64.lt_iff_toNat_lt, toNat_wordMax]
    exact lt_max_of_lt_right (UInt64.lt_iff_toNat_lt.mp older)
  refine ⟨Unmoved.modifySlot found rfl fun _ _ => halted, fun after here => ?_⟩
  rw [preempt, modifySlot_eq_setSlot found, found_setSlot found] at here
  cases here
  exact halted

theorem halted_rejectReady (sound : pool.Sound) (found : pool.slots[index]? = some slot)
    (ready : slot.state = .ready) (nowNs : UInt64) :
    let rejected := pool.modifySlot index fun slot => writeRejection slot nowNs .rejectedStale
    Unmoved pool rejected ∧ ∀ after, rejected.slots[index]? = some after → after.Halted := by
  obtain ⟨result, written, -, code⟩ := rejectReady_ok (sound.lane found) ready nowNs
  have halted : Slot.Halted { slot with result } := .inr ⟨ready, by simp [code]⟩
  rw [modifySlot_eq_setSlot found, written]
  refine ⟨Unmoved.setSlot found _ rfl fun _ _ => halted, fun after here => ?_⟩
  rw [found_setSlot found] at here
  cases here
  exact halted

theorem Unmoved.beginDrain (found : pool.slots[index]? = some slot) :
    Unmoved pool (pool.modifySlot index JobWorkerPool.beginDrain) :=
  Unmoved.modifySlot found rfl fun _ halted => halted

/-- A quiet step moves no request, or it dispatches one, or it hands one over. -/
theorem QuietStep.moves (step : QuietStep before after) (sound : before.Sound) :
    Unmoved before after ∨
      (∃ index position nowNs slot, before.slots[index]? = some slot ∧ slot.state = .idle ∧
        position < before.queueOrder.length ∧ after = before.dispatch index position nowNs) ∨
      ∃ source destination exporter target, before.slots[source]? = some exporter ∧
        exporter.state = .migrationReady ∧ before.slots[destination]? = some target ∧
        target.state = .idle ∧ destination ≠ source ∧
        after = before.handoff source destination := by
  cases step with
  | lane index nowNs => exact .inl (Unmoved.lane sound index nowNs)
  | refuse => exact .inl (Unmoved.logged ((Logged.refl before).emit _ _))
  | countQos => exact .inl { Unmoved.refl before with }
  | @openSession sessionId generation unknown room =>
      refine .inl { Unmoved.refl before with sessions := fun request held => ?_ }
      have known : before.Knows request := by
        rcases held with ⟨queueSlot, member, rfl⟩ | ⟨slot, member, holding, rfl⟩
        · exact sound.knownQueue queueSlot member
        · exact sound.knownLanes slot member holding
      refine findSession_openSession before ?_ generation
      rintro rfl
      simp [Knows, unknown] at known
  | closeSession unqueued unused =>
      refine .inl { Unmoved.refl before with sessions := fun request held => ?_ }
      apply findSession_closeSession before
      rcases held with ⟨queueSlot, member, rfl⟩ | ⟨slot, member, holding, rfl⟩
      · exact unqueued queueSlot member
      · rw [← ((sound.lanes slot member).owns holding).session]
        refine (unused slot member).resolve_left fun idle => ?_
        simp [Slot.holding, idle] at holding
  | preempt nowNs found watermark session older =>
      exact .inl (halted_preempt found older nowNs).1
  | emitPreempted =>
      exact .inl (Unmoved.logged ((Logged.refl before).emit _ _))
  | rejectReady nowNs found watermark session older ready =>
      exact .inl (halted_rejectReady sound found ready nowNs).1
  | dispatch nowNs found idle accepting selected =>
      exact .inr (.inl ⟨_, _, nowNs, _, found, idle, (selectPosition_some selected).1, rfl⟩)
  | handoff found targetFound different exported idle =>
      exact .inr (.inr ⟨_, _, _, _, found, exported, targetFound, idle, different, rfl⟩)
  | resumeLocally found exported =>
      refine .inl (Unmoved.modifySlot found ?_ fun _ halted => ?_)
      · exact claim_congr (by simp [Slot.holding, exported, JobWorkerPool.resumeLocally]) rfl rfl
      · exact .inl (halted.cancelled (by simp [exported]))
  | drainIdle found idle =>
      refine .inl (Unmoved.modifySlot found ?_ fun holding => by cases holding)
      rw [claim_of_vacated (.inr rfl), claim_of_vacated (.inl idle)]
  | requestMigration hasTarget found =>
      exact .inl (Unmoved.modifySlot found rfl fun _ halted => halted)
  | resumeDrained found drained | recoverDrained found drained =>
      refine .inl (Unmoved.modifySlot found ?_ fun holding => by cases holding)
      rw [claim_of_vacated (.inl rfl), claim_of_vacated (.inr drained)]
  | @noteFailure index slot found ready =>
      obtain ⟨consecutiveFailures, quarantined, drainRequested, _, _, -, same⟩ :=
        noteFailure_eq found
      rw [same]
      have unmoved := Unmoved.setSlot found
        { slot with executionFailed := false, consecutiveFailures, quarantined, drainRequested }
        (claim_congr rfl rfl rfl) fun _ halted => halted
      exact .inl { unmoved with }
  | @present index slot found ready valid unread =>
      obtain ⟨consecutiveFailures, _, same⟩ := present_eq found
      rw [same]
      have unmoved := Unmoved.setSlot found
        { slot with consecutiveFailures, eventsPublished := true }
        (claim_congr rfl rfl rfl) fun _ halted => halted
      exact .inl { unmoved with }

/-! ## Where the requests of a lane come from -/

theorem claim_of_holding (holding : slot.holding = true) :
    slot.claim = some (slot.request, slot.ticket) :=
  if_pos holding

theorem held_of_claim_eq {other : Slot κ} (same : other.claim = slot.claim)
    (holding : slot.holding = true) : other.holding = true ∧ other.request = slot.request := by
  rw [claim_of_holding holding] at same
  obtain ⟨held, request, -⟩ := Slot.claim_eq_some.mp same
  exact ⟨held, request⟩

theorem claim_receive (source destination : Slot κ) (index : Nat) :
    (receive source destination index).claim = some (source.request, source.ticket) :=
  claim_of_holding (by simp [receive, Slot.holding])

/-- A stale request is rejected when it is dispatched. -/
theorem halted_launched (sound : pool.Sound) (slot : Slot κ) {position : Nat}
    (bound : position < pool.queueOrder.length) (nowNs : UInt64)
    (stale : pool.stale (pool.queuedAt position) = true) :
    (pool.launched slot position nowNs).Halted := by
  let entry := pool.entryAt (pool.queueOrder.getD position 0)
  have valid : (assign slot entry.1 entry.2 nowNs).request.validate = .success :=
    queued_valid sound bound
  obtain ⟨result, written, -, code⟩ := writeRejection_ok valid nowNs
    (show JobResultCode.rejected .rejectedStale = true by decide)
  have rejected : pool.launched slot position nowNs =
      rejectSlot (assign slot entry.1 entry.2 nowNs) nowNs .rejectedStale := if_pos stale
  rw [rejected, rejectSlot, written]
  exact .inr ⟨rfl, by simp [code]⟩

/-- What a lane holds after a step it held before, or another lane did, or it was queued, and
it is as cancelled as it was; what waits in the queue waited there before. -/
structure Origin (before after : JobWorkerPool κ) : Prop where
  queue : ∀ queueSlot ∈ after.queueOrder,
    queueSlot ∈ before.queueOrder ∧ after.entryAt queueSlot = before.entryAt queueSlot
  lanes : ∀ slot ∈ after.slots, slot.holding = true →
    (∃ old ∈ before.slots, old.claim = slot.claim ∧ (old.Halted → slot.Halted)) ∨
      ∃ queueSlot ∈ before.queueOrder, slot.claim = some (before.entryAt queueSlot) ∧
        (before.stale (before.queued queueSlot) = true → slot.Halted)
  sessions : ∀ request, before.Holds request →
    after.findSession request.metadata.descriptor.sessionId =
      before.findSession request.metadata.descriptor.sessionId

variable {request : JobRequestMessage}

theorem Origin.stale (origin : Origin before after) (held : before.Holds request) :
    after.stale request = before.stale request := by
  rw [JobWorkerPool.stale, JobWorkerPool.stale, origin.sessions request held]

/-- Quiet steps bring no new request. -/
theorem Origin.holds (origin : Origin before after) (held : after.Holds request) :
    before.Holds request := by
  rcases held with ⟨queueSlot, member, rfl⟩ | ⟨slot, member, holding, rfl⟩
  · obtain ⟨earlier, same⟩ := origin.queue queueSlot member
    exact .inl ⟨queueSlot, earlier, (congrArg Prod.fst same).symm⟩
  · rcases origin.lanes slot member holding with ⟨old, inside, same, -⟩ |
      ⟨queueSlot, inside, same, -⟩
    · exact .inr ⟨old, inside, held_of_claim_eq same holding⟩
    · exact .inl ⟨queueSlot, inside, (Slot.claim_eq_some.mp same).2.1.symm⟩

theorem Origin.setSlot (index : Nat) (other : Slot κ) (placed : other.holding = true →
      (∃ old ∈ pool.slots, old.claim = other.claim ∧ (old.Halted → other.Halted)) ∨
      ∃ queueSlot ∈ pool.queueOrder, other.claim = some (pool.entryAt queueSlot) ∧
        (pool.stale (pool.queued queueSlot) = true → other.Halted)) :
    Origin pool (pool.setSlot index other) where
  queue _ member := ⟨member, rfl⟩
  lanes slot member holding := by
    rcases List.mem_or_eq_of_mem_set member with old | rfl
    · exact .inl ⟨slot, old, rfl, id⟩
    · exact placed holding
  sessions _ _ := rfl

theorem Unmoved.origin (unmoved : Unmoved before after) : Origin before after := by
  refine ⟨fun queueSlot member => ?_, fun slot member holding => .inl ?_, unmoved.sessions⟩
  · rw [unmoved.order] at member
    rw [entryAt, entryAt, queued, queued, unmoved.storage, unmoved.tickets]
    exact ⟨member, rfl⟩
  · obtain ⟨index, bound, rfl⟩ := List.getElem_of_mem member
    have earlier : index < before.slots.length := unmoved.length ▸ bound
    obtain ⟨claim, halted⟩ := unmoved.lanes index _ _ (List.getElem?_eq_getElem earlier)
      (List.getElem?_eq_getElem bound)
    exact ⟨_, List.getElem_mem earlier, claim.symm, halted holding⟩

theorem QuietStep.origin (step : QuietStep before after) (sound : before.Sound) :
    Origin before after := by
  rcases step.moves sound with unmoved | ⟨index, position, nowNs, slot, found, idle, bound, rfl⟩ |
    ⟨source, destination, exporter, target, found, exported, targetFound, idle, different, rfl⟩
  · exact unmoved.origin
  · obtain ⟨events, dispatchCursor, same⟩ := dispatch_eq found position nowNs
    obtain ⟨-, claim, -⟩ := launched_cases sound found idle bound nowNs
    have member : before.queueOrder.getD position 0 ∈ before.queueOrder := by
      rw [List.getD_eq_getElem _ _ bound]
      exact List.getElem_mem bound
    have placed := Origin.setSlot index (before.launched slot position nowNs) fun _ =>
      .inr ⟨_, member, claim, halted_launched sound slot bound nowNs⟩
    rw [same]
    exact { placed with queue := fun _ member => ⟨List.mem_of_mem_eraseIdx member, rfl⟩ }
  · obtain ⟨same, still⟩ := handoff_eq found targetFound different
    have held : exporter.claim = some (exporter.request, exporter.ticket) :=
      claim_of_holding (Slot.holding_of exported)
    rw [same]
    refine ⟨fun _ member => ⟨member, rfl⟩, fun slot member holding => .inl ?_, fun _ _ => rfl⟩
    rcases List.mem_or_eq_of_mem_set member with earlier | rfl
    · rcases List.mem_or_eq_of_mem_set earlier with old | rfl
      · exact ⟨slot, old, rfl, id⟩
      · simp [vacate, Slot.holding] at holding
    · refine ⟨exporter, List.mem_of_getElem? found, ?_, fun halted => ?_⟩
      · rw [held, claim_receive]
      · exact .inl (halted.cancelled (by simp [exported]))

/-! ## Lanes that know that they are stale -/

/-- Every lane with a stale request was told so. -/
def Settled (pool : JobWorkerPool κ) : Prop :=
  ∀ slot ∈ pool.slots, slot.holding = true → pool.stale slot.request = true → slot.Halted

/-- Every lane with a stale request was told so, apart perhaps from some lanes that work for a
session. -/
def SettledBut (pool : JobWorkerPool κ) (sessionId : UInt64) (lanes : List Nat) : Prop :=
  ∀ (index : Nat) (slot : Slot κ), pool.slots[index]? = some slot → slot.holding = true →
    pool.stale slot.request = true →
    (slot.request.metadata.descriptor.sessionId = sessionId ∧ index ∈ lanes) ∨ slot.Halted

variable {sessionId : UInt64}

theorem settledBut_nil : pool.SettledBut sessionId [] ↔ pool.Settled := by
  refine ⟨fun settled slot member holding stale => ?_, fun settled index slot found holding stale =>
    .inr (settled slot (List.mem_of_getElem? found) holding stale)⟩
  obtain ⟨index, found⟩ := List.mem_iff_getElem?.mp member
  exact (settled index slot found holding stale).resolve_left fun here => by simp at here

/-- The loop over the lanes has dealt with one. -/
theorem SettledBut.next {rest : List Nat} (settled : pool.SettledBut sessionId (index :: rest))
    (here : ∀ slot : Slot κ, pool.slots[index]? = some slot → slot.holding = true →
      pool.stale slot.request = true →
      slot.request.metadata.descriptor.sessionId = sessionId → slot.Halted) :
    pool.SettledBut sessionId rest := by
  intro lane slot found holding stale
  rcases settled lane slot found holding stale with ⟨session, member⟩ | halted
  · rcases List.mem_cons.mp member with rfl | member
    · exact .inr (here slot found holding stale session)
    · exact .inl ⟨session, member⟩
  · exact .inr halted

theorem SettledBut.unmoved {lanes : List Nat} (settled : before.SettledBut sessionId lanes)
    (unmoved : Unmoved before after) : after.SettledBut sessionId lanes := by
  intro index slot found holding stale
  obtain ⟨bound, -⟩ := List.getElem?_eq_some_iff.mp found
  rw [unmoved.length] at bound
  have earlier := List.getElem?_eq_getElem bound
  obtain ⟨claim, halted⟩ := unmoved.lanes index _ slot earlier found
  obtain ⟨held, request⟩ := held_of_claim_eq claim.symm holding
  have known : before.Holds slot.request := .inr ⟨_, List.getElem_mem bound, held, request⟩
  rw [JobWorkerPool.stale, unmoved.sessions _ known, ← JobWorkerPool.stale, ← request] at stale
  rw [← request]
  exact (settled index _ earlier held stale).imp_right (halted holding)

theorem Settled.but (settled : pool.Settled) (sessionId : UInt64) (lanes : List Nat) :
    pool.SettledBut sessionId lanes :=
  fun _ slot found holding stale => .inr (settled slot (List.mem_of_getElem? found) holding stale)

/-- A change of the watermark of a session concerns the lanes that work for it. -/
theorem SettledBut.sessions (settled : before.SettledBut sessionId (List.range before.slots.length))
    (slots : after.slots = before.slots)
    (others : ∀ other, other ≠ sessionId → after.findSession other = before.findSession other) :
    after.SettledBut sessionId (List.range after.slots.length) := by
  intro index slot found holding stale
  obtain ⟨bound, -⟩ := List.getElem?_eq_some_iff.mp found
  by_cases same : slot.request.metadata.descriptor.sessionId = sessionId
  · exact .inl ⟨same, List.mem_range.mpr bound⟩
  · rw [JobWorkerPool.stale, others _ same, ← JobWorkerPool.stale] at stale
    rw [slots] at found
    exact .inr ((settled index slot found holding stale).resolve_left fun here => same here.1)

theorem Origin.settled (origin : Origin before after) (settled : before.Settled) :
    after.Settled := by
  intro slot member holding isStale
  rcases origin.lanes slot member holding with ⟨old, inside, same, halted⟩ |
    ⟨queueSlot, inside, same, halted⟩
  · obtain ⟨held, request⟩ := held_of_claim_eq same holding
    rw [← request, origin.stale (.inr ⟨old, inside, held, rfl⟩)] at isStale
    exact halted (settled old inside held isStale)
  · obtain ⟨-, request, -⟩ := Slot.claim_eq_some.mp same
    rw [request] at isStale
    exact halted (origin.stale (.inl ⟨queueSlot, inside, rfl⟩) ▸ isStale)

/-! ### Admission -/

theorem findSession_noteSession (pool : JobWorkerPool κ) (descriptor : JobDescriptor)
    {other : UInt64}
    (different : other ≠ descriptor.sessionId) :
    (pool.noteSession descriptor).findSession other = pool.findSession other := by
  unfold noteSession
  split
  · exact findSession_openSession pool different _
  split
  · exact findSession_setWatermark pool different _
  · rfl

theorem watermark_noteSession
    (capacity : pool.hasSessionCapacity request.metadata.descriptor.sessionId = true)
    (current : pool.stale request = false) :
    (pool.noteSession request.metadata.descriptor).WatermarkIs
      request.metadata.descriptor.sessionId request.metadata.descriptor.generation := by
  unfold noteSession
  split
  · next unknown =>
      refine watermark_openSession _ unknown ?_
      simpa [hasSessionCapacity, unknown] using capacity
  · next entry found =>
      split
      · exact watermark_setWatermark found _
      · next notNewer =>
          rw [stale, found] at current
          refine ⟨entry, found, UInt64.le_antisymm ?_ (UInt64.not_lt.mp notNewer)⟩
          exact UInt64.not_lt.mp (of_decide_eq_false current)

theorem settled_noteSession (settled : pool.Settled)
    (known : ∀ slot ∈ pool.slots, slot.holding = true → pool.Knows slot.request)
    (notNewer : pool.supersedes request = false) :
    (pool.noteSession request.metadata.descriptor).Settled := by
  unfold noteSession
  split
  · next unknown =>
      intro slot member holding stale
      have different : slot.request.metadata.descriptor.sessionId ≠
          request.metadata.descriptor.sessionId := by
        intro same
        have here := known slot member holding
        rw [Knows, same, unknown] at here
        cases here
      rw [JobWorkerPool.stale, findSession_openSession pool different] at stale
      exact settled slot member holding stale
  · next entry found =>
      rw [supersedes, found] at notNewer
      rw [if_neg (of_decide_eq_false notNewer)]
      exact settled

/-- Admission sets the watermark of the session. Lanes with older requests of the session, which
there are only if the request supersedes them, do not know yet. -/
theorem Settled.admitRequest (sound : pool.Sound) (settled : pool.Settled)
    (admissible : pool.Admissible request) (timestampNs : UInt64) :
    (pool.admitRequest request timestampNs).WatermarkIs request.metadata.descriptor.sessionId
        request.metadata.descriptor.generation ∧
      (pool.admitRequest request timestampNs).SettledBut request.metadata.descriptor.sessionId
        (List.range (pool.admitRequest request timestampNs).slots.length) ∧
      (pool.supersedes request = false → (pool.admitRequest request timestampNs).Settled) := by
  obtain ⟨events, logged⟩ : Logged (pool.enqueue request)
    ((pool.enqueue request).emitAdmitted request timestampNs) := (Logged.refl _).emit _ _
  obtain ⟨sessions, noted⟩ := noteSession_eq
    { pool.enqueue request with events } request.metadata.descriptor
  unfold JobWorkerPool.admitRequest
  rw [logged]
  refine ⟨watermark_noteSession admissible.session admissible.current, ?_, fun notNewer => ?_⟩
  · refine SettledBut.sessions (settled.but _ _) ?_ fun other different => ?_
    · rw [noted]
      rfl
    · exact findSession_noteSession _ _ different
  · have queued : Settled { pool.enqueue request with events } := settled
    exact settled_noteSession queued sound.knownLanes notNewer

/-! ## Requests that cannot complete any more -/

/-- The chosen requests are stale, and a lane that has one was told so. -/
structure Fated (pool : JobWorkerPool κ) (chosen : JobRequestMessage × Nat → Prop) : Prop where
  queue : ∀ queueSlot ∈ pool.queueOrder, chosen (pool.entryAt queueSlot) →
    pool.stale (pool.queued queueSlot) = true
  lanes : ∀ slot ∈ pool.slots, ∀ entry, slot.claim = some entry → chosen entry →
    pool.stale slot.request = true ∧ slot.Halted

theorem Fated.mono {chosen fewer : JobRequestMessage × Nat → Prop} (fated : pool.Fated chosen)
    (included : ∀ entry, fewer entry → chosen entry) :
    pool.Fated fewer where
  queue queueSlot member isChosen := fated.queue queueSlot member (included _ isChosen)
  lanes slot member entry claim isChosen :=
    fated.lanes slot member entry claim (included _ isChosen)

/-- The requests of a session that are older than a generation cannot complete. -/
abbrev Fenced (pool : JobWorkerPool κ) (sessionId generation : UInt64) : Prop :=
  pool.Fated fun entry => entry.1.metadata.descriptor.sessionId = sessionId ∧
    entry.1.metadata.descriptor.generation < generation

theorem Settled.fenced (settled : pool.Settled) {watermark generation : UInt64}
    (raised : pool.WatermarkIs sessionId watermark) (reached : generation ≤ watermark) :
    pool.Fenced sessionId generation := by
  obtain ⟨entry, found, rfl⟩ := raised
  have stale : ∀ request : JobRequestMessage,
      request.metadata.descriptor.sessionId = sessionId →
      request.metadata.descriptor.generation < generation → pool.stale request = true := by
    intro request session older
    rw [JobWorkerPool.stale, session, found]
    exact decide_eq_true (UInt64.lt_of_lt_of_le older reached)
  refine ⟨fun queueSlot _ old => stale _ old.1 old.2, fun slot member entry claim old => ?_⟩
  obtain ⟨holding, request, -⟩ := Slot.claim_eq_some.mp claim
  rw [← request] at old
  have isStale := stale _ old.1 old.2
  exact ⟨isStale, settled slot member holding isStale⟩

/-- The pool has no request of a session that it does not know. -/
theorem Sound.fenced (sound : pool.Sound) (unknown : pool.findSession sessionId = none)
    (generation : UInt64) : pool.Fenced sessionId generation := by
  have elsewhere : ∀ request, pool.Knows request →
      request.metadata.descriptor.sessionId ≠ sessionId := by
    rintro request known rfl
    rw [Knows, unknown] at known
    cases known
  refine ⟨fun queueSlot member old => ?_, fun slot member entry claim old => ?_⟩
  · exact absurd old.1 (elsewhere _ (sound.knownQueue queueSlot member))
  · obtain ⟨holding, request, -⟩ := Slot.claim_eq_some.mp claim
    rw [← request] at old
    exact absurd old.1 (elsewhere _ (sound.knownLanes slot member holding))

theorem Origin.fated (origin : Origin before after) {chosen : JobRequestMessage × Nat → Prop}
    (fated : before.Fated chosen) : after.Fated chosen := by
  refine ⟨fun queueSlot member isChosen => ?_, fun slot member entry claim isChosen => ?_⟩
  · obtain ⟨earlier, same⟩ := origin.queue queueSlot member
    have request : after.queued queueSlot = before.queued queueSlot := congrArg Prod.fst same
    rw [request, origin.stale (.inl ⟨queueSlot, earlier, rfl⟩)]
    exact fated.queue queueSlot earlier (same ▸ isChosen)
  · obtain ⟨holding, request, -⟩ := Slot.claim_eq_some.mp claim
    rcases origin.lanes slot member holding with ⟨old, inside, same, halted⟩ |
      ⟨queueSlot, inside, same, halted⟩
    · obtain ⟨held, kept⟩ := held_of_claim_eq same holding
      obtain ⟨isStale, isHalted⟩ := fated.lanes old inside entry (same.trans claim) isChosen
      rw [← kept, origin.stale (.inr ⟨old, inside, held, rfl⟩)]
      exact ⟨isStale, halted isHalted⟩
    · obtain rfl : entry = before.entryAt queueSlot := Option.some.inj (claim.symm.trans same)
      have isStale := fated.queue queueSlot inside isChosen
      rw [request]
      exact ⟨(origin.stale (.inl ⟨queueSlot, inside, rfl⟩)).trans isStale, halted isStale⟩

/-- Requests that cannot complete never can again, whatever is accepted beside them. -/
theorem Step.fated (sound : before.Sound)
    (step : Step before after) {chosen : JobRequestMessage × Nat → Prop}
    (unborn : ∀ request, ¬ chosen (request, before.accepted.length))
    (fated : before.Fated chosen) : after.Fated chosen := by
  cases step with
  | quiet step => exact (step.origin sound).fated fated
  | @admitRequest request timestampNs admissible =>
      have stays : ∀ other, before.stale other = true →
          (before.admitRequest request timestampNs).stale other = true := by
        obtain ⟨events, logged⟩ : Logged (before.enqueue request)
          ((before.enqueue request).emitAdmitted request timestampNs) := (Logged.refl _).emit _ _
        intro other isStale
        rw [JobWorkerPool.admitRequest, logged]
        exact stale_noteSession _ isStale
      obtain ⟨sessions, events, same⟩ := before.admit_eq request timestampNs
      obtain ⟨queueSlot, order, -, here, others⟩ := sound.enqueue admissible.room request
      rw [same] at stays ⊢
      refine ⟨fun each member isChosen => ?_, fun slot member entry claim isChosen => ?_⟩
      · have member : each ∈ (before.enqueue request).queueOrder := member
        have isChosen : chosen ((before.enqueue request).entryAt each) := isChosen
        rw [order, List.mem_append, List.mem_singleton] at member
        rcases member with old | rfl
        · have request := congrArg Prod.fst (others each old)
          refine (congrArg _ request).trans (stays _ (fated.queue each old ?_))
          rwa [← others each old]
        · rw [here] at isChosen
          exact absurd isChosen (unborn request)
      · obtain ⟨isStale, halted⟩ := fated.lanes slot member entry claim isChosen
        exact ⟨stays _ isStale, halted⟩
  | @raise sessionId entry generation known =>
      have rises : entry.generation ≤ wordMax entry.generation generation := by
        rw [UInt64.le_iff_toNat_le, toNat_wordMax]
        exact le_max_left _ _
      refine ⟨fun each member isChosen => ?_, fun slot member entry claim isChosen => ?_⟩
      · exact stale_setWatermark known rises (fated.queue each member isChosen)
      · obtain ⟨isStale, halted⟩ := fated.lanes slot member entry claim isChosen
        exact ⟨stale_setWatermark known rises isStale, halted⟩
  | @release index presented =>
      obtain ⟨slot, found, ready⟩ := sound.presented index presented
      unfold JobWorkerPool.release
      rw [found]
      rw [modifySlot_eq_setSlot found]
      refine ⟨fated.queue, fun each member entry claim isChosen => ?_⟩
      rcases List.mem_or_eq_of_mem_set member with old | rfl
      · exact fated.lanes each old entry claim isChosen
      · rw [claim_of_vacated (state_vacant _)] at claim
        cases claim

theorem Transition.fated (sound : before.Sound)
    (transition : Transition before after) {chosen : JobRequestMessage × Nat → Prop}
    (unborn : ∀ request, ¬ chosen (request, before.accepted.length))
    (fated : before.Fated chosen) : after.Fated chosen := by
  cases transition with
  | step step => exact step.fated sound unborn fated
  | beginDrain found => exact (Unmoved.beginDrain found).origin.fated fated

end JobWorkerPool

end FlowEdge
