import FlowEdge.Worker.JobConservation

/-!
# Sessions stay fresh

Each session that the pool knows has a watermark, the newest generation that was seen. It
never falls while the session is known, and it covers every request that the pool holds. A
request that is behind the watermark, or late, when it leaves the queue is answered with
the reason at once and never run.
-/

namespace FlowEdge

open Words StatePrograms

variable {κ : Type}

namespace JobWorkerPool

/-! ## The table of sessions -/

/-- No session has two entries. -/
def Distinct (sessions : List SessionWatermark) : Prop :=
  sessions.Pairwise fun first second =>
    first.occupied = true → second.occupied = true → first.sessionId ≠ second.sessionId

theorem mem_modifyFirst {α : Type} {test : α → Bool} {update : α → α} {items : List α} {item : α}
    (member : item ∈ modifyFirst test update items) :
    item ∈ items ∨ ∃ chosen ∈ items, test chosen = true ∧ item = update chosen := by
  induction items with
  | nil => cases member
  | cons first rest ih =>
      unfold modifyFirst at member
      split at member
      · next here =>
          rcases List.mem_cons.mp member with rfl | later
          · exact .inr ⟨first, List.mem_cons_self, here, rfl⟩
          · exact .inl (List.mem_cons_of_mem first later)
      · rcases List.mem_cons.mp member with rfl | later
        · exact .inl List.mem_cons_self
        · rcases ih later with old | ⟨chosen, inside, rest⟩
          · exact .inl (List.mem_cons_of_mem first old)
          · exact .inr ⟨chosen, List.mem_cons_of_mem first inside, rest⟩

/-- A change of one entry keeps the entries apart if the entry stays apart from all others. -/
theorem Distinct.modifyFirst {sessions : List SessionWatermark} (distinct : Distinct sessions)
    {test : SessionWatermark → Bool} {update : SessionWatermark → SessionWatermark}
    (apart : ∀ chosen ∈ sessions, test chosen = true → ∀ other ∈ sessions,
      (other.occupied = true → chosen.occupied = true → other.sessionId ≠ chosen.sessionId) →
      other.occupied = true → (update chosen).occupied = true →
      other.sessionId ≠ (update chosen).sessionId) :
    Distinct (modifyFirst test update sessions) := by
  induction sessions with
  | nil => exact List.Pairwise.nil
  | cons first rest ih =>
      obtain ⟨before, others⟩ := List.pairwise_cons.mp distinct
      unfold JobWorkerPool.modifyFirst
      split
      · next here =>
          refine List.pairwise_cons.mpr ⟨fun other member occupied isOccupied => ?_, others⟩
          exact (apart first List.mem_cons_self here other (List.mem_cons_of_mem first member)
            (fun taken chosen => (before other member chosen taken).symm) isOccupied occupied).symm
      · refine List.pairwise_cons.mpr
          ⟨fun other member => ?_, ih others fun chosen inside here other member =>
            apart chosen (List.mem_cons_of_mem first inside) here other
              (List.mem_cons_of_mem first member)⟩
        rcases mem_modifyFirst member with old | ⟨chosen, inside, here, rfl⟩
        · exact before other old
        · exact apart chosen (List.mem_cons_of_mem first inside) here first List.mem_cons_self
            (before chosen inside)

/-- No session is closed: a step leaves the sessions alone, opens one or raises one. -/
inductive SessionRise (before after : JobWorkerPool κ) : Prop where
  | same (equal : after.sessions = before.sessions)
  | opened (sessionId generation : UInt64) (unknown : before.findSession sessionId = none)
      (equal : after.sessions = (before.openSession sessionId generation).sessions)
  | raised (sessionId generation : UInt64) (entry : SessionWatermark)
      (known : before.findSession sessionId = some entry) (rises : entry.generation ≤ generation)
      (equal : after.sessions = (before.setWatermark sessionId generation).sessions)

theorem SessionRise.distinct {before after : JobWorkerPool κ} (rise : SessionRise before after)
    (distinct : Distinct before.sessions) : Distinct after.sessions := by
  cases rise with
  | same equal => rwa [equal]
  | opened sessionId generation unknown equal =>
      rw [equal]
      refine distinct.modifyFirst fun _ _ _ other member _ occupied _ same => ?_
      have absent := List.find?_eq_none.mp unknown other member
      simp [occupied, same] at absent
  | raised sessionId generation entry known rises equal =>
      rw [equal]
      exact distinct.modifyFirst fun _ _ _ _ _ apart => apart

variable {pool : JobWorkerPool κ}

theorem Distinct.closeSession (distinct : Distinct pool.sessions) (sessionId : UInt64) :
    Distinct (pool.closeSession sessionId).sessions :=
  distinct.modifyFirst nofun

/-- The watermark of the session does not fall. -/
def Rises (before after : JobWorkerPool κ) (sessionId : UInt64) : Prop :=
  ∀ entry, before.findSession sessionId = some entry →
    ∃ later, after.findSession sessionId = some later ∧ entry.generation ≤ later.generation

variable {before after : JobWorkerPool κ}

theorem Rises.of_eq {sessionId : UInt64}
    (equal : after.findSession sessionId = before.findSession sessionId) :
    Rises before after sessionId :=
  fun entry known => ⟨entry, equal.trans known, UInt64.le_refl _⟩

theorem SessionRise.rises (rise : SessionRise before after)
    (sessionId : UInt64) : Rises before after sessionId := by
  have same : ∀ {pool : JobWorkerPool κ}, after.sessions = pool.sessions →
      after.findSession sessionId = pool.findSession sessionId := by
    intro pool equal
    rw [findSession, equal, ← findSession]
  cases rise with
  | same equal => exact .of_eq (same equal)
  | opened other generation unknown equal =>
      intro entry known
      refine Rises.of_eq ?_ entry known
      rw [same equal]
      apply findSession_openSession before
      rintro rfl
      cases known.symm.trans unknown
  | raised other generation old here rises equal =>
      by_cases different : sessionId = other
      · subst different
        intro entry known
        cases here.symm.trans known
        obtain ⟨later, found, rfl⟩ := watermark_setWatermark known generation
        exact ⟨later, (same equal).trans found, rises⟩
      · exact .of_eq ((same equal).trans (findSession_setWatermark before different generation))

theorem QuietStep.sessions (step : QuietStep before after) :
    SessionRise before after ∨ ∃ sessionId, after = before.closeSession sessionId := by
  have logged : ∀ {after : JobWorkerPool κ}, Logged before after → SessionRise before after := by
    rintro after ⟨events, rfl⟩
    exact .same rfl
  cases step with
  | refuse => exact .inl (logged ((Logged.refl before).emit _ _))
  | openSession generation unknown => exact .inl (.opened _ generation unknown rfl)
  | closeSession => exact .inr ⟨_, rfl⟩
  | emitPreempted => exact .inl (logged ((Logged.refl before).emit _ _))
  | dispatch nowNs found =>
      obtain ⟨events, dispatchCursor, same⟩ := dispatch_eq found _ nowNs
      exact .inl (.same (by rw [same]; rfl))
  | handoff found targetFound different =>
      exact .inl (.same (by rw [(handoff_eq found targetFound different).1]; rfl))
  | noteFailure found =>
      obtain ⟨_, _, _, _, _, -, same⟩ := noteFailure_eq found
      exact .inl (.same (by rw [same]; rfl))
  | present found =>
      obtain ⟨_, _, same⟩ := present_eq found
      exact .inl (.same (by rw [same]; rfl))
  | _ => exact .inl (.same rfl)

theorem sessionRise_admitRequest (pool : JobWorkerPool κ) (request : JobRequestMessage)
    (timestampNs : UInt64) : SessionRise pool (pool.admitRequest request timestampNs) := by
  obtain ⟨events, logged⟩ : Logged (pool.enqueue request)
    ((pool.enqueue request).emitAdmitted request timestampNs) := (Logged.refl _).emit _ _
  rw [admitRequest, logged]
  unfold noteSession
  split
  · next unknown => exact .opened _ _ unknown rfl
  · next entry known =>
      split
      · next newer => exact .raised _ _ entry known (UInt64.le_of_lt newer) rfl
      · exact .same rfl

theorem sessionRise_raise {sessionId : UInt64} {entry : SessionWatermark} (generation : UInt64)
    (known : pool.findSession sessionId = some entry) :
    SessionRise pool (pool.setWatermark sessionId (wordMax entry.generation generation)) := by
  refine .raised _ _ entry known ?_ rfl
  rw [UInt64.le_iff_toNat_le, toNat_wordMax]
  exact le_max_left _ _

theorem sessions_release (pool : JobWorkerPool κ) (index : Nat) :
    (pool.release index).sessions = pool.sessions := by
  unfold release
  split <;> rfl

theorem Transition.sessions (transition : Transition before after) :
    SessionRise before after ∨ ∃ sessionId, after = before.closeSession sessionId := by
  cases transition with
  | step step =>
      cases step with
      | quiet step => exact step.sessions
      | admitRequest timestampNs => exact .inl (sessionRise_admitRequest before _ timestampNs)
      | raise generation known => exact .inl (sessionRise_raise generation known)
      | release => exact .inl (.same (sessions_release before _))
  | beginDrain => exact .inl (.same rfl)

theorem Transition.distinct (transition : Transition before after)
    (distinct : Distinct before.sessions) : Distinct after.sessions := by
  rcases transition.sessions with rise | ⟨sessionId, rfl⟩
  · exact rise.distinct distinct
  · exact distinct.closeSession sessionId

/-- A watermark does not fall, until the session is closed. -/
theorem Transition.rises (transition : Transition before after) (sessionId : UInt64) :
    Rises before after sessionId ∨ after = before.closeSession sessionId := by
  rcases transition.sessions with rise | ⟨other, rfl⟩
  · exact .inl (rise.rises sessionId)
  · by_cases different : sessionId = other
    · exact .inr (different ▸ rfl)
    · exact .inl (.of_eq (findSession_closeSession before different))

/-! ## Watermarks cover the requests -/

/-- The session of the request is known, and the request is not ahead of its watermark. -/
def Covers (pool : JobWorkerPool κ) (request : JobRequestMessage) : Prop :=
  ∃ entry, pool.findSession request.metadata.descriptor.sessionId = some entry ∧
    request.metadata.descriptor.generation ≤ entry.generation

/-- The pool covers every request that it holds. -/
def Covering (pool : JobWorkerPool κ) : Prop := ∀ request, pool.Holds request → pool.Covers request

variable {request : JobRequestMessage}

theorem holds_admitRequest (sound : pool.Sound) {added : JobRequestMessage}
    (admissible : pool.Admissible added) (timestampNs : UInt64)
    (held : (pool.admitRequest added timestampNs).Holds request) :
    request = added ∨ pool.Holds request := by
  obtain ⟨sessions, events, same⟩ := pool.admit_eq added timestampNs
  obtain ⟨fresh, order, -, here, others⟩ := sound.enqueue admissible.room added
  rw [same] at held
  rcases held with ⟨queueSlot, member, rfl⟩ | held
  · have member : queueSlot ∈ (pool.enqueue added).queueOrder := member
    rw [order, List.mem_append, List.mem_singleton] at member
    rcases member with old | rfl
    · exact .inr (.inl ⟨queueSlot, old, (congrArg Prod.fst (others queueSlot old)).symm⟩)
    · exact .inl (congrArg Prod.fst here)
  · exact .inr (.inr held)

theorem Covers.rises (covers : before.Covers request)
    (rises : Rises before after request.metadata.descriptor.sessionId) : after.Covers request := by
  obtain ⟨entry, known, reached⟩ := covers
  obtain ⟨later, found, higher⟩ := rises entry known
  exact ⟨later, found, UInt64.le_trans reached higher⟩

theorem Origin.covering (origin : Origin before after) (covering : before.Covering) :
    after.Covering := by
  intro request held
  have earlier := origin.holds held
  exact (covering request earlier).rises (.of_eq (origin.sessions request earlier))

theorem holds_release {index : Nat} {slot : Slot κ} (found : pool.slots[index]? = some slot)
    (held : (pool.release index).Holds request) : pool.Holds request := by
  rw [release, found] at held
  dsimp only at held
  rw [modifySlot_eq_setSlot found] at held
  refine held.imp id ?_
  rintro ⟨other, member, holding, same⟩
  rcases List.mem_or_eq_of_mem_set member with old | rfl
  · exact ⟨other, old, holding, same⟩
  · rw [Slot.holding_iff] at holding
    rcases state_vacant { slot with remainingWorkUnits := 0 } with state | state
    · exact absurd state holding.1
    · exact absurd state holding.2

theorem Transition.covering (sound : before.Sound)
    (transition : Transition before after) (covering : before.Covering) : after.Covering := by
  cases transition with
  | step step =>
      cases step with
      | quiet step => exact (step.origin sound).covering covering
      | @admitRequest added timestampNs admissible =>
          intro request held
          rcases holds_admitRequest sound admissible timestampNs held with rfl | earlier
          · obtain ⟨events, logged⟩ : Logged (before.enqueue request)
              ((before.enqueue request).emitAdmitted request timestampNs) :=
              (Logged.refl _).emit _ _
            obtain ⟨entry, found, same⟩ :
                (before.admitRequest request timestampNs).WatermarkIs _ _ := by
              rw [JobWorkerPool.admitRequest, logged]
              exact watermark_noteSession admissible.session admissible.current
            exact ⟨entry, found, same ▸ UInt64.le_refl _⟩
          · exact (covering request earlier).rises
              ((sessionRise_admitRequest before added timestampNs).rises _)
      | raise generation known =>
          intro request held
          exact (covering request held).rises ((sessionRise_raise generation known).rises _)
      | @release index presented =>
          obtain ⟨slot, found, -⟩ := sound.presented index presented
          have rise : SessionRise before (before.release index) :=
            .same (sessions_release before index)
          intro request held
          exact (covering request (holds_release found held)).rises (rise.rises _)
  | beginDrain found => exact (Unmoved.beginDrain found).origin.covering covering

/-! ## Leaving the queue -/

/-- The deadline of the request has passed. -/
def lateAt (request : JobRequestMessage) (nowNs : UInt64) : Prop :=
  request.metadata.descriptor.deadlineNs ≠ 0 ∧ request.metadata.descriptor.deadlineNs ≤ nowNs

/-- What a lane does with a request from the queue: it answers a stale or late one at once, and
starts any other. -/
inductive Outcome (pool : JobWorkerPool κ) (slot : Slot κ) : Prop where
  | stale (behind : pool.stale slot.request = true) (ready : slot.state = .ready)
      (code : jobResultCode slot.result = .rejectedStale)
  | late (current : pool.stale slot.request = false) (late : lateAt slot.request slot.dispatchedNs)
      (ready : slot.state = .ready) (code : jobResultCode slot.result = .rejectedDeadline)
  | started (current : pool.stale slot.request = false)
      (timely : ¬ lateAt slot.request slot.dispatchedNs) (requested : slot.state = .requested)

theorem outcome_launched (sound : pool.Sound) (slot : Slot κ) {position : Nat}
    (bound : position < pool.queueOrder.length) (nowNs : UInt64) :
    Outcome pool (pool.launched slot position nowNs) := by
  let assigned := assign slot (pool.queuedAt position)
    (pool.entryAt (pool.queueOrder.getD position 0)).2 nowNs
  have rejected : ∀ code : JobResultCode, code.rejected = true → ∃ result,
      rejectSlot assigned nowNs code =
        { assigned with result, startedNs := nowNs, finishedNs := nowNs, state := .ready } ∧
      jobResultCode result = code := by
    intro code isRejection
    obtain ⟨result, written, -, same⟩ := writeRejection_ok
      (show assigned.request.validate = .success from queued_valid sound bound) nowNs isRejection
    exact ⟨result, by rw [rejectSlot, written], same⟩
  show Outcome pool (pool.launch nowNs assigned)
  unfold launch
  split
  · next behind =>
      obtain ⟨result, written, code⟩ := rejected .rejectedStale (by decide)
      rw [written]
      exact .stale behind rfl code
  · next current =>
      rw [Bool.not_eq_true] at current
      split
      · next late =>
          obtain ⟨result, written, code⟩ := rejected .rejectedDeadline (by decide)
          rw [written]
          exact .late current late rfl code
      · next timely => exact .started current timely rfl

/-- A request that leaves the queue is taken by a lane that had none. -/
def Dispatched (before after : JobWorkerPool κ) (queueSlot : Nat) : Prop :=
  ∃ index slot, before.claimAt index = none ∧ after.slots[index]? = some slot ∧
    slot.claim = some (before.entryAt queueSlot) ∧ Outcome before slot

theorem Transition.dispatched (sound : before.Sound) (transition : Transition before after)
    {queueSlot : Nat} (queued : queueSlot ∈ before.queueOrder)
    (gone : queueSlot ∉ after.queueOrder) :
    Dispatched before after queueSlot := by
  cases transition with
  | step step =>
      cases step with
      | quiet step =>
          rcases step.moves sound with unmoved | ⟨index, position, nowNs, slot, found, idle, bound,
            rfl⟩ | ⟨source, destination, exporter, target, found, -, targetFound, -, different, rfl⟩
          · exact absurd (unmoved.order ▸ queued) gone
          · obtain ⟨events, dispatchCursor, same⟩ := dispatch_eq found position nowNs
            obtain ⟨-, claim, -⟩ := launched_cases sound found idle bound nowNs
            rw [same] at gone ⊢
            have here : before.queueOrder.getD position 0 = queueSlot := by
              obtain ⟨other, inside, rfl⟩ := List.getElem_of_mem queued
              rw [List.getD_eq_getElem _ _ bound]
              by_cases same : other = position
              · subst same
                rfl
              · exact absurd (List.mem_eraseIdx_iff_getElem?.mpr
                  ⟨other, same, List.getElem?_eq_getElem inside⟩) gone
            refine ⟨index, before.launched slot position nowNs, ?_, found_setSlot found _,
              here ▸ claim, outcome_launched sound slot bound nowNs⟩
            rw [claimAt_of_found found, claim_of_vacated (.inl idle)]
          · rw [(handoff_eq found targetFound different).1] at gone
            exact absurd queued gone
      | @admitRequest request timestampNs admissible =>
          obtain ⟨sessions, events, same⟩ := before.admit_eq request timestampNs
          rw [same] at gone
          exact absurd (List.mem_append_left _ queued) gone
      | raise => exact absurd queued gone
      | @release index presented =>
          refine absurd queued ?_
          unfold JobWorkerPool.release at gone
          split at gone <;> exact gone
  | beginDrain => exact absurd queued gone

/-! ## Answers that wait -/

/-- What happens to a lane whose result waits: the result stays, or it is replaced by a
rejection because the request was superseded. -/
structure Waits (old new : Slot κ) : Prop where
  ready : new.state = .ready
  request : new.request = old.request
  ticket : new.ticket = old.ticket
  result : new.result = old.result ∨ jobResultCode new.result = .rejectedStale

theorem Waits.of_same {old new : Slot κ} (ready : old.state = .ready) (same : new.shown = old.shown)
    (ticket : new.ticket = old.ticket) : Waits old new where
  ready := (congrArg Slot.Shown.state same).trans ready
  request := congrArg Slot.Shown.request same
  ticket := ticket
  result := .inl (congrArg Slot.Shown.result same)

theorem QuietStep.waits (sound : before.Sound) (step : QuietStep before after) :
    Lanewise (fun _ old new => old.state = .ready → Waits old new) before after := by
  have refl : ∀ (index : Nat) (slot : Slot κ), slot.state = .ready → Waits slot slot :=
    fun _ slot ready => .of_same ready rfl rfl
  cases step with
  | lane index nowNs =>
      refine .of_lane refl fun slot found ready => ?_
      rw [(sound.lane found).runSlot_eq_of nowNs ready]
      exact refl index slot ready
  | refuse | emitPreempted => exact .of_logged refl ((Logged.refl before).emit _ _)
  | countQos | openSession | closeSession => exact .of_eq refl rfl
  | preempt nowNs found =>
      exact .of_modify refl found fun ready => .of_same ready rfl rfl
  | rejectReady nowNs found watermark session older ready =>
      obtain ⟨result, written, -, code⟩ := rejectReady_ok (sound.lane found) ready nowNs
      refine .of_modify refl found fun _ => ?_
      rw [written]
      exact ⟨ready, rfl, rfl, .inr code⟩
  | dispatch nowNs found idle =>
      obtain ⟨events, dispatchCursor, same⟩ := dispatch_eq found _ nowNs
      rw [same]
      exact .of_set refl found rfl fun ready => by cases idle.symm.trans ready
  | handoff found targetFound different exported idle =>
      rw [(handoff_eq found targetFound different).1]
      exact .of_set_set refl found targetFound rfl (fun ready => by cases exported.symm.trans ready)
        fun ready => by cases idle.symm.trans ready
  | resumeLocally found exported =>
      exact .of_modify refl found fun ready => by cases exported.symm.trans ready
  | drainIdle found idle =>
      exact .of_modify refl found fun ready => by cases idle.symm.trans ready
  | requestMigration hasTarget found =>
      exact .of_modify refl found fun ready => .of_same ready rfl rfl
  | resumeDrained found drained | recoverDrained found drained =>
      exact .of_modify refl found fun ready => by cases drained.symm.trans ready
  | noteFailure found ready =>
      obtain ⟨_, _, _, _, _, -, same⟩ := noteFailure_eq found
      rw [same]
      exact .of_set refl found rfl fun ready => .of_same ready rfl rfl
  | present found ready =>
      obtain ⟨_, _, same⟩ := present_eq found
      rw [same]
      exact .of_set refl found rfl fun ready => .of_same ready rfl rfl

/-- The request with the number was answered under one of the codes: a lane shows the result, or
it was delivered. -/
def Answered (pool : JobWorkerPool κ) (ticket : Nat) (codes : JobResultCode → Prop) : Prop :=
  (∃ slot ∈ pool.slots, slot.state = .ready ∧ slot.ticket = ticket ∧
      codes (jobResultCode slot.result)) ∨
    ∃ delivery ∈ pool.released, delivery.ticket = ticket ∧ codes (jobResultCode delivery.result)

theorem Answered.carry {ticket : Nat} {codes : JobResultCode → Prop}
    (answered : before.Answered ticket codes) (rejection : codes .rejectedStale)
    (waits : Lanewise (fun _ old new => old.state = .ready → Waits old new) before after)
    (released : after.released = before.released) : after.Answered ticket codes := by
  rcases answered with ⟨slot, member, ready, same, code⟩ | delivered
  · obtain ⟨index, found⟩ := List.mem_iff_getElem?.mp member
    obtain ⟨new, becomes, waits⟩ := waits.later found
    have kept := waits ready
    refine .inl ⟨new, List.mem_of_getElem? becomes, kept.ready, kept.ticket.trans same, ?_⟩
    rcases kept.result with same | rejected
    · rwa [same]
    · rwa [rejected]
  · exact .inr (released ▸ delivered)

theorem Answered.release {ticket : Nat} {codes : JobResultCode → Prop}
    (answered : pool.Answered ticket codes) {index : Nat} {presented : Slot κ}
    (found : pool.slots[index]? = some presented) : (pool.release index).Answered ticket codes := by
  rw [JobWorkerPool.release, found]
  rw [modifySlot_eq_setSlot found]
  rcases answered with ⟨slot, member, ready, same, code⟩ | ⟨delivery, member, rest⟩
  · obtain ⟨lane, here⟩ := List.mem_iff_getElem?.mp member
    by_cases chosen : index = lane
    · subst chosen
      cases found.symm.trans here
      exact .inr ⟨_, List.mem_concat_self, same, code⟩
    · have still : ∀ other : Slot κ, slot ∈ pool.slots.set index other :=
        fun other => List.mem_of_getElem? ((List.getElem?_set_ne chosen).trans here)
      exact .inl ⟨slot, still _, ready, same, code⟩
  · exact .inr ⟨delivery, List.mem_append_left _ member, rest⟩

theorem Transition.answered (sound : before.Sound)
    (transition : Transition before after) {ticket : Nat} {codes : JobResultCode → Prop}
    (rejection : codes .rejectedStale) (answered : before.Answered ticket codes) :
    after.Answered ticket codes := by
  have refl : ∀ (index : Nat) (slot : Slot κ), slot.state = .ready → Waits slot slot :=
    fun _ slot ready => .of_same ready rfl rfl
  cases transition with
  | step step =>
      cases step with
      | quiet step =>
          exact answered.carry rejection (step.waits sound) (Prod.mk.inj step.books).2
      | @admitRequest request timestampNs admissible =>
          obtain ⟨sessions, events, same⟩ := before.admit_eq request timestampNs
          rw [same]
          exact answered
      | raise => exact answered
      | @release index presented =>
          obtain ⟨slot, found, -⟩ := sound.presented index presented
          exact answered.release found
  | beginDrain found =>
      exact answered.carry rejection
        (.of_modify refl found fun ready => .of_same ready rfl rfl) rfl

/-! ## Requests that became stale in the queue -/

theorem stale_of_rises (rises : Rises before after request.metadata.descriptor.sessionId)
    (behind : before.stale request = true) : after.stale request = true := by
  unfold stale at behind ⊢
  cases known : before.findSession request.metadata.descriptor.sessionId with
  | none =>
      rw [known] at behind
      cases behind
  | some entry =>
      obtain ⟨later, found, higher⟩ := rises entry known
      rw [known] at behind
      rw [found]
      simp only [decide_eq_true_eq] at behind ⊢
      exact UInt64.lt_of_lt_of_le behind higher

/-- A request that stays in the queue stays the same, and as stale as it was. -/
theorem Transition.queued (sound : before.Sound)
    (transition : Transition before after) {queueSlot : Nat}
    (queued : queueSlot ∈ before.queueOrder)
    (stays : queueSlot ∈ after.queueOrder) :
    after.entryAt queueSlot = before.entryAt queueSlot ∧
      (before.stale (before.queued queueSlot) = true →
        after.stale (before.queued queueSlot) = true) := by
  have held : before.Holds (before.queued queueSlot) := .inl ⟨queueSlot, queued, rfl⟩
  have quietly : Origin before after → after.entryAt queueSlot = before.entryAt queueSlot ∧
      (before.stale (before.queued queueSlot) = true →
        after.stale (before.queued queueSlot) = true) :=
    fun origin => ⟨(origin.queue queueSlot stays).2, fun behind => (origin.stale held).trans behind⟩
  cases transition with
  | step step =>
      cases step with
      | quiet step => exact quietly (step.origin sound)
      | @admitRequest request timestampNs admissible =>
          refine ⟨?_, stale_of_rises
            ((sessionRise_admitRequest before request timestampNs).rises _)⟩
          obtain ⟨sessions, events, same⟩ := before.admit_eq request timestampNs
          obtain ⟨_, -, -, -, others⟩ := sound.enqueue admissible.room request
          rw [same]
          exact others queueSlot queued
      | raise generation known =>
          exact ⟨rfl, stale_of_rises ((sessionRise_raise generation known).rises _)⟩
      | @release index presented =>
          have rise : SessionRise before (before.release index) :=
            .same (sessions_release before index)
          refine ⟨?_, stale_of_rises (rise.rises _)⟩
          unfold JobWorkerPool.release
          split <;> rfl
  | beginDrain found => exact quietly (Unmoved.beginDrain found).origin

/-- The numbers of the requests that are in the queue, in the lanes and delivered. -/
def places (pool : JobWorkerPool κ) : List Nat :=
  pool.queueOrder.map (fun queueSlot => (pool.entryAt queueSlot).2) ++
    pool.slots.filterMap (fun slot => slot.claim.map Prod.snd) ++
    pool.released.map (·.ticket)

theorem places_perm (conserved : pool.ledger.Conserved) :
    pool.places.Perm (List.range pool.accepted.length) := by
  have total : (pool.ledger.entries .queue + pool.ledger.entries .lanes +
      pool.ledger.entries .delivered).map Prod.snd =
      (List.range pool.accepted.length : Multiset Nat) := by
    have all : ∑ place, pool.ledger.entries place = pool.ledger.entries .queue +
        pool.ledger.entries .lanes + pool.ledger.entries .delivered := by
      rw [show (Finset.univ : Finset Place) = {.queue, .lanes, .delivered} from rfl,
        Finset.sum_insert (by decide), Finset.sum_insert (by decide), Finset.sum_singleton,
        add_assoc]
    rw [← all, conserved, Multiset.map_coe, List.zipIdx_map_snd, List.range_eq_range']
    rfl
  have listed : (pool.places : Multiset Nat) =
      (List.range pool.accepted.length : Multiset Nat) := by
    rw [← total, Multiset.map_add, Multiset.map_add]
    simp [places, ledger, List.map_filterMap, Function.comp_def]
  exact Multiset.coe_eq_coe.mp listed

theorem places_nodup (conserved : pool.ledger.Conserved) : pool.places.Nodup :=
  (places_perm conserved).nodup_iff.mpr List.nodup_range

theorem distinct_fresh (config : Config κ) : Distinct (fresh config).sessions := by
  unfold Distinct fresh
  refine List.pairwise_of_forall_mem_list fun first member second _ occupied => ?_
  rw [List.eq_of_mem_replicate member] at occupied
  cases occupied

end JobWorkerPool

end FlowEdge
