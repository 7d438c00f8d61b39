import FlowEdge.Worker.JobFreshness

/-!
# Releasing a session

`release_session` asks whether a lane is not idle and carries the id of the session. A drained
lane is not idle either, and its id was set to zero when it gave up its request. So the answer is
right for every session but session zero, which is a session like any other to the rest of the
pool: while a lane is drained, its entry cannot be released.
-/

namespace FlowEdge

open Relation StatePrograms

namespace JobWorkerPool

variable {κ : Type}

/-! ## Drained lanes -/

/-- A drained lane has no session. -/
def Blank (slot : Slot κ) : Prop := slot.state = .drained → slot.sessionId = 0

/-- The lane does not drain with a session. -/
abbrev KeepsBlank (_ : Nat) (old new : Slot κ) : Prop := Blank old → Blank new

theorem KeepsBlank.refl (index : Nat) (slot : Slot κ) : KeepsBlank index slot slot := id

theorem KeepsBlank.of_state {index : Nat} {old new : Slot κ} (busy : new.state ≠ .drained) :
    KeepsBlank index old new :=
  fun _ drained => absurd drained busy

theorem blank_vacant (slot : Slot κ) : Blank (vacant slot) := by
  unfold vacant
  split
  · exact fun _ => rfl
  · exact nofun

theorem KeepsBlank.runSlot (index : Nat) (slot : Slot κ) (nowNs : UInt64) :
    KeepsBlank index slot (slot.runSlot nowNs) := by
  intro blank drained
  rw [Slot.runSlot_sessionId]
  rcases slot.state_runSlot nowNs with same | moved | moved | moved
  · exact blank (same ▸ drained)
  all_goals
    rw [moved] at drained
    cases drained

variable {before after : JobWorkerPool κ}

theorem QuietStep.keepsBlank (sound : before.Sound) (step : QuietStep before after) :
    Lanewise KeepsBlank before after := by
  cases step with
  | lane index nowNs => exact .of_lane KeepsBlank.refl fun slot _ => .runSlot index slot nowNs
  | refuse | emitPreempted => exact .of_logged KeepsBlank.refl ((Logged.refl before).emit _ _)
  | countQos | openSession | closeSession => exact .of_eq KeepsBlank.refl rfl
  | preempt _ found | requestMigration _ found => exact .of_modify KeepsBlank.refl found id
  | rejectReady nowNs found watermark session older ready =>
      obtain ⟨result, written, -, -⟩ := rejectReady_ok (sound.lane found) ready nowNs
      refine .of_modify KeepsBlank.refl found ?_
      rw [written]
      exact id
  | dispatch nowNs found =>
      obtain ⟨events, dispatchCursor, same⟩ := dispatch_eq found _ nowNs
      obtain ⟨-, -, -, state⟩ := before.duties_launched _ _ nowNs
      rw [same]
      refine .of_set KeepsBlank.refl found rfl (.of_state ?_)
      rcases state with requested | ready
      · rw [requested]
        rintro ⟨⟩
      · rw [ready]
        rintro ⟨⟩
  | handoff found targetFound different =>
      rw [(handoff_eq found targetFound different).1]
      exact .of_set_set KeepsBlank.refl found targetFound rfl (fun _ _ => rfl) (.of_state nofun)
  | resumeLocally found | resumeDrained found | recoverDrained found =>
      exact .of_modify KeepsBlank.refl found (.of_state nofun)
  | drainIdle found => exact .of_modify KeepsBlank.refl found fun _ _ => rfl
  | noteFailure found =>
      obtain ⟨_, _, _, _, _, -, same⟩ := noteFailure_eq found
      rw [same]
      exact .of_set KeepsBlank.refl found rfl id
  | present found =>
      obtain ⟨_, _, same⟩ := present_eq found
      rw [same]
      exact .of_set KeepsBlank.refl found rfl id

theorem blank_fresh (config : Config κ) : ∀ slot ∈ (fresh config).slots, Blank slot := by
  intro slot member
  obtain ⟨lane, -, rfl⟩ := List.mem_map.mp member
  exact nofun

theorem Transition.blank (sound : before.Sound) (transition : Transition before after)
    (blank : ∀ slot ∈ before.slots, Blank slot) : ∀ slot ∈ after.slots, Blank slot := by
  have lanewise : Lanewise KeepsBlank before after := by
    cases transition with
    | beginDrain found => exact .of_modify KeepsBlank.refl found id
    | step step =>
        cases step with
        | quiet step => exact step.keepsBlank sound
        | admitRequest timestampNs =>
            obtain ⟨sessions, events, same⟩ := before.admit_eq _ timestampNs
            exact .of_eq KeepsBlank.refl (by rw [same]; rfl)
        | raise => exact .of_eq KeepsBlank.refl rfl
        | @release index presented =>
            obtain ⟨slot, found, -⟩ := sound.presented index presented
            refine .of_set KeepsBlank.refl found ?_ fun _ =>
              blank_vacant { slot with remainingWorkUnits := 0 }
            rw [JobWorkerPool.release, found]
            exact modify_eq_set found _
  exact lanewise.forall_slots (fun _ _ _ kept => kept) blank

/-! ## The lanes while the coordinator looks at them -/

/-- The lanes took steps, and nothing else happened. -/
abbrev LanesRan : JobWorkerPool κ → JobWorkerPool κ → Prop :=
  ReflTransGen fun before after => ∃ index nowNs, after = before.modifySlot index (·.runSlot nowNs)

/-- A step of a lane does not change what the lane is occupied with. -/
structure Occupied (_ : Nat) (old new : Slot κ) : Prop where
  session : new.sessionId = old.sessionId
  request : new.request = old.request
  holding : new.holding = old.holding
  idle : new.state = .idle ↔ old.state = .idle

theorem Occupied.refl (index : Nat) (slot : Slot κ) : Occupied index slot slot :=
  ⟨rfl, rfl, rfl, Iff.rfl⟩

theorem Occupied.runSlot {slot : Slot κ} (sound : slot.Sound) (index : Nat) (nowNs : UInt64) :
    Occupied index slot (slot.runSlot nowNs) := by
  refine ⟨slot.runSlot_sessionId nowNs, slot.runSlot_request nowNs,
    Slot.holding_runSlot sound nowNs,
    fun idle => ?_, fun idle => ?_⟩
  · rcases slot.state_runSlot nowNs with same | moved | moved | moved
    · exact same ▸ idle
    all_goals
      rw [moved] at idle
      cases idle
  · rw [sound.runSlot_eq_of nowNs idle]
    exact idle

theorem Occupied.trans (index : Nat) (first second third : Slot κ)
    (one : Occupied index first second) (two : Occupied index second third) :
    Occupied index first third :=
  ⟨two.session.trans one.session, two.request.trans one.request, two.holding.trans one.holding,
    two.idle.trans one.idle⟩

/-- What remains while the lanes run. -/
structure Kept (before after : JobWorkerPool κ) : Prop where
  sound : after.Sound
  rest : after = { before with slots := after.slots }
  lanes : Lanewise Occupied before after

theorem kept_of_ran (sound : before.Sound) (ran : LanesRan before after) : Kept before after := by
  induction ran with
  | refl => exact ⟨sound, rfl, .of_eq Occupied.refl rfl⟩
  | @tail middle after _ step ih =>
      obtain ⟨index, nowNs, rfl⟩ := step
      refine ⟨(QuietStep.lane middle index nowNs).sound ih.sound, ?_,
        ih.lanes.trans Occupied.trans ?_⟩
      · exact congrArg (·.modifySlot index (·.runSlot nowNs)) ih.rest
      · exact .of_lane Occupied.refl fun slot found => .runSlot (ih.sound.lane found) index nowNs

theorem Stable.ran (start : JobWorkerPool κ) : Stable (LanesRan start) :=
  fun index nowNs _ ran => ran.tail ⟨index, nowNs, rfl⟩

/-! ## What is asked -/

/-- A lane that is not idle carries the id of the session. -/
def LaneCarries (pool : JobWorkerPool κ) (sessionId : UInt64) : Prop :=
  ∃ slot ∈ pool.slots, slot.state ≠ .idle ∧ slot.sessionId = sessionId

/-- A queued request belongs to the session. -/
def QueueCarries (pool : JobWorkerPool κ) (sessionId : UInt64) : Prop :=
  ∃ queueSlot ∈ pool.queueOrder, (pool.queued queueSlot).metadata.descriptor.sessionId = sessionId

variable {start : JobWorkerPool κ}

theorem follows_laneCarries (sound : start.Sound) (sessionId : UInt64) {lanes : List Nat}
    (inside : ∀ index ∈ lanes, index < start.slots.length) :
    Follows (LanesRan start) (releaseSession.laneOfSession sessionId lanes : PoolM κ Bool)
      fun busy pool => LanesRan start pool ∧ (busy = true ↔ ∃ index ∈ lanes,
        start.At index fun slot => slot.state ≠ .idle ∧ slot.sessionId = sessionId) := by
  induction lanes with
  | nil => exact .ret fun _ ran => ⟨ran, by simp⟩
  | cons index rest ih =>
      unfold releaseSession.laneOfSession
      refine follows_loadSlot (Stable.ran start) fun loaded => ?_
      have bound := inside index List.mem_cons_self
      cases loaded with
      | none =>
          refine .ret fun pool known => ?_
          obtain ⟨missing, ran⟩ := known
          rw [List.getElem?_eq_none_iff, (kept_of_ran sound ran).lanes.length] at missing
          omega
      | some slot =>
          have comes : ∀ pool : JobWorkerPool κ, pool.Sound →
              pool.slots[index]? = some slot ∧ LanesRan start pool →
              ∃ old, start.slots[index]? = some old ∧ Occupied index old slot :=
            fun pool _ known => (kept_of_ran sound known.2).lanes.earlier known.1
          refine .assuming comes ?_
          rintro ⟨old, was, occupied⟩
          have here : (slot.state ≠ .idle ∧ slot.sessionId = sessionId) ↔
              start.At index fun slot => slot.state ≠ .idle ∧ slot.sessionId = sessionId := by
            rw [Ne, occupied.idle, occupied.session]
            constructor
            · exact fun carries => ⟨old, was, carries⟩
            · rintro ⟨other, found, carries⟩
              cases was.symm.trans found
              exact carries
          refine .branch (fun carries => .ret fun pool known => ?_) fun elsewhere => ?_
          · exact ⟨known.2, fun _ => ⟨index, List.mem_cons_self, here.mp carries⟩, fun _ => rfl⟩
          · refine (ih fun other member => inside other (List.mem_cons_of_mem _ member)).weaken
              (fun _ _ known => known.2) fun busy pool known => ⟨known.1, known.2.trans ?_⟩
            rw [here] at elsewhere
            simp [elsewhere]

theorem modifyFirst_of_none {α : Type} {test : α → Bool} (update : α → α) {items : List α}
    (none : ∀ item ∈ items, ¬ test item = true) : modifyFirst test update items = items := by
  induction items with
  | nil => rfl
  | cons item rest ih =>
      rw [modifyFirst, if_neg (none item List.mem_cons_self),
        ih fun other member => none other (List.mem_cons_of_mem item member)]

variable {pool : JobWorkerPool κ} {sessionId : UInt64}

theorem closeSession_of_unknown (unknown : pool.findSession sessionId = none) :
    pool.closeSession sessionId = pool := by
  unfold closeSession
  rw [modifyFirst_of_none _ (List.find?_eq_none.mp unknown)]

/-- Sessions without the entry of one of them. -/
def forget (sessionId : UInt64) (sessions : List SessionWatermark) : List SessionWatermark :=
  sessions.map fun entry => if entry.occupied ∧ entry.sessionId = sessionId then {} else entry

/-- There is at most one entry to clear. -/
theorem modifyFirst_eq_forget {sessions : List SessionWatermark} (distinct : Distinct sessions)
    (sessionId : UInt64) :
    modifyFirst (fun entry => entry.occupied ∧ entry.sessionId = sessionId) (fun _ => {}) sessions =
      forget sessionId sessions := by
  induction sessions with
  | nil => rfl
  | cons first rest ih =>
      obtain ⟨apart, others⟩ := List.pairwise_cons.mp distinct
      rw [modifyFirst, forget, List.map_cons, ← forget]
      by_cases here : first.occupied ∧ first.sessionId = sessionId
      · have elsewhere : ∀ other ∈ rest, ¬ (other.occupied ∧ other.sessionId = sessionId) :=
          fun other member there =>
            apart other member here.1 there.1 (here.2.trans there.2.symm)
        rw [if_pos (by simpa using here), if_pos here, ← ih others,
          modifyFirst_of_none _ (by simpa using elsewhere)]
      · rw [if_neg (by simpa using here), if_neg here, ih others]

theorem find_forget (sessionId : UInt64) (sessions : List SessionWatermark) :
    ((forget sessionId sessions).find? fun entry =>
      entry.occupied ∧ entry.sessionId = sessionId) = none := by
  rw [List.find?_eq_none]
  intro entry member
  obtain ⟨old, -, rfl⟩ := List.mem_map.mp member
  split
  · simp
  · next other => simpa using other

/-- The answer of `release_session` and what it leaves behind, in the terms of the source. -/
structure Asked (start : JobWorkerPool κ) (sessionId : UInt64) (answer : Bool)
    (after : JobWorkerPool κ) : Prop where
  refused : answer = false ↔ (start.findSession sessionId).isSome = true ∧
    (start.QueueCarries sessionId ∨ start.LaneCarries sessionId)
  only : ∃ moved, LanesRan start moved ∧
    after = if answer then moved.closeSession sessionId else moved

theorem laneCarries_iff :
    pool.LaneCarries sessionId ↔ ∃ index ∈ List.range pool.slots.length,
      pool.At index fun slot => slot.state ≠ .idle ∧ slot.sessionId = sessionId := by
  constructor
  · rintro ⟨slot, member, carries⟩
    obtain ⟨index, found⟩ := List.mem_iff_getElem?.mp member
    obtain ⟨bound, -⟩ := List.getElem?_eq_some_iff.mp found
    exact ⟨index, List.mem_range.mpr bound, slot, found, carries⟩
  · rintro ⟨index, -, slot, found, carries⟩
    exact ⟨slot, List.mem_of_getElem? found, carries⟩

/-- Closing a session that nothing carries is a step, also after the lanes ran. -/
theorem Kept.closes (kept : Kept start pool) (unqueued : ¬ start.QueueCarries sessionId)
    (unused : ¬ start.LaneCarries sessionId) : QuietStep pool (pool.closeSession sessionId) := by
  refine .closeSession (fun queueSlot member same => unqueued ⟨queueSlot, ?_, ?_⟩)
    fun slot member => ?_
  · rw [kept.rest] at member
    exact member
  · rw [kept.rest] at same
    exact same
  · obtain ⟨index, found⟩ := List.mem_iff_getElem?.mp member
    obtain ⟨old, was, occupied⟩ := kept.lanes.earlier found
    by_cases idle : slot.state = .idle
    · exact .inl idle
    · refine .inr fun same => unused ⟨old, List.mem_of_getElem? was, ?_, ?_⟩
      · exact fun wasIdle => idle (occupied.idle.mpr wasIdle)
      · exact occupied.session.symm.trans same

theorem follows_releaseSession (sound : start.Sound) (sessionId : UInt64) :
    Follows (· = start) (releaseSession sessionId : PoolM κ Bool) (Asked start sessionId) := by
  unfold releaseSession
  refine follows_getPool fun pool => .branch (fun unknown => ?_) fun known => ?_
  · refine .ret fun current ⟨same, isStart⟩ => ?_
    subst same isStart
    rw [Option.isNone_iff_eq_none] at unknown
    refine ⟨by simp [unknown], current, .refl, ?_⟩
    rw [if_pos rfl, closeSession_of_unknown unknown]
  rw [Bool.not_eq_true, Option.isNone_eq_false_iff] at known
  refine .branch (fun queued => .ret fun current ⟨same, isStart⟩ => ?_) fun unqueued => ?_
  · subst same isStart
    refine ⟨⟨fun _ => ⟨known, .inl ?_⟩, fun _ => rfl⟩, current, .refl, rfl⟩
    simpa [QueueCarries] using queued
  have scan := follows_laneCarries sound sessionId
    fun index (member : index ∈ List.range start.slots.length) => List.mem_range.mp member
  refine .assuming (fun current _ here => here.1.symm.trans here.2) fun same => ?_
  subst same
  have unqueued : ¬ pool.QueueCarries sessionId := by simpa [QueueCarries] using unqueued
  refine .bind _ (scan.weaken (fun current _ here => here.2 ▸ .refl) fun _ _ => id) fun busy => ?_
  refine .branch (fun isBusy => .ret fun current ⟨ran, carries⟩ => ?_) fun notBusy => ?_
  · subst isBusy
    exact ⟨⟨fun _ => ⟨known, .inr (laneCarries_iff.mpr (carries.mp rfl))⟩, fun _ => rfl⟩, current,
      ran, rfl⟩
  refine .assuming (fun current _ here => fun carries =>
    notBusy (here.2.mpr (laneCarries_iff.mp carries)))
    fun (unused : ¬ pool.LaneCarries sessionId) => ?_
  refine .bind (fun _ => Asked pool sessionId true) (follows_update ?_ ?_) fun _ => .ret fun _ => id
  · exact fun current _ here => (kept_of_ran sound here.1).closes unqueued unused
  · refine fun current _ here => ⟨⟨nofun, fun carries => ?_⟩, current, here.1, rfl⟩
    exact absurd carries.2 (by simp [unqueued, unused])

/-! ## Exactness -/

/-- A queued request, a request on a lane or an unread result belongs to the session. -/
def Belongs (pool : JobWorkerPool κ) (sessionId : UInt64) : Prop :=
  pool.QueueCarries sessionId ∨ ∃ slot ∈ pool.slots,
    slot.holding = true ∧ slot.request.metadata.descriptor.sessionId = sessionId

instance (pool : JobWorkerPool κ) (sessionId : UInt64) : Decidable (pool.Belongs sessionId) :=
  inferInstanceAs (Decidable ((∃ queueSlot ∈ pool.queueOrder,
    (pool.queued queueSlot).metadata.descriptor.sessionId = sessionId) ∨ ∃ slot ∈ pool.slots,
      slot.holding = true ∧ slot.request.metadata.descriptor.sessionId = sessionId))

/-- A session of which the pool holds a request has an entry. -/
theorem Sound.known_of_belongs (sound : pool.Sound) (belongs : pool.Belongs sessionId) :
    (pool.findSession sessionId).isSome = true := by
  rcases belongs with ⟨queueSlot, member, rfl⟩ | ⟨slot, member, holding, rfl⟩
  · exact sound.knownQueue queueSlot member
  · exact sound.knownLanes slot member holding

/-- A lane that carries the id holds a request of the session, or it is drained. -/
theorem laneCarries_cases (sound : pool.Sound) (blank : ∀ slot ∈ pool.slots, Blank slot) :
    pool.LaneCarries sessionId ↔
      (∃ slot ∈ pool.slots, slot.holding = true ∧
        slot.request.metadata.descriptor.sessionId = sessionId) ∨
      (sessionId = 0 ∧ ∃ slot ∈ pool.slots, slot.state = .drained) := by
  refine ⟨fun ⟨slot, member, busy, carries⟩ => ?_, ?_⟩
  · by_cases drained : slot.state = .drained
    · exact .inr ⟨carries.symm.trans (blank slot member drained), slot, member, drained⟩
    · have holding : slot.holding = true := by simp [Slot.holding, busy, drained]
      refine .inl ⟨slot, member, holding, ?_⟩
      rw [← ((sound.lanes slot member).owns holding).session, carries]
  · rintro (⟨slot, member, holding, rfl⟩ | ⟨rfl, slot, member, drained⟩)
    · refine ⟨slot, member, fun idle => ?_, ((sound.lanes slot member).owns holding).session⟩
      simp [Slot.holding, idle] at holding
    · exact ⟨slot, member, by simp [drained], blank slot member drained⟩

/-- What `release_session` is to do: it refuses exactly if something belongs to the session, and
otherwise it clears the entry of the session and nothing else. The lanes may run meanwhile. -/
structure ReleasesExactly (before : JobWorkerPool κ) (sessionId : UInt64) (answer : Bool)
    (after : JobWorkerPool κ) : Prop where
  refused : answer = false ↔ before.Belongs sessionId
  forgotten : answer = true → after.findSession sessionId = none
  only : answer = true → ∃ moved, LanesRan before moved ∧
    after = { moved with sessions := forget sessionId before.sessions }

/-- An entry for session zero, a drained lane, and nothing that belongs to the session. -/
def Stuck (pool : JobWorkerPool κ) (sessionId : UInt64) : Prop :=
  sessionId = 0 ∧ (pool.findSession sessionId).isSome = true ∧
    (∃ slot ∈ pool.slots, slot.state = .drained) ∧ ¬ pool.Belongs sessionId

theorem Asked.exact_iff {answer : Bool} (asked : Asked before sessionId answer after)
    (sound : before.Sound) (blank : ∀ slot ∈ before.slots, Blank slot)
    (distinct : Distinct before.sessions) :
    ReleasesExactly before sessionId answer after ↔ ¬ before.Stuck sessionId := by
  have refused := asked.refused
  rw [laneCarries_cases sound blank, ← or_assoc] at refused
  change _ ↔ _ ∧ (before.Belongs sessionId ∨ _) at refused
  refine ⟨fun exactly ⟨zero, known, drained, free⟩ => ?_, fun moving => ?_⟩
  · exact free (exactly.refused.mp (refused.mpr ⟨known, .inr ⟨zero, drained⟩⟩))
  have after_eq : answer = true → ∃ moved, LanesRan before moved ∧
      after = { moved with sessions := forget sessionId before.sessions } := by
    rintro rfl
    obtain ⟨moved, ran, rfl⟩ := asked.only
    refine ⟨moved, ran, ?_⟩
    have same : moved.sessions = before.sessions := by rw [(kept_of_ran sound ran).rest]
    rw [if_pos rfl, closeSession, same, modifyFirst_eq_forget distinct]
  refine ⟨refused.trans ⟨?_, fun belongs => ⟨sound.known_of_belongs belongs, .inl belongs⟩⟩,
    fun released => ?_, after_eq⟩
  · rintro ⟨known, belongs | ⟨zero, drained⟩⟩
    · exact belongs
    · by_contra free
      exact moving ⟨zero, known, drained, free⟩
  · obtain ⟨moved, -, rfl⟩ := after_eq released
    exact find_forget sessionId before.sessions

/-- **Releasing a session.** In every state that a run reaches, `release_session` is exact, unless
it is asked for session zero while that session has an entry, nothing belongs to it, and a lane is
drained. -/
theorem release_session_exact {config : Config κ} {pool : JobWorkerPool κ}
    (created : create config = .ok pool) (clockNs : UInt64) (schedule : List (List LaneMove))
    (readings : List UInt64) (commands : List PoolCommand) (sessionId : UInt64) :
    let world := PoolCommand.runFrom pool clockNs schedule readings commands
    let released := (releaseSession sessionId).run world
    ReleasesExactly world.pool sessionId released.1 released.2.pool ↔
      ¬ world.pool.Stuck sessionId := by
  intro world released
  have traced : (system κ).Traced pool world :=
    (traced_runFrom created clockNs schedule readings commands).1
  have now : world.pool ∈ (system κ).moments world := List.mem_concat_self
  have sound := traced.good _ now
  have blank := traced.invariant (fun pool => ∀ slot ∈ pool.slots, Blank slot)
    (create_ok created ▸ blank_fresh config) (fun sound step => step.blank sound) _ now
  have distinct := traced.invariant (fun pool => Distinct pool.sessions)
    (create_ok created ▸ distinct_fresh config) (fun _ step => step.distinct) _ now
  obtain ⟨-, asked⟩ := follows_releaseSession sound sessionId world sound rfl
  exact asked.exact_iff sound blank distinct

/-- A request of session zero, which is valid. -/
def zeroRequest : JobRequestMessage where
  envelope := { kind := .jobRequest, structSize := 120, sequence := 1, sessionId := 0 }
  metadata := { structSize := 88, descriptor := { eagerDescriptor 1 with sessionId := 0 } }

/-- A request of session zero is run and its result released. -/
def zeroRun (last : List PoolCommand) : World Unit :=
  PoolCommand.runFrom (fresh eagerConfig) 0 [[], [], List.replicate 12 { lane := 0, nowNs := 5 }]
    [1, 2] ([.submit zeroRequest 0, .pause, .readyResult, .releaseReadyResult] ++ last)

/-- The session is released once its result was read. -/
theorem release_session_exact_zero :
    create eagerConfig = .ok (fresh eagerConfig) ∧ (zeroRun []).pool.released.length = 1 ∧
      ReleasesExactly (zeroRun []).pool 0 ((releaseSession 0).run (zeroRun [])).1
        ((releaseSession 0).run (zeroRun [])).2.pool := by
  have created : create eagerConfig = .ok (fresh eagerConfig) := rfl
  refine ⟨created, by decide, (release_session_exact created 0 _ _ _ 0).mpr ?_⟩
  rintro ⟨-, -, drained, -⟩
  revert drained
  decide

/-- Nothing belongs to session zero, but as the lane is drained its release is refused. -/
theorem release_session_refuses_free :
    create eagerConfig = .ok (fresh eagerConfig) ∧
      ((zeroRun [.requestWorkerDrain 0]).pool.findSession 0).isSome = true ∧
      ¬ (zeroRun [.requestWorkerDrain 0]).pool.Belongs 0 ∧
      ((releaseSession 0).run (zeroRun [.requestWorkerDrain 0])).1 = false := by
  refine ⟨rfl, ?_, ?_, ?_⟩ <;> decide

end JobWorkerPool

end FlowEdge
