import FlowEdge.Worker.JobFlags

/-!
# Runs of the worker pool

The operations of the coordinator, interleaved with the lanes in any way, take the steps of
`JobWorkerPool.Transition` and no others. What an operation found out before it let the lanes run
still holds when it acts on it, because it concerns what lanes do not change.
-/

namespace FlowEdge

open Words StatePrograms

namespace JobWorkerPool

variable {κ α β : Type}

/-- The pool as a system that the programs of the coordinator drive. -/
def system (κ : Type) : System (World κ) (JobWorkerPool κ) where
  view := World.pool
  past := World.past
  step := Transition
  good := Sound
  preserved := Transition.sound

/-- The part of the system that does not begin to drain a lane. -/
def serving (κ : Type) : System (World κ) (JobWorkerPool κ) :=
  (system κ).narrow Step Transition.step

/-- The part of the system that neither accepts nor releases. -/
def quiet (κ : Type) : System (World κ) (JobWorkerPool κ) := (serving κ).narrow QuietStep Step.quiet

/-- The program takes quiet steps, from states of `pre` to states of `post`. -/
abbrev Follows (pre : JobWorkerPool κ → Prop) (program : PoolM κ α)
    (post : α → JobWorkerPool κ → Prop) : Prop :=
  (quiet κ).Follows pre program post

/-- The program takes quiet steps. -/
abbrev Steps (program : PoolM κ α) : Prop := Follows (fun _ => True) program fun _ _ => True

variable {pre : JobWorkerPool κ → Prop} {program : PoolM κ α}

theorem Steps.keep (steps : Steps program) : Follows pre program fun _ _ => True :=
  steps.weaken (fun _ _ _ => trivial) fun _ _ _ => trivial

variable {post : α → JobWorkerPool κ → Prop}

/-- Quiet steps leave the books as they are. -/
theorem Follows.books (follows : Follows pre program post)
    (books : List JobRequestMessage × List Delivery) :
    (serving κ).Follows (fun pool => pool.books = books ∧ pre pool) program
      fun answer pool => pool.books = books ∧ post answer pool :=
  (System.Follows.preserving follows (·.books = books)
    fun _ step same => (QuietStep.books step).trans same).widen

/-- Quiet steps leave every lane that was told to stop so. -/
theorem Follows.settled (follows : Follows pre program post) :
    Follows (fun pool => pool.Settled ∧ pre pool) program
      fun answer pool => pool.Settled ∧ post answer pool :=
  System.Follows.preserving follows Settled fun sound step => (step.origin sound).settled

theorem Follows.fated (follows : Follows pre program post)
    (chosen : JobRequestMessage × Nat → Prop) :
    Follows (fun pool => pool.Fated chosen ∧ pre pool) program
      fun answer pool => pool.Fated chosen ∧ post answer pool :=
  System.Follows.preserving follows (·.Fated chosen) fun sound step => (step.origin sound).fated

/-- Steps that begin no drain leave idle lanes in service. -/
theorem Follows.restedOn (follows : Follows pre program post) (lanes : Nat → Prop) :
    Follows (fun pool => pool.RestedOn lanes ∧ pre pool) program
      fun answer pool => pool.RestedOn lanes ∧ post answer pool :=
  System.Follows.preserving follows (·.RestedOn lanes) fun sound step =>
    (Step.quiet step).restedOn sound

theorem serving_rested (follows : (serving κ).Follows pre program post) :
    (system κ).Follows (fun pool => pool.Rested ∧ pre pool) program
      fun answer pool => pool.Rested ∧ post answer pool :=
  (System.Follows.preserving follows Rested fun sound step => Step.restedOn sound step).widen

/-! ## Assertions that lanes do not disturb -/

/-- Lane steps keep the assertion. -/
def Stable (assertion : JobWorkerPool κ → Prop) : Prop :=
  ∀ {pool : JobWorkerPool κ} (index : Nat) (nowNs : UInt64), pool.Sound → assertion pool →
    assertion (pool.modifySlot index (·.runSlot nowNs))

theorem Stable.and {first second : JobWorkerPool κ → Prop} (left : Stable first)
    (right : Stable second) : Stable fun pool => first pool ∧ second pool :=
  fun index nowNs sound both => ⟨left index nowNs sound both.1, right index nowNs sound both.2⟩

theorem Stable.top : Stable fun _ : JobWorkerPool κ => True := fun _ _ _ _ => trivial

theorem getElem?_modifySlot (pool : JobWorkerPool κ) (index other : Nat)
    (update : Slot κ → Slot κ) :
    (pool.modifySlot index update).slots[other]? =
      if index = other then pool.slots[other]?.map update else pool.slots[other]? := by
  simp only [modifySlot, List.getElem?_modify]
  split <;> simp

/-- The slot of a lane exists and satisfies a property. -/
def At (pool : JobWorkerPool κ) (index : Nat) (property : Slot κ → Prop) : Prop :=
  ∃ slot, pool.slots[index]? = some slot ∧ property slot

variable {index : Nat}

theorem Stable.at {property : Slot κ → Prop}
    (kept : ∀ slot nowNs, slot.Sound → property slot → property (slot.runSlot nowNs)) :
    Stable fun pool : JobWorkerPool κ => pool.At index property := by
  intro pool lane nowNs sound ⟨slot, found, holds⟩
  unfold At
  rw [getElem?_modifySlot, found]
  split
  · exact ⟨_, rfl, kept slot nowNs (sound.lane found) holds⟩
  · exact ⟨slot, rfl, holds⟩

/-- A lane that has nothing to run stays exactly as it is. -/
theorem Stable.resting {slot : Slot κ} (notRequested : slot.state ≠ .requested)
    (notRunning : slot.state ≠ .running) :
    Stable fun pool : JobWorkerPool κ => pool.slots[index]? = some slot := by
  intro pool lane nowNs sound found
  show (pool.modifySlot lane _).slots[index]? = some slot
  rw [getElem?_modifySlot, found]
  split
  · exact congrArg some ((sound.lane found).runSlot_eq nowNs notRequested notRunning)
  · rfl

variable {pool : JobWorkerPool κ}

theorem hasAcceptingWorker_iff {request : JobRequestMessage} :
    pool.hasAcceptingWorker request = true ↔ ∃ index, pool.At index fun slot =>
      slot.drainRequested = false ∧ slot.registry.registrationAccepts request = true := by
  simp only [hasAcceptingWorker, At, List.any_eq_true, decide_eq_true_eq, List.mem_iff_getElem?]
  constructor
  · rintro ⟨slot, ⟨index, found⟩, accepts⟩
    exact ⟨index, slot, found, accepts⟩
  · rintro ⟨index, slot, found, accepts⟩
    exact ⟨slot, ⟨index, found⟩, accepts⟩

variable (sessionId : UInt64) (request : JobRequestMessage)

theorem Stable.accepting :
    Stable fun pool : JobWorkerPool κ => pool.hasAcceptingWorker request = true := by
  intro pool lane nowNs sound accepting
  obtain ⟨index, here⟩ := hasAcceptingWorker_iff.mp accepting
  refine hasAcceptingWorker_iff.mpr ⟨index, Stable.at ?_ lane nowNs sound here⟩
  intro slot nowNs _ accepts
  rwa [Slot.runSlot_drainRequested, Slot.runSlot_registry]

theorem Stable.settledBut (lanes : List Nat) :
    Stable fun pool : JobWorkerPool κ => pool.SettledBut sessionId lanes :=
  fun index nowNs sound settled => settled.unmoved (Unmoved.lane sound index nowNs)

theorem Stable.admissible : Stable fun pool : JobWorkerPool κ => pool.Admissible request := by
  intro pool index nowNs sound admissible
  exact { admissible with
    accepting := Stable.accepting request index nowNs sound admissible.accepting }

/-! ## Accesses -/

theorem follows_yield (stable : Stable pre) : Follows pre yield fun _ => pre := by
  intro world sound assumed
  have run : ∀ (moves : List LaneMove) (world : World κ), world.pool.Sound → pre world.pool →
      (quiet κ).Path world (moves.foldl World.move world) ∧
        pre (moves.foldl World.move world).pool := by
    intro moves
    induction moves with
    | nil => exact fun world _ assumed => ⟨.refl, assumed⟩
    | cons move rest ih =>
        intro world sound assumed
        have step := QuietStep.lane world.pool move.lane (wordMax world.clockNs move.nowNs)
        have moved : (quiet κ).Move world (world.move move) := ⟨step, rfl⟩
        obtain ⟨path, holds⟩ := ih (world.move move) (step.sound sound)
          (stable move.lane _ sound assumed)
        exact ⟨.head (.inl moved) path, holds⟩
  show (quiet κ).Path world world.interfere ∧ pre world.interfere.pool
  unfold World.interfere
  split
  · exact ⟨.refl, assumed⟩
  · next moves rest _ =>
      obtain ⟨path, holds⟩ := run moves world sound assumed
      exact ⟨path.tail (.inr ⟨rfl, rfl⟩), holds⟩

theorem follows_monotonicNs : Follows pre monotonicNs fun _ => pre := by
  have unseen : Follows pre (modify World.readClock) fun _ => pre := by
    refine .silent (fun world => ?_) fun _ => id
    unfold World.readClock
    split <;> exact ⟨rfl, rfl⟩
  exact unseen.bind _ fun _ _ _ assumed => ⟨.refl, assumed⟩

variable {next : JobWorkerPool κ → PoolM κ α}

theorem follows_getPool
    (follows : ∀ pool, Follows (fun current => current = pool ∧ pre current) (next pool) post) :
    Follows pre (getPool >>= next) post :=
  System.Follows.read (fun _ => rfl) follows

theorem serving_getPool
    (follows : ∀ pool, (serving κ).Follows (fun current => current = pool ∧ pre current)
      (next pool) post) : (serving κ).Follows pre (getPool >>= next) post :=
  System.Follows.read (fun _ => rfl) follows

variable {update : JobWorkerPool κ → JobWorkerPool κ}

theorem follows_update {post : Unit → JobWorkerPool κ → Prop}
    (step : ∀ pool : JobWorkerPool κ, pool.Sound → pre pool → QuietStep pool (update pool))
    (holds : ∀ pool : JobWorkerPool κ, pool.Sound → pre pool → post () (update pool)) :
    Follows pre (updatePool update) post :=
  System.Follows.update (fun _ => rfl) (fun _ => rfl) step holds

theorem serving_update {post : Unit → JobWorkerPool κ → Prop}
    (step : ∀ pool : JobWorkerPool κ, pool.Sound → pre pool → Step pool (update pool))
    (holds : ∀ pool : JobWorkerPool κ, pool.Sound → pre pool → post () (update pool)) :
    (serving κ).Follows pre (updatePool update) post :=
  System.Follows.update (fun _ => rfl) (fun _ => rfl) step holds

theorem system_getPool
    (follows : ∀ pool, (system κ).Follows (fun current => current = pool ∧ pre current)
      (next pool) post) : (system κ).Follows pre (getPool >>= next) post :=
  System.Follows.read (fun _ => rfl) follows

theorem system_update {post : Unit → JobWorkerPool κ → Prop}
    (step : ∀ pool : JobWorkerPool κ, pool.Sound → pre pool → Transition pool (update pool))
    (holds : ∀ pool : JobWorkerPool κ, pool.Sound → pre pool → post () (update pool)) :
    (system κ).Follows pre (updatePool update) post :=
  System.Follows.update (fun _ => rfl) (fun _ => rfl) step holds

theorem follows_loadSlot (stable : Stable pre) {next : Option (Slot κ) → PoolM κ α}
    (follows : ∀ loaded, Follows (fun pool => pool.slots[index]? = loaded ∧ pre pool)
      (next loaded) post) : Follows pre (loadSlot index >>= next) post := by
  intro world sound assumed
  obtain ⟨path, still⟩ := follows_yield stable world sound assumed
  obtain ⟨rest, holds⟩ := follows _ _ ((quiet κ).good_of_path path sound) ⟨rfl, still⟩
  exact ⟨path.trans rest, holds⟩

theorem run_getPool (world : World κ) :
    (getPool >>= next).run world = (next world.pool).run world := rfl

theorem run_loadSlot {next : Option (Slot κ) → PoolM κ α} (world : World κ) :
    (loadSlot index >>= next).run world =
      (next world.interfere.pool.slots[index]?).run world.interfere := rfl

/-! ## Admission -/

theorem follows_laneTime (stable : Stable pre) (candidate : JobDescriptor) (nowNs : UInt64)
    (index : Nat) (slot : Slot κ) :
    Follows pre (laneTime candidate nowNs index slot) fun _ => pre := by
  unfold laneTime
  refine .branch (fun _ => .ret fun _ => id) fun _ => ?_
  refine .branch (fun _ => .ret fun _ => id) fun _ => ?_
  exact (follows_yield stable).bind _ fun _ => follows_getPool fun _ => .ret fun _ => And.right

theorem follows_laneTimes (stable : Stable pre) (candidate : JobDescriptor) (nowNs : UInt64)
    (lanes : List Nat) : Follows pre (laneTimes candidate nowNs lanes) fun _ => pre := by
  induction lanes with
  | nil => exact .ret fun _ => id
  | cons index rest ih =>
      unfold laneTimes
      refine follows_loadSlot stable fun loaded => ?_
      cases loaded with
      | none => exact .ret fun _ => And.right
      | some slot =>
          have time := follows_laneTime stable candidate nowNs index slot
          refine .bind _ (time.weaken (fun _ _ => And.right) fun _ _ => id) fun time => ?_
          cases time with
          | none => exact .ret fun _ => id
          | some here =>
              refine ih.bind _ fun times => ?_
              cases times with
              | none | some => exact .ret fun _ => id

theorem follows_admissible (stable : Stable pre) (request : JobRequestMessage) (nowNs : UInt64) :
    Follows pre (admissible request nowNs) fun _ => pre := by
  unfold admissible
  refine follows_getPool fun pool => ?_
  refine .branch (fun _ => .ret fun _ => And.right) fun _ => ?_
  refine .branch (fun _ => .ret fun _ => And.right) fun _ => ?_
  have times := follows_laneTimes stable request.metadata.descriptor nowNs
    (List.range pool.slots.length)
  refine .bind _ (times.weaken (fun _ _ => And.right) fun _ _ => id) fun availableAt => ?_
  cases availableAt with
  | none => exact .ret fun _ => id
  | some availableAt => exact follows_getPool fun _ => .ret fun _ => And.right

/-! ## Migration and dispatch -/

/-- A lane that can take over an exported job. -/
structure Takes (pool : JobWorkerPool κ) (source : Nat) (exporter : Slot κ) (index : Nat) :
    Prop where
  different : index ≠ source
  target : pool.At index fun slot => slot.state = .idle ∧ slot.drainRequested = false ∧
    slot.registry.registrationAccepts exporter.request = true ∧
    exporter.migrationBytes ≤ slot.migrationStorage.length

theorem follows_findTarget (source : Nat) {exporter : Slot κ}
    (exported : exporter.state = .migrationReady) (lanes : List Nat) (hasTarget : Bool) :
    Follows (fun pool => pool.slots[source]? = some exporter)
      (findTarget source exporter lanes hasTarget)
      fun found pool => pool.slots[source]? = some exporter ∧
        ∀ index, found.1 = some index → pool.Takes source exporter index := by
  have resting : Stable fun pool : JobWorkerPool κ => pool.slots[source]? = some exporter :=
    Stable.resting (by simp [exported]) (by simp [exported])
  induction lanes generalizing hasTarget with
  | nil => exact .ret fun _ found => ⟨found, by simp⟩
  | cons index rest ih =>
      have onward : ∀ (pre : JobWorkerPool κ → Prop) (hasTarget : Bool),
          (∀ pool, pre pool → pool.slots[source]? = some exporter) →
          Follows pre (findTarget source exporter rest hasTarget)
            fun found pool => pool.slots[source]? = some exporter ∧
              ∀ index, found.1 = some index → pool.Takes source exporter index :=
        fun pre hasTarget holds => (ih hasTarget).weaken (fun pool _ => holds pool) fun _ _ => id
      unfold findTarget
      refine follows_getPool fun pool => ?_
      split
      · next candidate atIndex =>
          refine .branch (fun _ => onward _ hasTarget fun _ => And.right) fun suitable => ?_
          simp only [not_or, Bool.not_eq_false, not_lt, Bool.not_eq_true] at suitable
          obtain ⟨different, accepting, accepts, fits⟩ := suitable
          -- An idle lane did not move since it was looked at.
          have unmoved : Stable fun pool : JobWorkerPool κ =>
              pool.At index fun slot => slot.state = .idle → slot = candidate := by
            refine Stable.at fun slot nowNs sound same idle => ?_
            have unmoved := sound.runSlot_eq_of_idle idle
            rw [unmoved] at idle ⊢
            exact same idle
          refine .weaken (follows_loadSlot (unmoved.and resting) fun loaded => ?_) ?_ fun _ _ => id
          · cases loaded with
            | none => exact .ret fun _ known => ⟨known.2.2, by simp⟩
            | some loaded =>
                refine .branch (fun idle => .ret fun pool known => ?_) fun _ => ?_
                · obtain ⟨atIndex, ⟨slot, here, same⟩, source⟩ := known
                  rw [atIndex] at here
                  cases here
                  refine ⟨source, fun chosen answer => ?_⟩
                  cases answer
                  cases same idle
                  exact ⟨different, _, atIndex, idle, accepting, accepts, fits⟩
                · exact onward _ true fun _ known => known.2.2
          · intro current _ known
            obtain ⟨rfl, source⟩ := known
            exact ⟨⟨candidate, atIndex, fun _ => rfl⟩, source⟩
      · exact .ret fun _ found => ⟨found.2, by simp⟩

theorem steps_handoffMigration (source : Nat) : Steps (handoffMigration source : PoolM κ Unit) := by
  unfold handoffMigration
  refine follows_loadSlot Stable.top fun loaded => ?_
  cases loaded with
  | none => exact .ret fun _ _ => trivial
  | some exporter =>
      refine .branch (fun exported => ?_) fun _ => .ret fun _ _ => trivial
      refine follows_getPool fun pool => ?_
      have search := follows_findTarget source exported (List.range pool.slots.length) false
      refine .bind _ (search.weaken (fun _ _ known => known.2.1) fun _ _ => id) fun found => ?_
      obtain ⟨destination, hasTarget⟩ := found
      cases destination with
      | some index =>
          refine follows_update (fun pool _ known => ?_) fun _ _ _ => trivial
          obtain ⟨atSource, takes⟩ := known
          obtain ⟨different, target, atIndex, idle, accepting, accepts, fits⟩ := takes index rfl
          exact .handoff atSource atIndex different exported idle accepting accepts fits
      | none =>
          refine .branch (fun _ => ?_) fun _ => .ret fun _ _ => trivial
          exact follows_update (fun pool _ known => .resumeLocally known.1 exported)
            fun _ _ _ => trivial

theorem steps_migrate : Steps (migrate : PoolM κ Unit) := by
  unfold migrate
  refine follows_getPool fun _ => .branch (fun _ => ?_) fun _ => .ret fun _ _ => trivial
  unfold handoffMigrations
  refine follows_getPool fun _ => Steps.keep ?_
  exact System.Follows.loop fun source _ => steps_handoffMigration source

theorem steps_pumpOne (checked : Nat) : Steps (pumpOne checked : PoolM κ Unit) := by
  unfold pumpOne
  refine follows_getPool fun _ => Steps.keep ?_
  refine .branch (fun _ => ?_) fun _ => .ret fun _ _ => trivial
  refine follows_loadSlot Stable.top fun loaded => ?_
  cases loaded with
  | none => exact .ret fun _ _ => trivial
  | some slot =>
      refine .branch (fun free => ?_) fun _ => .ret fun _ _ => trivial
      unfold dispatchOne
      refine .branch (fun _ => ?_) fun _ => .ret fun _ _ => trivial
      refine follows_monotonicNs.bind _ fun dispatchedNs => follows_getPool fun pool => ?_
      cases selected : pool.selectPosition slot.registry dispatchedNs with
      | none => exact .ret fun _ _ => trivial
      | some position =>
          refine follows_update (fun current _ known => ?_) fun _ _ _ => trivial
          obtain ⟨rfl, found, -⟩ := known
          exact .dispatch dispatchedNs found free.2 free.1 selected

theorem steps_pump : Steps (pump : PoolM κ Unit) := by
  unfold pump
  refine steps_migrate.bind _ fun _ => follows_getPool fun _ => Steps.keep ?_
  exact System.Follows.loop fun checked _ => steps_pumpOne checked

/-! ## Cancelling -/

theorem WatermarkIs.logged {before after : JobWorkerPool κ} {sessionId generation : UInt64}
    (watermark : before.WatermarkIs sessionId generation) (logged : Logged before after) :
    after.WatermarkIs sessionId generation := by
  obtain ⟨events, rfl⟩ := logged
  exact watermark

/-- The loop over the lanes tells those that have a request of the session from before the
watermark. -/
theorem follows_cancelSlot (generation nowNs : UInt64) (index : Nat) (rest : List Nat) :
    Follows
      (fun pool => pool.WatermarkIs sessionId generation ∧
        pool.SettledBut sessionId (index :: rest))
      (cancelSlot sessionId generation nowNs index : PoolM κ Unit)
      fun _ pool => pool.WatermarkIs sessionId generation ∧ pool.SettledBut sessionId rest := by
  have raised : Stable fun pool : JobWorkerPool κ => pool.WatermarkIs sessionId generation :=
    fun _ _ _ watermark => watermark
  have before : Stable fun pool : JobWorkerPool κ =>
      pool.WatermarkIs sessionId generation ∧ pool.SettledBut sessionId (index :: rest) :=
    raised.and (Stable.settledBut sessionId (index :: rest))
  have after : Stable fun pool : JobWorkerPool κ =>
      pool.WatermarkIs sessionId generation ∧ pool.SettledBut sessionId rest :=
    raised.and (Stable.settledBut sessionId rest)
  have old : Stable fun pool : JobWorkerPool κ => pool.At index fun slot =>
      slot.sessionId = sessionId ∧ slot.generation < generation :=
    Stable.at fun slot nowNs _ older => by simpa using older
  have oldHolding : Stable fun pool : JobWorkerPool κ => pool.At index fun slot =>
      slot.sessionId = sessionId ∧ slot.generation < generation ∧ slot.holding = true :=
    Stable.at fun slot nowNs sound older => by
      simpa [Slot.holding_runSlot sound nowNs] using older
  unfold cancelSlot
  refine follows_getPool fun pool => ?_
  split
  · next slot atIndex =>
      refine .branch (fun older => ?_) fun newer => .done fun current sound known => ?_
      refine .weaken (follows_loadSlot (before.and old) fun loaded => ?_) ?_ fun _ _ => id
      · cases loaded with
        | none =>
            refine .ret fun pool known => ⟨known.2.1.1, known.2.1.2.next fun slot found => ?_⟩
            cases found.symm.trans known.1
        | some loaded =>
            refine .branch (fun busy => ?_) fun notBusy =>
              .branch (fun ready => ?_) fun notReady => ?_
            · refine .bind _ (.weaken (follows_yield (before.and oldHolding)) ?_ fun _ _ => id)
                fun _ => ?_
              · rintro pool - ⟨found, watermark, here, atIndex, older⟩
                cases found.symm.trans atIndex
                refine ⟨watermark, loaded, found, older.1, older.2, ?_⟩
                rcases busy with state | state | state <;> simp [Slot.holding, state]
              · refine .bind (fun _ pool => pool.WatermarkIs sessionId generation ∧
                  pool.SettledBut sessionId rest) (follows_update ?_ ?_) fun _ => ?_
                · rintro pool - ⟨⟨watermark, -⟩, slot, found, session, older, holding⟩
                  exact .preempt nowNs found watermark session older holding
                · rintro pool - ⟨⟨watermark, settled⟩, slot, found, session, older, holding⟩
                  obtain ⟨unmoved, halted⟩ := halted_preempt found older nowNs
                  exact ⟨watermark, (settled.unmoved unmoved).next fun slot found _ _ _ =>
                    halted slot found⟩
                · refine follows_loadSlot after fun current => ?_
                  cases current with
                  | none => exact .ret fun _ => And.right
                  | some current =>
                      refine follows_update ?_ ?_
                      · exact fun pool _ known => .emitPreempted generation nowNs known.1
                      · intro pool _ known
                        have logged := (Logged.refl pool).emit current.request.envelope.sequence
                        exact ⟨known.2.1.logged (logged _),
                          known.2.2.unmoved (Unmoved.logged (logged _))⟩
            · refine follows_update ?_ ?_
              · rintro pool - ⟨found, ⟨watermark, -⟩, here, atIndex, older⟩
                cases found.symm.trans atIndex
                exact .rejectReady nowNs found watermark older.1 older.2 ready
              · rintro pool sound ⟨found, ⟨watermark, settled⟩, -⟩
                obtain ⟨unmoved, halted⟩ := halted_rejectReady sound found ready nowNs
                exact ⟨watermark, (settled.unmoved unmoved).next fun slot found _ _ _ =>
                  halted slot found⟩
            · refine .ret fun pool known =>
                ⟨known.2.1.1, known.2.1.2.next fun slot found holding => ?_⟩
              -- Only an idle or drained lane is left, and it holds no request.
              cases found.symm.trans known.1
              simp only [not_or] at notBusy
              rw [Slot.holding_iff] at holding
              cases state : loaded.state <;> simp_all
      · rintro current - ⟨rfl, known⟩
        exact ⟨known, slot, atIndex, older⟩
      · -- The request of the lane is of another session or not older than the watermark.
        obtain ⟨rfl, ⟨entry, found, same⟩, settled⟩ := known
        refine ⟨⟨entry, found, same⟩, settled.next fun each here holding stale session =>
          absurd ?_ newer⟩
        cases here.symm.trans atIndex
        have owns := (sound.lane atIndex).owns holding
        refine ⟨owns.session.trans session, ?_⟩
        rw [JobWorkerPool.stale, session, found] at stale
        rw [owns.generation, ← same]
        exact of_decide_eq_true stale
  · next absent =>
      refine .ret fun current known => ?_
      obtain ⟨rfl, watermark, settled⟩ := known
      refine ⟨watermark, settled.next fun slot found => ?_⟩
      exact (absent slot found).elim

theorem follows_cancelSlots (generation : UInt64) :
    Follows
      (fun pool => pool.WatermarkIs sessionId generation ∧
        pool.SettledBut sessionId (List.range pool.slots.length))
      (cancelSlots sessionId generation : PoolM κ Unit)
      fun _ pool => pool.Settled ∧ pool.Fenced sessionId generation := by
  unfold cancelSlots
  refine follows_monotonicNs.bind _ fun nowNs => follows_getPool fun pool => ?_
  have loop : Follows
      (fun current => current.WatermarkIs sessionId generation ∧
        current.SettledBut sessionId (List.range pool.slots.length))
      ((List.range pool.slots.length).forM (cancelSlot sessionId generation nowNs) : PoolM κ Unit)
      fun _ current => current.WatermarkIs sessionId generation ∧ current.SettledBut sessionId [] :=
    .loopOver (fun rest (current : JobWorkerPool κ) => current.WatermarkIs sessionId generation ∧
      current.SettledBut sessionId rest) fun index rest =>
      follows_cancelSlot sessionId generation nowNs index rest
  refine .bind _ (loop.weaken ?_ fun _ _ => id) fun _ => ?_
  · rintro current - ⟨rfl, known⟩
    exact known
  · refine (steps_pump.fated _).settled.weaken ?_ fun _ _ known => ⟨known.1, known.2.1⟩
    rintro current - ⟨watermark, settled⟩
    have settled := settledBut_nil.mp settled
    exact ⟨settled, settled.fenced watermark (UInt64.le_refl _), trivial⟩

/-- After `cancel_before` no older request of the session is left that does not know. -/
theorem follows_cancelBefore (generation : UInt64)
    (books : List JobRequestMessage × List Delivery) :
    (serving κ).Follows
      (fun pool => pool.books = books ∧
        pool.SettledBut sessionId (List.range pool.slots.length))
      (cancelBefore sessionId generation : PoolM κ Unit)
      fun _ pool => pool.books = books ∧ pool.Settled ∧ pool.Fenced sessionId generation := by
  unfold cancelBefore
  refine serving_getPool fun pool => ?_
  have settle : ∀ watermark, generation ≤ watermark → (serving κ).Follows
      (fun pool => pool.books = books ∧ pool.WatermarkIs sessionId watermark ∧
        pool.SettledBut sessionId (List.range pool.slots.length))
      (cancelSlots sessionId watermark)
      fun _ pool => pool.books = books ∧ pool.Settled ∧ pool.Fenced sessionId generation :=
    fun watermark reached => ((follows_cancelSlots sessionId watermark).books books).weaken
      (fun _ _ => id) fun _ _ known => ⟨known.1, known.2.1, known.2.2.mono fun _ old =>
        ⟨old.1, UInt64.lt_of_lt_of_le old.2 reached⟩⟩
  cases known : pool.findSession sessionId with
  | none =>
      have unknown := known
      refine .branch (fun room => ?_) fun _ => .done fun current sound known => ?_
      · refine .bind _ (serving_update ?_ ?_) fun _ => settle generation (UInt64.le_refl _)
        · rintro current - ⟨rfl, -⟩
          exact .quiet (.openSession generation known room)
        · rintro current - ⟨rfl, same, settled⟩
          exact ⟨same, watermark_openSession generation known room, settled.sessions rfl
            fun other different => findSession_openSession current different generation⟩
      · obtain ⟨rfl, same, settled⟩ := known
        refine ⟨same, fun slot member holding stale => ?_, sound.fenced unknown generation⟩
        obtain ⟨index, found⟩ := List.mem_iff_getElem?.mp member
        refine (settled index slot found holding stale).resolve_left fun here => ?_
        have known := sound.knownLanes slot member holding
        rw [Knows, here.1, unknown] at known
        cases known
  | some entry =>
      have reached : generation ≤ wordMax entry.generation generation := by
        rw [UInt64.le_iff_toNat_le, toNat_wordMax]
        exact le_max_right _ _
      refine .bind _ (serving_update ?_ ?_) fun _ => settle _ reached
      · rintro current - ⟨rfl, -⟩
        exact .raise generation known
      · rintro current - ⟨rfl, same, settled⟩
        exact ⟨same, watermark_setWatermark known _, settled.sessions rfl
          fun other different => findSession_setWatermark current different _⟩

/-- The lanes of a session that `release_session` found idle or elsewhere stay so. -/
theorem follows_laneOfSession (lanes : List Nat) (stable : Stable pre)
    (inside : ∀ pool, pre pool → ∀ index ∈ lanes, index < pool.slots.length) :
    Follows pre (releaseSession.laneOfSession sessionId lanes : PoolM κ Bool)
      fun busy pool => busy = false → pre pool ∧ ∀ index ∈ lanes,
        pool.At index fun slot => slot.state = .idle ∨ slot.sessionId ≠ sessionId := by
  induction lanes generalizing pre with
  | nil => exact .ret fun _ assumed _ => ⟨assumed, by simp⟩
  | cons index rest ih =>
      unfold releaseSession.laneOfSession
      refine follows_loadSlot stable fun loaded => ?_
      cases loaded with
      | none =>
          refine .ret fun pool known _ => ?_
          have bound := inside pool known.2 index List.mem_cons_self
          rw [List.getElem?_eq_none_iff] at known
          omega
      | some slot =>
          refine .branch (fun _ => .ret fun _ _ => by simp) fun elsewhere => ?_
          have apart : Stable fun pool : JobWorkerPool κ =>
              pool.At index fun slot => slot.state = .idle ∨ slot.sessionId ≠ sessionId := by
            refine Stable.at fun slot nowNs sound apart => ?_
            rcases apart with idle | other
            · rw [sound.runSlot_eq_of nowNs idle]
              exact .inl idle
            · exact .inr (by rwa [Slot.runSlot_sessionId])
          have onward := ih (apart.and stable) fun pool known each member =>
            inside pool known.2 each (List.mem_cons_of_mem index member)
          refine onward.weaken (fun pool _ known => ⟨⟨slot, known.1, ?_⟩, known.2⟩) ?_
          · by_cases idle : slot.state = .idle
            · exact .inl idle
            · exact .inr fun same => elsewhere ⟨idle, same⟩
          · intro busy pool holds free
            obtain ⟨⟨here, assumed⟩, others⟩ := holds free
            refine ⟨assumed, fun each member => ?_⟩
            rcases List.mem_cons.mp member with rfl | member
            · exact here
            · exact others each member

theorem steps_releaseSession : Steps (releaseSession sessionId : PoolM κ Bool) := by
  unfold releaseSession
  refine follows_getPool fun pool => ?_
  refine .branch (fun _ => .ret fun _ _ => trivial) fun _ => ?_
  refine .branch (fun _ => .ret fun _ _ => trivial) fun unqueued => ?_
  have stable : Stable fun current : JobWorkerPool κ =>
      current.slots.length = pool.slots.length ∧ ∀ queueSlot ∈ current.queueOrder,
        (current.queued queueSlot).metadata.descriptor.sessionId ≠ sessionId := by
    intro current index nowNs _ known
    exact ⟨by simpa [modifySlot] using known.1, known.2⟩
  have scan := follows_laneOfSession sessionId (List.range pool.slots.length) stable
    fun current known index member => known.1 ▸ List.mem_range.mp member
  refine .bind _ (scan.weaken ?_ fun _ _ => id) fun busy => ?_
  · rintro current - ⟨rfl, -⟩
    refine ⟨rfl, fun queueSlot member same => unqueued ?_⟩
    exact List.any_eq_true.mpr ⟨queueSlot, member, by simpa using same⟩
  · cases busy with
    | true => exact .ret fun _ _ => trivial
    | false =>
        refine .bind (fun _ _ => True) (follows_update ?_ fun _ _ _ => trivial) fun _ =>
          .ret fun _ _ => trivial
        intro current _ known
        obtain ⟨⟨lanes, unqueued⟩, apart⟩ := known rfl
        refine .closeSession unqueued fun slot member => ?_
        obtain ⟨index, found⟩ := List.mem_iff_getElem?.mp member
        obtain ⟨bound, -⟩ := List.getElem?_eq_some_iff.mp found
        obtain ⟨other, here, holds⟩ := apart index (List.mem_range.mpr (lanes ▸ bound))
        cases found.symm.trans here
        exact holds

/-! ## Submission -/

theorem follows_eventTime (nowNs : UInt64) : Follows pre (eventTime nowNs) fun _ => pre := by
  unfold eventTime
  exact .branch (fun _ => follows_monotonicNs) fun _ => .ret fun _ => id

/-- The answer of `submit` and what it did to the books: it accepted the request, or it left
them as they were and gives the reason. -/
def Submission.Fits (request : JobRequestMessage)
    (books after : List JobRequestMessage × List Delivery) (answer : Submission) : Prop :=
  (answer.result = .accepted ∧ after = (books.1 ++ [request], books.2)) ∨
    (answer.result ≠ .accepted ∧ after = books ∧ ∃ nowNs code,
      JobResultCode.rejected code = true ∧
        answer.rejection = some (rejectionMessage request nowNs code))

/-- What holds after `submit`: the lanes know, also those that the request superseded. -/
structure Submission.Settles (request : JobRequestMessage)
    (books : List JobRequestMessage × List Delivery) (answer : Submission)
    (pool : JobWorkerPool κ) : Prop where
  fits : answer.Fits request books pool.books
  settled : pool.Settled
  fenced : answer.result = .accepted → pool.Fenced request.metadata.descriptor.sessionId
    request.metadata.descriptor.generation

theorem follows_reject (nowNs : UInt64) {code : JobResultCode} {result : JobSubmitResult}
    (refused : result ≠ .accepted) (rejected : code.rejected = true)
    (books : List JobRequestMessage × List Delivery) :
    (serving κ).Follows (fun pool => pool.books = books ∧ pool.Settled)
      (reject request nowNs code result) (Submission.Settles request books) := by
  have quietly : Follows (fun _ => True) (reject request nowNs code result : PoolM κ Submission)
      fun answer _ => answer.result = result ∧
        answer.rejection = some (rejectionMessage request nowNs code) := by
    unfold reject
    refine (follows_eventTime nowNs).bind _ fun timestampNs => ?_
    refine .bind (fun _ _ => True) (follows_update ?_ fun _ _ _ => trivial) fun _ =>
      .ret fun _ _ => ⟨rfl, rfl⟩
    exact fun pool _ _ => .refuse pool request timestampNs code
  refine (quietly.settled.books books).weaken (fun _ _ known => ⟨known.1, known.2, trivial⟩)
    fun answer pool known => ?_
  obtain ⟨same, settled, rfl, rejection⟩ := known
  exact ⟨.inr ⟨refused, same, nowNs, code, rejected, rejection⟩, settled,
    fun accepted => absurd accepted refused⟩

theorem books_admitRequest (pool : JobWorkerPool κ) (request : JobRequestMessage)
    (timestampNs : UInt64) :
    (pool.admitRequest request timestampNs).books = (pool.books.1 ++ [request], pool.books.2) := by
  obtain ⟨sessions, events, same⟩ := pool.admit_eq request timestampNs
  rw [same]
  rfl

theorem follows_accept (nowNs : UInt64) (books : List JobRequestMessage × List Delivery) :
    (serving κ).Follows (fun pool => pool.books = books ∧ pool.Settled ∧ pool.Admissible request)
      (accept request nowNs) (Submission.Settles request books) := by
  let added := (books.1 ++ [request], books.2)
  let sessionId := request.metadata.descriptor.sessionId
  let generation := request.metadata.descriptor.generation
  unfold accept
  refine .bind _ ((follows_eventTime nowNs).settled.books books) fun timestampNs => ?_
  refine serving_getPool fun pool => ?_
  refine .bind (fun _ current => current.books = added ∧ current.WatermarkIs sessionId generation ∧
    current.SettledBut sessionId (List.range current.slots.length) ∧
    (pool.supersedes request = false → current.Settled)) (serving_update ?_ ?_) fun _ => ?_
  · exact fun current _ known => .admitRequest timestampNs known.2.2.2
  · rintro current sound ⟨rfl, same, settled, admissible⟩
    refine ⟨?_, settled.admitRequest sound admissible timestampNs⟩
    rw [books_admitRequest, same]
  refine .bind (fun _ current => current.books = added ∧ current.Settled ∧
    current.Fenced sessionId generation) ?_ fun _ => ?_
  · unfold cancelSuperseded
    refine .branch (fun newer => ?_) fun notNewer => .ret fun current known => ?_
    · exact (follows_cancelBefore sessionId generation added).weaken
        (fun _ _ known => ⟨known.1, known.2.2.1⟩) fun _ _ => id
    · obtain ⟨same, watermark, -, settled⟩ := known
      have settled := settled (Bool.not_eq_true _ ▸ notNewer)
      exact ⟨same, settled, settled.fenced watermark (UInt64.le_refl _)⟩
  · have pumped : Steps (pump : PoolM κ Unit) := steps_pump
    refine .bind _ (((pumped.fated _).settled.books added).weaken
      (fun _ _ known => ⟨known.1, known.2.1, known.2.2, trivial⟩) fun _ _ => id) fun _ =>
      .ret fun current known => ?_
    exact ⟨.inl ⟨rfl, known.1⟩, known.2.1, fun _ => known.2.2.1⟩

theorem follows_submit (nowNs : UInt64) (books : List JobRequestMessage × List Delivery) :
    (serving κ).Follows (fun pool => pool.books = books ∧ pool.Settled) (submit request nowNs)
      (Submission.Settles request books) := by
  have refuse : ∀ {pre : JobWorkerPool κ → Prop} {code : JobResultCode}
      {result : JobSubmitResult}, (∀ pool, pre pool → pool.books = books ∧ pool.Settled) →
      result ≠ .accepted → code.rejected = true →
      (serving κ).Follows pre (reject request nowNs code result)
        (Submission.Settles request books) :=
    fun holds refused rejected => (follows_reject request nowNs refused rejected books).weaken
      (fun pool _ => holds pool) fun _ _ => id
  unfold submit
  refine serving_getPool fun pool => ?_
  refine .branch (fun _ => refuse (fun _ => And.right) (by simp) (by decide)) fun valid => ?_
  refine .branch (fun _ => refuse (fun _ => And.right) (by simp) (by decide)) fun _ => ?_
  refine .branch (fun _ => refuse (fun _ => And.right) (by simp) (by decide)) fun accepting => ?_
  refine .branch (fun _ => refuse (fun _ => And.right) (by simp) (by decide)) fun current => ?_
  refine .branch (fun _ => refuse (fun _ => And.right) (by simp) (by decide)) fun capacity => ?_
  refine .branch (fun _ => ?_) fun qos => ?_
  · refine .bind (fun _ pool => pool.books = books ∧ pool.Settled)
      (serving_update ?_ fun _ _ known => known.2) fun _ =>
      refuse (fun _ => id) (by simp) (by decide)
    exact fun pool _ _ => .quiet (.countQos pool)
  · simp only [not_or, Bool.not_eq_false, not_not, Bool.not_eq_true] at *
    have stable : Stable fun pool : JobWorkerPool κ => pool.Admissible request :=
      Stable.admissible request
    have admitted := (follows_admissible stable request nowNs).settled.books books
    refine .bind _ (admitted.weaken ?_ fun _ _ => id) fun admitted => ?_
    · rintro current - ⟨rfl, same, settled⟩
      exact ⟨same, settled, valid, accepting, current, capacity.1, capacity.2, qos⟩
    · exact .branch (fun _ => follows_accept request nowNs books) fun _ =>
        refuse (fun _ known => ⟨known.1, known.2.1⟩) (by simp) (by decide)

/-! ## Draining and recovery -/

theorem follows_askToMigrate (index : Nat) (loaded : Slot κ) :
    Follows (fun pool => pool.slots[index]? = some loaded ∧ loaded.drainRequested = true)
      (askToMigrate index loaded) fun _ _ => True := by
  have draining : Stable fun pool : JobWorkerPool κ =>
      pool.At index fun slot => slot.drainRequested = true ∧ slot.holding = true ∧
        slot.migrationSource = noWorker :=
    Stable.at fun slot nowNs sound => by simp [Slot.holding_runSlot sound nowNs]
  unfold askToMigrate
  refine follows_getPool fun _ => .branch (fun asked => ?_) fun _ => .ret fun _ _ => trivial
  refine .bind _ (.weaken (follows_yield draining) ?_ fun _ _ => id) fun _ => ?_
  · rintro current - ⟨-, found, drains⟩
    refine ⟨loaded, found, drains, ?_, asked.2.1⟩
    rcases asked.1 with state | state <;> simp [Slot.holding, state]
  · refine follows_update ?_ fun _ _ _ => trivial
    rintro current - ⟨slot, here, drains, holding, unmoved⟩
    exact .requestMigration _ here holding drains unmoved

/-- What `request_worker_drain` does once the lane is marked. -/
def finishDrain (index : Nat) : PoolM κ WorkerDrainResult := do
  let some loaded ← loadSlot index | return .started
  if loaded.state = .idle then do
    updatePool (·.modifySlot index drainIdle)
    return .started
  else do
    askToMigrate index loaded
    pump
    return .started

theorem run_requestWorkerDrain (world : World κ) :
    (requestWorkerDrain index).run world =
      match world.pool.slots[index]? with
      | none => (.invalidWorker, world)
      | some slot =>
          if slot.drainRequested then (.alreadyDraining, world)
          else if world.pool.canRemoveWorker index = false then (.wouldStrandWork, world)
          else (finishDrain index).run (world.change (·.modifySlot index beginDrain)) := by
  unfold requestWorkerDrain
  rw [run_getPool]
  cases world.pool.slots[index]? with
  | none => rfl
  | some slot =>
      dsimp only
      split
      · rfl
      · split <;> rfl

/-- The lane is idle and draining for a moment, but not afterwards. -/
theorem follows_finishDrain (index : Nat) :
    Follows (fun pool => pool.At index fun slot => slot.drainRequested = true)
      (finishDrain index : PoolM κ WorkerDrainResult)
      fun answer pool => answer = .started ∧ pool.RestedOn (· = index) := by
  have draining : Stable fun pool : JobWorkerPool κ =>
      pool.At index fun slot => slot.drainRequested = true :=
    Stable.at fun slot nowNs _ => by simp
  refine follows_loadSlot draining fun loaded => ?_
  cases loaded with
  | none =>
      refine .ret fun pool known => ⟨rfl, fun lane slot here same => ?_⟩
      cases known.1.symm.trans (same ▸ here)
  | some loaded =>
      refine .assuming (fun pool _ known => ?_) fun drains : loaded.drainRequested = true => ?_
      · obtain ⟨atIndex, slot, here, drains⟩ := known
        cases atIndex.symm.trans here
        exact drains
      refine .branch (fun idle => ?_) fun busy => ?_
      · refine .bind (fun _ pool => pool.RestedOn (· = index)) (follows_update ?_ ?_) fun _ =>
          .ret fun _ rested => ⟨rfl, rested⟩
        · exact fun current _ known => .drainIdle known.1 idle drains
        · intro current _ known
          rw [modifySlot_eq_setSlot known.1]
          exact restedOn_of_found (found_setSlot known.1 _) nofun
      · have asked := (follows_askToMigrate index loaded).restedOn (· = index)
        have pumped : Steps (pump : PoolM κ Unit) := steps_pump
        refine .bind _ (asked.weaken ?_ fun _ _ => id) fun _ =>
          .bind _ ((pumped.restedOn (· = index)).weaken ?_ fun _ _ => id) fun _ =>
          .ret fun _ known => ⟨rfl, known.1⟩
        · exact fun current _ known => ⟨restedOn_of_found known.1 fun idle => absurd idle busy,
            known.1, drains⟩
        · exact fun _ _ known => ⟨known.1, trivial⟩

theorem at_beginDrain {slot : Slot κ} (found : pool.slots[index]? = some slot) :
    (pool.modifySlot index beginDrain).At index fun slot => slot.drainRequested = true := by
  rw [modifySlot_eq_setSlot found]
  exact ⟨_, found_setSlot found _, rfl⟩

theorem follows_requestWorkerDrain (index : Nat) (books : List JobRequestMessage × List Delivery) :
    (system κ).Follows (fun pool => pool.books = books ∧ pool.Settled ∧ pool.Rested)
      (requestWorkerDrain index : PoolM κ WorkerDrainResult)
      fun _ pool => pool.books = books ∧ pool.Settled ∧ pool.Rested := by
  unfold requestWorkerDrain
  refine system_getPool fun pool => ?_
  cases found : pool.slots[index]? with
  | none => exact .ret fun _ => And.right
  | some slot =>
      refine .branch (fun _ => .ret fun _ => And.right) fun fresh => ?_
      refine .branch (fun _ => .ret fun _ => And.right) fun removable => ?_
      simp only [Bool.not_eq_true, Bool.not_eq_false] at fresh removable
      refine .bind (fun _ pool => pool.books = books ∧ pool.Settled ∧ pool.RestedOn (· ≠ index) ∧
        pool.At index fun slot => slot.drainRequested = true) (system_update ?_ ?_) fun _ => ?_
      · rintro current - ⟨rfl, -⟩
        exact .beginDrain found fresh removable
      · rintro current - ⟨rfl, same, settled, rested⟩
        exact ⟨same, (Unmoved.beginDrain found).origin.settled settled,
          (rested.on _).modifySlot _, at_beginDrain found⟩
      have finished : Follows _ (finishDrain index : PoolM κ WorkerDrainResult) _ :=
        (follows_finishDrain index).settled.restedOn (· ≠ index)
      exact (finished.books books).widen.weaken
        (fun _ _ known => ⟨known.1, known.2.2.1, known.2.1, known.2.2.2⟩)
        fun _ _ known => ⟨known.1, known.2.2.1, rested_of_split known.2.2.2.2 known.2.1⟩

theorem steps_resumeWorker (index : Nat) : Steps (resumeWorker index : PoolM κ Bool) := by
  unfold resumeWorker
  refine follows_loadSlot Stable.top fun loaded => ?_
  cases loaded with
  | none => exact .ret fun _ _ => trivial
  | some slot =>
      refine .branch (fun _ => .ret fun _ _ => trivial) fun drained => ?_
      simp only [not_or, Bool.not_eq_true, not_not] at drained
      refine .bind (fun _ _ => True) (follows_update ?_ fun _ _ _ => trivial) fun _ =>
        steps_pump.bind _ fun _ => .ret fun _ _ => trivial
      exact fun pool _ known => .resumeDrained known.1 drained.2 drained.1

theorem steps_recoverWorker (index : Nat) :
    Steps (recoverWorker index : PoolM κ WorkerRecoveryResult) := by
  unfold recoverWorker
  refine follows_loadSlot Stable.top fun loaded => ?_
  cases loaded with
  | none => exact .ret fun _ _ => trivial
  | some slot =>
      refine .branch (fun _ => .ret fun _ _ => trivial) fun quarantined => ?_
      refine .branch (fun _ => .ret fun _ _ => trivial) fun drained => ?_
      simp only [Bool.not_eq_false, not_not] at quarantined drained
      refine .bind (fun _ _ => True) (follows_update ?_ fun _ _ _ => trivial) fun _ =>
        steps_pump.bind _ fun _ => .ret fun _ _ => trivial
      exact fun pool _ known => .recoverDrained known.1 drained quarantined

theorem run_resumeWorker (world : World κ) :
    (resumeWorker index).run world =
      match world.interfere.pool.slots[index]? with
      | none => (false, world.interfere)
      | some slot =>
          if slot.quarantined ∨ slot.state ≠ .drained then (false, world.interfere)
          else
            (true, (pump.run (world.interfere.change (·.modifySlot index resumeDrained))).2) := by
  unfold resumeWorker
  rw [run_loadSlot]
  cases world.interfere.pool.slots[index]? with
  | none => rfl
  | some slot =>
      dsimp only
      split <;> rfl

theorem run_recoverWorker (world : World κ) :
    (recoverWorker index).run world =
      match world.interfere.pool.slots[index]? with
      | none => (.invalidWorker, world.interfere)
      | some slot =>
          if slot.quarantined = false then (.notQuarantined, world.interfere)
          else if slot.state ≠ .drained then (.notDrained, world.interfere)
          else (.recovered,
            (pump.run (world.interfere.change (·.modifySlot index recoverDrained))).2) := by
  unfold recoverWorker
  rw [run_loadSlot]
  cases world.interfere.pool.slots[index]? with
  | none => rfl
  | some slot =>
      dsimp only
      split
      · rfl
      · split <;> rfl

/-! ## Results -/

theorem follows_readyLoop (lanes : List Nat) :
    Follows (·.readyIndex = none) (readyLoop lanes : PoolM κ (Option Nat))
      fun lane pool => pool.readyIndex = lane := by
  have unread : Stable fun pool : JobWorkerPool κ => pool.readyIndex = none :=
    fun _ _ _ known => known
  induction lanes with
  | nil => exact .ret fun _ => id
  | cons checked rest ih =>
      unfold readyLoop
      refine follows_getPool fun pool => ?_
      refine .weaken (follows_loadSlot unread fun loaded => ?_) (fun _ _ => And.right) fun _ _ => id
      cases loaded with
      | none => exact .ret fun _ => And.right
      | some slot =>
          refine .branch (fun _ => ih.weaken (fun _ _ => And.right) fun _ _ => id) fun ready => ?_
          rw [not_not] at ready
          -- The result of a ready lane answers its request, so it is never dropped.
          refine .assuming (fun pool sound known => (sound.lane known.1).answers ready)
            fun answers => ?_
          let index := (pool.readyCursor + checked) % pool.slots.length
          refine .bind (fun _ current => current.readyIndex = none ∧ current.At index fun lane =>
            lane.state = .ready ∧ lane.result.validate = .success)
              (follows_update ?_ ?_) fun _ => ?_
          · exact fun pool _ known => .noteFailure known.1 ready
          · intro pool _ known
            obtain ⟨_, _, _, _, _, -, same⟩ := noteFailure_eq known.1
            rw [same]
            exact ⟨known.2, _, found_setSlot known.1 _, ready, answers.valid⟩
          refine .branch (fun invalid => absurd answers.valid invalid) fun _ => ?_
          refine .bind (fun _ pool => pool.readyIndex = some index) (follows_update ?_ ?_) fun _ =>
            .ret fun _ => id
          · rintro pool - ⟨unread, lane, found, ready, valid⟩
            exact .present found ready valid unread
          · rintro pool - ⟨-, lane, found, -⟩
            obtain ⟨_, _, same⟩ := present_eq found
            rw [same]

/-- The lane that is answered is the one whose result is presented from then on. -/
theorem follows_readyLane :
    Follows (fun _ => True) (readyLane : PoolM κ (Option Nat))
      fun lane pool => pool.readyIndex = lane := by
  unfold readyLane
  refine steps_migrate.bind _ fun _ => follows_getPool fun pool => ?_
  cases presented : pool.readyIndex with
  | none =>
      refine (follows_readyLoop _).weaken ?_ fun _ _ => id
      rintro current - ⟨rfl, -⟩
      exact presented
  | some index =>
      have unread : Stable fun current : JobWorkerPool κ => current.readyIndex = some index :=
        fun _ _ _ known => known
      refine .weaken (follows_loadSlot unread fun loaded => ?_) ?_ fun _ _ => id
      · refine .branch (fun _ => .ret fun _ => And.right) fun gone => ?_
        -- A result that is presented stays until it is released.
        refine .assuming (fun current sound known => ?_) fun impossible => absurd impossible gone
        obtain ⟨slot, found, ready⟩ := sound.presented index known.2
        rw [← known.1, found]
        exact decide_eq_true ready
      · rintro current - ⟨rfl, -⟩
        exact presented

/-- The slot whose result is presented. -/
def presentedSlot (pool : JobWorkerPool κ) : Option (Slot κ) :=
  pool.readyIndex.bind fun index => pool.slots[index]?

theorem follows_readyResult :
    Follows (fun _ => True) (readyResult : PoolM κ (Option JobResultMessage))
      fun answer pool => answer = pool.presentedSlot.map (·.result) := by
  unfold readyResult
  refine follows_readyLane.bind _ fun lane => ?_
  cases lane with
  | none =>
      refine .ret fun pool presented => ?_
      rw [presentedSlot, presented]
      rfl
  | some index =>
      refine follows_getPool fun _ => .ret fun pool known => ?_
      obtain ⟨rfl, presented⟩ := known
      rw [presentedSlot, presented]
      rfl

theorem release_settled (settled : pool.Settled) (index : Nat) : (pool.release index).Settled := by
  unfold release
  split
  · exact settled
  · next slot found =>
      rw [modifySlot_eq_setSlot found]
      intro each member holding stale
      rcases List.mem_or_eq_of_mem_set member with old | rfl
      · exact settled each old holding stale
      · rw [Slot.holding_iff] at holding
        rcases state_vacant { slot with remainingWorkUnits := 0 } with state | state
        · exact absurd state holding.1
        · exact absurd state holding.2

/-- Releasing delivers the result that is presented, if there is one. -/
theorem follows_releaseReadyResult (books : List JobRequestMessage × List Delivery)
    (presented : Option (Slot κ)) :
    (serving κ).Follows
      (fun pool => pool.books = books ∧ pool.presentedSlot = presented ∧ pool.Settled)
      releaseReadyResult fun _ pool =>
        pool.books = (books.1, books.2 ++ presented.toList.map fun slot =>
          { ticket := slot.ticket, request := slot.request, result := slot.result }) ∧
        pool.Settled := by
  unfold releaseReadyResult
  refine serving_getPool fun pool => ?_
  cases chosen : pool.readyIndex with
  | none =>
      refine .ret fun current known => ?_
      obtain ⟨rfl, rfl, rfl, settled⟩ := known
      exact ⟨by simp [presentedSlot, chosen], settled⟩
  | some index =>
      have pumped : ∀ after,
          (serving κ).Follows (fun pool => pool.books = after ∧ pool.Settled) pump
          fun _ pool => pool.books = after ∧ pool.Settled :=
        fun after => (steps_pump.settled.books after).weaken
          (fun _ _ known => ⟨known.1, known.2, trivial⟩) fun _ _ known => ⟨known.1, known.2.1⟩
      refine .bind _ (serving_update ?_ ?_) fun _ => pumped _
      · rintro current - ⟨rfl, -⟩
        exact .release chosen
      · rintro current sound ⟨rfl, rfl, rfl, settled⟩
        refine ⟨?_, release_settled settled index⟩
        obtain ⟨slot, found, ready⟩ := sound.presented index chosen
        rw [release, found, presentedSlot, chosen]
        simp [JobWorkerPool.books, modifySlot, found]

end JobWorkerPool

/-! ## Commands -/

open JobWorkerPool

variable {κ : Type}

/-- Between the commands every lane with a stale request knows, and no idle lane is draining. -/
theorem PoolCommand.follows_exec (command : PoolCommand) :
    (system κ).Follows (fun pool => pool.Settled ∧ pool.Rested) command.exec
      fun _ pool => pool.Settled ∧ pool.Rested := by
  intro world sound known
  have serves : ∀ {α : Type} {program : PoolM κ α} {pre : JobWorkerPool κ → Prop}
      {post : α → JobWorkerPool κ → Prop}, (serving κ).Follows pre program post →
      pre world.pool → (∀ answer pool, post answer pool → pool.Settled) →
      (system κ).Path world (program.run world).2 ∧
        (program.run world).2.pool.Settled ∧ (program.run world).2.pool.Rested := by
    intro α program pre post follows assumed after
    obtain ⟨path, rested, holds⟩ := serving_rested follows world sound ⟨known.2, assumed⟩
    exact ⟨path, after _ _ holds, rested⟩
  have quietly : ∀ {α : Type} {program : PoolM κ α} {post : α → JobWorkerPool κ → Prop},
      Follows (fun _ => True) program post →
      (system κ).Path world (program.run world).2 ∧
        (program.run world).2.pool.Settled ∧ (program.run world).2.pool.Rested :=
    fun follows => serves follows.settled.widen ⟨known.1, trivial⟩ fun _ _ => And.left
  cases command with
  | submit request nowNs =>
      exact (serves (follows_submit request nowNs _) ⟨rfl, known.1⟩ fun _ _ holds =>
        holds.settled :)
  | cancelBefore sessionId generation =>
      exact serves (follows_cancelBefore sessionId generation _) ⟨rfl, known.1.but _ _⟩
        fun _ _ holds => holds.2.1
  | requestWorkerDrain index =>
      obtain ⟨path, -, after⟩ := follows_requestWorkerDrain index _ world sound ⟨rfl, known⟩
      exact ⟨path, after⟩
  | resumeWorker index =>
      exact (quietly (steps_resumeWorker index) :)
  | recoverWorker index =>
      exact (quietly (steps_recoverWorker index) :)
  | readyResult =>
      exact (quietly follows_readyResult :)
  | releaseReadyResult =>
      exact serves (follows_releaseReadyResult _ _) ⟨rfl, rfl, known.1⟩ fun _ _ => And.right
  | releaseSession sessionId =>
      exact (quietly (steps_releaseSession sessionId) :)
  | pause => exact quietly (follows_yield Stable.top)

/-- Every run of commands takes steps of the pool. -/
theorem PoolCommand.follows_execAll (commands : List PoolCommand) :
    (system κ).Follows (fun pool => pool.Settled ∧ pool.Rested) (execAll commands)
      fun _ pool => pool.Settled ∧ pool.Rested :=
  System.Follows.loop fun command _ => command.follows_exec

theorem PoolCommand.execAll_append (first second : List PoolCommand) (world : World κ) :
    ((execAll (first ++ second)).run world).2 =
      ((execAll second).run ((execAll first).run world).2).2 := by
  have split : execAll (first ++ second) = (do execAll first; execAll second : PoolM κ Unit) :=
    List.forM_append
  rw [split]
  rfl

variable (config : Config κ)

theorem JobWorkerPool.vacant_fresh :
    ∀ slot ∈ (fresh config).slots, slot.thread = .waiting ∧ slot.state = .idle := by
  intro slot member
  obtain ⟨lane, -, rfl⟩ := List.mem_map.mp member
  exact ⟨rfl, rfl⟩

/-- A pool starts sound. -/
theorem JobWorkerPool.sound_fresh : (fresh config).Sound where
  partition := by simp [fresh]
  tickets := by simp [fresh]
  queue := by simp [fresh]
  lanes slot member := by
    obtain ⟨waiting, idle⟩ := vacant_fresh config slot member
    exact sound_vacated waiting (.inl idle)
  presented := by simp [fresh]
  delivered := by simp [fresh]
  knownQueue := by simp [fresh]
  knownLanes slot member holding := by
    rw [Slot.holding_iff] at holding
    exact absurd (vacant_fresh config slot member).2 holding.1

theorem JobWorkerPool.settled_fresh : (fresh config).Settled := by
  intro slot member holding
  rw [Slot.holding_iff] at holding
  exact absurd (vacant_fresh config slot member).2 holding.1

theorem JobWorkerPool.rested_fresh : (fresh config).Rested := by
  intro lane slot found _ _
  obtain ⟨lane, -, rfl⟩ := List.mem_map.mp (List.mem_of_getElem? found)
  rfl

/-- At every moment of every run from a fresh pool the pool is sound, and from one moment to the
next it makes a transition; at its end every lane with a stale request knows and no idle lane is
draining. -/
theorem JobWorkerPool.traced_runFrom {config : Config κ} {pool : JobWorkerPool κ}
    (created : create config = .ok pool) (clockNs : UInt64) (schedule : List (List LaneMove))
    (readings : List UInt64) (commands : List PoolCommand) :
    (system κ).Traced pool (PoolCommand.runFrom pool clockNs schedule readings commands) ∧
      (PoolCommand.runFrom pool clockNs schedule readings commands).pool.Settled ∧
      (PoolCommand.runFrom pool clockNs schedule readings commands).pool.Rested := by
  let world : World κ := { pool, clockNs, schedule, readings }
  have sound : pool.Sound := create_ok created ▸ sound_fresh config
  have settled : pool.Settled := create_ok created ▸ settled_fresh config
  have rested : pool.Rested := create_ok created ▸ rested_fresh config
  have start : (system κ).Traced pool world := System.Traced.start (system κ) world rfl sound
  obtain ⟨path, after⟩ := PoolCommand.follows_execAll commands world sound ⟨settled, rested⟩
  exact ⟨start.path path, after⟩

end FlowEdge
