import FlowEdge.Client.AsyncRollout

/-!
# Actions keep their time

The queue of a rollout always holds the rows of one chunk from the current tick on. So an action
that is delivered at a tick was predicted for this tick, whatever the worker, the selector and the
robot do, and a chunk never gives way to an older one.
-/

namespace FlowEdge.AsyncRollout

variable {Observation Plan : Type}

/-! ## Deques and rows -/

theorem extendDeque_nil {α : Type} {maxlen : Nat} {items : List α}
    (fits : items.length ≤ maxlen) : extendDeque maxlen [] items = items := by
  rw [extendDeque, List.nil_append, Nat.sub_eq_zero_of_le fits, List.drop_zero]

theorem getLast?_extendDeque {α : Type} {maxlen : Nat} (positive : 0 < maxlen) (items : List α)
    (item : α) : (extendDeque maxlen items [item]).getLast? = some item := by
  have kept : (items ++ [item]).length - maxlen < (items ++ [item]).length := by
    rw [List.length_append, List.length_singleton]
    omega
  rw [extendDeque, List.getLast?_drop, if_neg (Nat.not_le.mpr kept), List.getLast?_concat]

theorem FloatArray.length_rows (array : FloatArray) :
    array.rows.length = array.shape.headD 0 := by
  simp [rows]

theorem Inference.length_entries (inference : Inference Observation Plan) :
    inference.entries.length = inference.chunk.rows.length := List.length_map _

namespace Rollout

variable {rollout : Rollout Observation Plan}

/-! ## What the parts of a tick do -/

theorem infer_spec {frames : List Observation} {plan : Plan} {seed : Nat} {chunk : FloatArray}
    (inferred : rollout.infer frames plan seed = .ok chunk) :
    rollout.predict frames plan seed = some chunk ∧ chunk.rows.length = rollout.actionSteps := by
  unfold infer at inferred
  split at inferred
  next => cases inferred
  next made predicted =>
    simp only [Words.ite_error_eq_ok, not_or, not_not] at inferred
    obtain ⟨complete, ⟨⟩⟩ := inferred
    exact ⟨predicted, chunk.length_rows.trans complete.2.1⟩

/-- What the first part of a tick leads to. -/
inductive Collects (rollout : Rollout Observation Plan) (tick : Nat)
    (state : LoopState Observation Plan) (input : TickInput Observation Plan) :
    LoopState Observation Plan → Prop
  | waits : Collects rollout tick state input (rollout.observe state input.observation)
  | collects {request : Pending Observation Plan} {chunk : FloatArray} {latencies : List Nat}
      (pending : state.pending = some request)
      (inferred : rollout.infer request.frames request.plan request.seed = .ok chunk) :
      Collects rollout tick state input
        { rollout.align tick (rollout.observe state input.observation) ⟨request, chunk⟩ with
          latencies := latencies
          pending := none
          inferences := state.inferences ++ [⟨request, chunk⟩] }

variable {tick : Nat} {state : LoopState Observation Plan} {input : TickInput Observation Plan}

theorem collects_of_collect {collected : LoopState Observation Plan}
    (collect : rollout.collect tick state input = .ok collected) :
    rollout.Collects tick state input collected := by
  unfold Rollout.collect at collect
  dsimp only at collect
  split at collect
  next => cases collect
  split at collect
  next =>
    cases collect
    exact .waits
  next request pending =>
    split at collect
    next =>
      split at collect
      next => cases collect
      next chunk inferred =>
        simp only [Words.ite_error_eq_ok] at collect
        obtain ⟨-, -, ⟨⟩⟩ := collect
        exact .collects pending inferred
    next =>
      cases collect
      exact .waits

/-- The state differs by a delivered action. -/
structure Sends (tick : Nat) (action : List FloatValue) (source : Option Nat)
    (before after : LoopState Observation Plan) : Prop where
  sent : after.sent = before.sent ++ [⟨tick, action, source⟩]
  completed : after.completed = before.completed + 1
  history : after.history = before.history
  pending : after.pending = before.pending
  calls : after.calls = before.calls
  inferences : after.inferences = before.inferences

/-- What the second part of a tick leads to. -/
inductive Delivers (tick : Nat) (before after : LoopState Observation Plan) : Prop
  | pops (entry : Entry) (queue : before.actions = entry :: after.actions)
      (sends : Sends tick entry.action (some entry.tick) before after)
      (underruns : after.underruns = before.underruns)
  | underruns (action : List FloatValue) (empty : before.actions = [])
      (still : after.actions = []) (sends : Sends tick action none before after)
      (counted : after.underruns = before.underruns + 1)

theorem delivers_of_deliver {delivered : LoopState Observation Plan}
    (deliver : rollout.deliver tick state input = .ok delivered) :
    Delivers tick state delivered := by
  unfold Rollout.deliver Rollout.send at deliver
  split at deliver
  next entry actions queue =>
    split at deliver
    next => cases deliver
    next =>
      cases deliver
      exact .pops entry queue ⟨rfl, rfl, rfl, rfl, rfl, rfl⟩ rfl
  next empty =>
    split at deliver
    next => cases deliver
    next action _ =>
        simp only [Words.ite_error_eq_ok] at deliver
        obtain ⟨-, -, ⟨⟩⟩ := deliver
        exact .underruns action.values empty empty ⟨rfl, rfl, rfl, rfl, rfl, rfl⟩ rfl

/-- What the third part of a tick leads to. -/
inductive Refills (tick : Nat) (state : LoopState Observation Plan) :
    LoopState Observation Plan → Prop
  | rests {rejected : Nat} : Refills tick state { state with rejected := rejected }
  | asks {request : Pending Observation Plan} {planIds : List Nat} (none : state.pending = none)
      (frames : request.frames = state.history) (now : request.tick = tick) :
      Refills tick state
        { state with pending := some request, calls := state.calls + 1, planIds := planIds }

theorem refills_of_refill {refilled : LoopState Observation Plan}
    (refill : rollout.refill tick state input = .ok refilled) : Refills tick state refilled := by
  unfold Rollout.refill at refill
  split at refill
  next low =>
    split at refill
    next => cases refill
    split at refill
    next =>
      cases refill
      exact .rests
    next plan chosen =>
      cases refill
      exact .asks (Option.isNone_iff_eq_none.mp low.1) rfl rfl
  next =>
    cases refill
    exact .rests

/-- What was delivered and asked for is the same. -/
structure SameRecord (before after : LoopState Observation Plan) : Prop where
  history : after.history = before.history
  sent : after.sent = before.sent
  completed : after.completed = before.completed
  underruns : after.underruns = before.underruns
  calls : after.calls = before.calls

variable (rollout) in
theorem sameRecord_align (tick : Nat) (state : LoopState Observation Plan)
    (inference : Inference Observation Plan) :
    SameRecord state (rollout.align tick state inference) := by
  unfold align
  dsimp only
  split
  · exact ⟨rfl, rfl, rfl, rfl, rfl⟩
  · exact ⟨rfl, rfl, rfl, rfl, rfl⟩

/-- The history ends in the observation of the tick. -/
theorem Collects.history {after : LoopState Observation Plan}
    (collects : rollout.Collects tick state input after) (positive : 0 < rollout.observationSteps) :
    after.history.getLast? = some input.observation := by
  have observed := getLast?_extendDeque positive state.history input.observation
  cases collects with
  | waits => exact observed
  | collects => exact (rollout.sameRecord_align tick _ _).history.symm ▸ observed

theorem Delivers.history {before after : LoopState Observation Plan}
    (delivers : Delivers tick before after) : after.history = before.history := by
  cases delivers with
  | pops entry queue sends => exact sends.history
  | underruns action empty still sends => exact sends.history

/-! ## The invariant -/

section Invariant

variable (rollout) (boot : BootInput Observation) (inputs : Nat → TickInput Observation Plan)

/-- The history of a request ends in the observation of its tick. The bootstrap has an observation
of its own, which counts as the one of the first tick. -/
def Observes (request : Pending Observation Plan) : Prop :=
  request.tick = 0 ∧ request.frames.getLast? = some boot.first ∨
    request.frames.getLast? = some (inputs request.tick).observation

/-- A collected chunk is complete and was predicted from the observation of its tick. -/
structure Inferred (inference : Inference Observation Plan) : Prop where
  predicted : rollout.predict inference.request.frames inference.request.plan
    inference.request.seed = some inference.chunk
  complete : inference.chunk.rows.length = rollout.actionSteps
  observes : Observes boot inputs inference.request

/-- A delivered action is the row of a collected chunk for the tick of its delivery. -/
def InTime (inferences : List (Inference Observation Plan)) (sent : Sent) : Prop :=
  ∀ origin, sent.source = some origin →
    origin ≤ sent.tick ∧ sent.tick - origin < rollout.actionSteps ∧
      ∃ inference ∈ inferences, inference.request.tick = origin ∧
        inference.chunk.rows[sent.tick - origin]? = some sent.action

/-- What is recorded of a rollout is right. -/
structure Recorded (state : LoopState Observation Plan) : Prop where
  inferences : ∀ inference ∈ state.inferences, Inferred rollout boot inputs inference
  pending : ∀ request, state.pending = some request → Observes boot inputs request
  sent : ∀ sent ∈ state.sent, InTime rollout state.inferences sent
  ordered : (state.sent.filterMap Sent.source).Pairwise (· ≤ ·)
  ticks : state.sent.map Sent.tick = List.range state.completed
  counted : state.completed = state.sent.countP (·.source.isSome) + state.underruns
  flight : state.calls = state.inferences.length + state.pending.toList.length

/-- At the start of a tick the queue holds the rows of a chunk from this tick on. No later chunk
has served an action, and a pending prediction is not older. -/
structure Aligned (tick : Nat) (state : LoopState Observation Plan)
    (inference : Inference Observation Plan) : Prop where
  collected : inference ∈ state.inferences
  reached : inference.request.tick ≤ tick
  queue : state.actions = inference.entries.drop (tick - inference.request.tick)
  newest : ∀ origin ∈ state.sent.filterMap Sent.source, origin ≤ inference.request.tick
  pending : ∀ request, state.pending = some request →
    inference.request.tick ≤ request.tick ∧ request.tick < tick
  completed : state.completed = tick

end Invariant

variable {boot : BootInput Observation} {inputs : Nat → TickInput Observation Plan}
variable {tick : Nat} {state after : LoopState Observation Plan}
variable {inference : Inference Observation Plan}

theorem InTime.mono {inferences more : List (Inference Observation Plan)} {sent : Sent}
    (inTime : InTime rollout inferences sent) : InTime rollout (inferences ++ more) sent := by
  intro origin source
  obtain ⟨reached, inside, inference, member, here⟩ := inTime origin source
  exact ⟨reached, inside, inference, List.mem_append_left _ member, here⟩

/-! ## The steps -/

theorem Recorded.collects (recorded : Recorded rollout boot inputs state)
    (collects : rollout.Collects tick state (inputs tick) after) :
    Recorded rollout boot inputs after := by
  cases collects with
  | waits => exact { recorded with }
  | @collects request chunk latencies pending inferred =>
      obtain ⟨predicted, complete⟩ := infer_spec inferred
      have same := rollout.sameRecord_align tick
        (rollout.observe state (inputs tick).observation) ⟨request, chunk⟩
      generalize rollout.align tick _ _ = aligned at same ⊢
      obtain ⟨-, sent, completed, underruns, calls⟩ := same
      refine ⟨List.forall_mem_append.mpr ⟨recorded.inferences, List.forall_mem_singleton.mpr
        ⟨predicted, complete, recorded.pending request pending⟩⟩, nofun, fun delivered member => ?_,
        ?_, ?_, ?_, ?_⟩
      · exact (recorded.sent delivered (sent ▸ member)).mono
      · exact sent ▸ recorded.ordered
      · exact sent ▸ completed ▸ recorded.ticks
      · exact sent ▸ completed ▸ underruns ▸ recorded.counted
      · refine calls.trans ?_
        change state.calls = _
        simpa [pending] using recorded.flight

theorem Aligned.collects (aligned : Aligned tick state inference)
    (collects : rollout.Collects tick state (inputs tick) after) :
    ∃ current, Aligned tick after current := by
  cases collects with
  | waits => exact ⟨inference, { aligned with }⟩
  | @collects request chunk latencies pending inferred =>
      obtain ⟨not_older, before⟩ := aligned.pending request pending
      obtain ⟨-, complete⟩ := infer_spec inferred
      unfold align
      dsimp only
      split
      next inside =>
        refine ⟨⟨request, chunk⟩, List.mem_concat_self, before.le, ?_, ?_, nofun,
          aligned.completed⟩
        · refine extendDeque_nil ?_
          rw [List.length_drop, Inference.length_entries]
          exact (Nat.sub_le _ _).trans complete.le
        · exact fun origin member => (aligned.newest origin member).trans not_older
      next =>
        exact ⟨inference, List.mem_append_left _ aligned.collected, aligned.reached,
          aligned.queue, aligned.newest, nofun, aligned.completed⟩

/-- The oldest queued action is the row for the current tick. -/
theorem Aligned.head (aligned : Aligned tick state inference) {entry : Entry}
    {rest : List Entry} (queue : state.actions = entry :: rest) :
    inference.chunk.rows[tick - inference.request.tick]? = some entry.action ∧
      entry.tick = inference.request.tick ∧
      rest = inference.entries.drop (tick + 1 - inference.request.tick) := by
  have dropped := aligned.queue
  rw [queue] at dropped
  have first : inference.entries[tick - inference.request.tick]? = some entry := by
    rw [← List.head?_drop, ← dropped, List.head?_cons]
  have behind : rest = inference.entries.drop (tick + 1 - inference.request.tick) := by
    rw [Nat.sub_add_comm aligned.reached, ← List.drop_drop, ← dropped]
    rfl
  rw [Inference.entries, List.getElem?_map, Option.map_eq_some_iff] at first
  obtain ⟨row, here, rfl⟩ := first
  exact ⟨here, rfl, behind⟩

/-- A delivered action keeps the record right if it comes in time and is not older. -/
theorem Recorded.sends (recorded : Recorded rollout boot inputs state)
    (completed : state.completed = tick) {action : List FloatValue} {source : Option Nat}
    (sends : Sends tick action source state after)
    (inTime : InTime rollout state.inferences ⟨tick, action, source⟩)
    (newer : ∀ origin, source = some origin →
      ∀ earlier ∈ state.sent.filterMap Sent.source, earlier ≤ origin)
    (counted : after.underruns = state.underruns + if source.isSome then 0 else 1) :
    Recorded rollout boot inputs after := by
  refine ⟨sends.inferences ▸ recorded.inferences, sends.pending ▸ recorded.pending, ?_, ?_, ?_, ?_,
    ?_⟩
  · intro delivered member
    rw [sends.sent] at member
    rw [sends.inferences]
    rcases List.mem_append.mp member with earlier | here
    · exact recorded.sent delivered earlier
    · obtain rfl := List.mem_singleton.mp here
      exact inTime
  · rw [sends.sent, List.filterMap_append, List.pairwise_append]
    refine ⟨recorded.ordered, ?_, fun earlier member origin here => ?_⟩
    · cases source <;> simp
    · cases source with
      | none => simp at here
      | some now =>
          obtain rfl : origin = now := by simpa using here
          exact newer origin rfl earlier member
  · rw [sends.sent, sends.completed, List.map_append, recorded.ticks, List.range_succ,
      completed]
    rfl
  · rw [sends.sent, sends.completed, recorded.counted, List.countP_append, counted]
    cases source
    · simp
      omega
    · simp
      omega
  · rw [sends.calls, sends.inferences, sends.pending]
    exact recorded.flight

theorem Recorded.delivers (recorded : Recorded rollout boot inputs state)
    (aligned : Aligned tick state inference) (delivers : Delivers tick state after) :
    Recorded rollout boot inputs after := by
  cases delivers with
  | pops entry queue sends underruns =>
      obtain ⟨row, origin, -⟩ := aligned.head queue
      refine recorded.sends aligned.completed sends ?_ ?_ underruns
      · rintro here ⟨⟩
        obtain ⟨inside, -⟩ := List.getElem?_eq_some_iff.mp row
        rw [(recorded.inferences inference aligned.collected).complete] at inside
        rw [origin]
        exact ⟨aligned.reached, inside, inference, aligned.collected, rfl, row⟩
      · rintro here ⟨⟩
        rw [origin]
        exact aligned.newest
  | underruns action empty still sends counted =>
      exact recorded.sends aligned.completed sends nofun nofun counted

theorem Aligned.delivers (aligned : Aligned tick state inference)
    (delivers : Delivers tick state after) : Aligned (tick + 1) after inference := by
  have later : ∀ {action source}, Sends tick action source state after →
      (∀ origin, source = some origin → origin = inference.request.tick) →
      after.actions = inference.entries.drop (tick + 1 - inference.request.tick) →
      Aligned (tick + 1) after inference := by
    intro action source sends current queue
    refine ⟨sends.inferences ▸ aligned.collected, Nat.le_succ_of_le aligned.reached, queue, ?_, ?_,
      ?_⟩
    · intro origin member
      rw [sends.sent, List.filterMap_append, List.mem_append] at member
      rcases member with earlier | here
      · exact aligned.newest origin earlier
      · cases source with
        | none => simp at here
        | some now =>
            obtain rfl : origin = now := by simpa using here
            exact (current origin rfl).le
    · intro request pending
      rw [sends.pending] at pending
      obtain ⟨not_older, before⟩ := aligned.pending request pending
      exact ⟨not_older, Nat.lt_succ_of_lt before⟩
    · rw [sends.completed, aligned.completed]
  cases delivers with
  | pops entry queue sends =>
      obtain ⟨-, origin, behind⟩ := aligned.head queue
      refine later sends ?_ behind
      rintro here ⟨⟩
      exact origin
  | underruns action empty still sends =>
      refine later sends nofun ?_
      have done := aligned.queue
      rw [empty] at done
      rw [still, Nat.sub_add_comm aligned.reached, ← List.drop_drop, ← done, List.drop_nil]

theorem Recorded.refills (recorded : Recorded rollout boot inputs state)
    (observed : state.history.getLast? = some (inputs tick).observation)
    (refills : Refills tick state after) : Recorded rollout boot inputs after := by
  cases refills with
  | rests => exact { recorded with }
  | @asks request planIds idle frames now =>
      refine { recorded with pending := ?_, flight := ?_ }
      · rintro asked ⟨⟩
        refine .inr ?_
        rw [frames, now]
        exact observed
      · have flight := recorded.flight
        rw [idle] at flight
        simp [flight]

theorem Aligned.refills (aligned : Aligned (tick + 1) state inference)
    (reached : inference.request.tick ≤ tick) (refills : Refills tick state after) :
    Aligned (tick + 1) after inference := by
  cases refills with
  | rests => exact { aligned with }
  | @asks request planIds idle frames now =>
      refine { aligned with pending := ?_ }
      rintro asked ⟨⟩
      exact ⟨now ▸ reached, now ▸ Nat.lt_succ_self _⟩

/-- What is recorded is right, and the queue is aligned while the loop goes on. -/
structure Sound (rollout : Rollout Observation Plan) (boot : BootInput Observation)
    (inputs : Nat → TickInput Observation Plan) (tick : Nat) (run : Run Observation Plan) :
    Prop where
  recorded : Recorded rollout boot inputs run.state
  aligned : run.phase = .running → ∃ inference, Aligned tick run.state inference

theorem Sound.step (positive : 0 < rollout.observationSteps) {run : Run Observation Plan}
    (sound : Sound rollout boot inputs tick run) :
    Sound rollout boot inputs (tick + 1) (rollout.step tick run (inputs tick)) := by
  unfold Rollout.step
  split
  next ended => exact ⟨sound.recorded, fun running => absurd running ended⟩
  next running =>
    obtain ⟨_, aligned⟩ := sound.aligned (not_not.mp running)
    split
    next => exact ⟨sound.recorded, nofun⟩
    next collected collect =>
      have collects := collects_of_collect collect
      have recorded := sound.recorded.collects collects
      obtain ⟨inference, current⟩ := aligned.collects collects
      split
      next => exact ⟨recorded, nofun⟩
      next delivered deliver =>
        have delivers := delivers_of_deliver deliver
        have sent := recorded.delivers current delivers
        split
        next => exact ⟨sent, nofun⟩
        next =>
          split
          next => exact ⟨sent, nofun⟩
          next refilled refill =>
            have refills := refills_of_refill refill
            have observed := delivers.history.symm ▸ collects.history positive
            exact ⟨sent.refills observed refills,
              fun _ => ⟨inference, (current.delivers delivers).refills current.reached refills⟩⟩

/-- Every state of the loop is sound. -/
theorem Sound.ticks (positive : 0 < rollout.observationSteps)
    {start : LoopState Observation Plan} (sound : Sound rollout boot inputs 0 ⟨start, .running⟩)
    (count : Nat) : Sound rollout boot inputs count (rollout.ticks inputs start count) := by
  induction count with
  | zero => exact sound
  | succ count ih => exact ih.step positive

/-- The bootstrap chunk is aligned to the first tick. -/
theorem sound_of_boot {start : LoopState Observation Plan}
    (booted : rollout.boot boot = .ok start) :
    0 < rollout.observationSteps ∧ Sound rollout boot inputs 0 ⟨start, .running⟩ := by
  simp only [Rollout.boot, Words.ite_error_eq_ok, not_or] at booted
  obtain ⟨bounds, -, -, booted⟩ := booted
  split at booted
  next => cases booted
  next chunk inferred =>
    cases booted
    obtain ⟨predicted, complete⟩ := infer_spec inferred
    have positive : 0 < rollout.observationSteps := Nat.pos_of_ne_zero bounds.2.2
    have observes : Observes boot inputs (rollout.firstRequest boot) := by
      refine .inl ⟨rfl, ?_⟩
      rw [firstRequest, List.getLast?_replicate, if_neg bounds.2.2]
    refine ⟨positive, ⟨?_, nofun, nofun, .nil, rfl, rfl, rfl⟩, fun _ =>
      ⟨⟨rollout.firstRequest boot, chunk⟩, List.mem_singleton_self _, le_rfl, ?_,
        nofun, nofun, rfl⟩⟩
    · intro inference member
      obtain rfl := List.mem_singleton.mp member
      exact ⟨predicted, complete, observes⟩
    · refine extendDeque_nil ?_
      rw [Inference.length_entries]
      exact complete.le

/-- A chunk whose actions have all elapsed is dropped, and the queue stays. -/
theorem collect_elapsed {request : Pending Observation Plan}
    (collect : rollout.collect tick state input = .ok after)
    (pending : state.pending = some request) (done : input.done = true)
    (elapsed : rollout.actionSteps ≤ tick - request.tick) :
    after.actions = state.actions ∧ after.dropped = state.dropped + 1 ∧ after.pending = none := by
  unfold Rollout.collect at collect
  simp only [pending, done, if_true, Words.ite_error_eq_ok] at collect
  obtain ⟨-, collect⟩ := collect
  split at collect
  next => cases collect
  next chunk inferred =>
    simp only [Words.ite_error_eq_ok] at collect
    obtain ⟨-, -, ⟨⟩⟩ := collect
    rw [align, if_neg (Nat.not_lt.mpr elapsed)]
    exact ⟨rfl, rfl, rfl⟩

theorem report_of_finish {run : Run Observation Plan} {cancelled : Bool} {report : Report}
    (finished : rollout.finish run cancelled = .ok report) : report = run.state.report := by
  unfold Rollout.finish at finished
  split at finished
  next => cases finished
  split at finished
  next => exact (Except.ok.inj finished).symm
  next =>
    split at finished
    next => exact (Except.ok.inj finished).symm
    split at finished
    next => cases finished
    next => exact (Except.ok.inj finished).symm

/-- **Actions keep their time.** Behind any number of ticks of a rollout, whatever the robot, the
selector and the worker did: an action that was sent at a tick and is no fallback is the row
`tick - origin` of the chunk that was predicted from the observation of the tick `origin`. The
origins never go back and every tick has one action. At most one prediction is in flight, a chunk
whose actions have all elapsed leaves the queue as it is, and each completed step is an action of a
chunk or an underrun. -/
theorem rollout_keeps_time (rollout : Rollout Observation Plan) (boot : BootInput Observation)
    (inputs : Nat → TickInput Observation Plan) {start : LoopState Observation Plan}
    (booted : rollout.boot boot = .ok start) (count : Nat) {run : Run Observation Plan}
    (reached : run = rollout.ticks inputs start count) :
    (∀ sent ∈ run.state.sent, ∀ origin, sent.source = some origin →
      origin ≤ sent.tick ∧ sent.tick - origin < rollout.actionSteps ∧
        ∃ inference ∈ run.state.inferences, inference.request.tick = origin ∧
          Observes boot inputs inference.request ∧
          rollout.predict inference.request.frames inference.request.plan
            inference.request.seed = some inference.chunk ∧
          inference.chunk.rows[sent.tick - origin]? = some sent.action) ∧
    (run.state.sent.filterMap Sent.source).Pairwise (· ≤ ·) ∧
    run.state.sent.map Sent.tick = List.range run.state.completed ∧
    run.state.calls = run.state.inferences.length + run.state.pending.toList.length ∧
    run.state.calls ≤ run.state.inferences.length + 1 ∧
    (∀ request collected, run.state.pending = some request → (inputs count).done = true →
      rollout.actionSteps ≤ count - request.tick →
      rollout.collect count run.state (inputs count) = .ok collected →
        collected.actions = run.state.actions ∧ collected.dropped = run.state.dropped + 1 ∧
          collected.pending = none) ∧
    run.state.completed =
      run.state.sent.countP (·.source.isSome) + run.state.underruns ∧
    ∀ cancelled report, rollout.finish run cancelled = .ok report →
      report.steps = run.state.sent.countP (·.source.isSome) + report.queueUnderruns := by
  obtain ⟨positive, sound⟩ := @sound_of_boot _ _ rollout boot inputs _ booted
  have recorded := (sound.ticks positive count).recorded
  rw [← reached] at recorded
  refine ⟨fun sent member origin source => ?_, recorded.ordered, recorded.ticks, recorded.flight,
    ?_, fun request collected pending done elapsed collect => ?_, recorded.counted,
    fun cancelled report finished => ?_⟩
  · obtain ⟨before, inside, inference, collected, here, row⟩ :=
      recorded.sent sent member origin source
    have inferred := recorded.inferences inference collected
    exact ⟨before, inside, inference, collected, here, inferred.observes, inferred.predicted, row⟩
  · rw [recorded.flight]
    cases run.state.pending <;> simp
  · exact collect_elapsed collect pending done elapsed
  · rw [report_of_finish finished]
    exact recorded.counted

/-- Chunks of three rows that hold their seed and their row. -/
private def steadyRollout : Rollout Nat Nat where
  steps := 8
  actionSteps := 3
  observationSteps := 2
  periodMs := .finite 20
  refillThreshold := .finite 1
  seed := 0
  fixedPlan := 0
  planId := id
  hasSelector := true
  predict _ _ seed :=
    some ⟨[3, 2], [.finite seed, .finite 0, .finite seed, .finite 1, .finite seed, .finite 2], rfl⟩
  scaled count _ := count - 1

private def steadyBoot : BootInput Nat where
  first := 7
  observationNs := 0
  startedNs := 1
  finishedNs := 2
  startNs := 3
  raises := false

/-- Two asked predictions are done in time, one plan is refused and a prediction takes too long. -/
private def steadyInputs (tick : Nat) : TickInput Nat Nat where
  observation := tick
  observationNs := 10 * tick
  done := tick = 2 ∨ tick = 4 ∨ tick = 7
  finishedNs := 10 * tick
  popNs := 10 * tick
  fallback := some ⟨[2], [.finite 9, .finite 9], rfl⟩
  deliveryNs := 10 * tick
  checkNs := 10 * tick
  robotDone := false
  selected := if tick = 2 then none else some 0
  dispatchNs := 10 * tick
  fault := none

theorem rollout_keeps_time_steady :
    ∃ start, steadyRollout.boot steadyBoot = .ok start ∧
      (steadyRollout.ticks steadyInputs start 8).state.sent.map Sent.source =
        [some 0, some 0, some 0, none, some 3, some 3, none, none] ∧
      (steadyRollout.ticks steadyInputs start 8).state.dropped = 1 ∧
      ∀ sent ∈ (steadyRollout.ticks steadyInputs start 8).state.sent, ∀ origin,
        sent.source = some origin → origin ≤ sent.tick ∧ sent.tick - origin < 3 := by
  refine ⟨_, rfl, by decide +kernel, by decide +kernel, fun sent member origin source => ?_⟩
  obtain ⟨inTime, -⟩ := rollout_keeps_time steadyRollout steadyBoot steadyInputs rfl 8 rfl
  obtain ⟨before, inside, -⟩ := inTime sent member origin source
  exact ⟨before, inside⟩

end Rollout

end FlowEdge.AsyncRollout
