import FlowEdge.Heads.FlowSampler

/-!
# Sessions of the resumable sampler

However a solve is cut into calls, its values are those after some number of whole steps of the
method from the noise. A solve that nobody cancels takes the steps that its budgets allow, so that
it ends with the sample of one call; a newer generation stops it between two steps for good.
-/

namespace FlowEdge

open Words

namespace SamplerState

variable {R : Type*} {state : SamplerState R}

theorem toNat_remaining (state : SamplerState R) :
    state.remaining.toNat = state.steps.toNat - state.nextStep.toNat := by
  unfold remaining
  split
  next before =>
    exact UInt64.toNat_sub_of_le _ _ (UInt64.le_iff_toNat_le.mpr
      (UInt64.lt_iff_toNat_lt.mp before).le)
  next reached =>
    rw [UInt64.not_lt, UInt64.le_iff_toNat_le] at reached
    rw [UInt64.toNat_zero]
    omega

/-- A newer generation is there at a look of the solver. -/
def Newer (state : SamplerState R) (latest : UInt64) (raises : Nat → UInt64) (look : Nat) : Prop :=
  state.tracking = true ∧
    (state.generation < latest ∨ ∃ earlier ≤ look, state.generation < raises earlier)

theorem lt_wordMax_iff {bound left right : UInt64} :
    bound < wordMax left right ↔ bound < left ∨ bound < right := by
  simp only [UInt64.lt_iff_toNat_lt, toNat_wordMax, lt_max_iff]

theorem newer_zero_iff {latest : UInt64} {raises : Nat → UInt64} :
    state.Newer latest raises 0 ↔
      state.tracking = true ∧ wordMax latest (raises 0) > state.generation := by
  simp only [Newer, Nat.le_zero, exists_eq_left, gt_iff_lt, lt_wordMax_iff]

/-- A look after the first one is a look at what the first one left. -/
theorem newer_succ_iff {latest : UInt64} {raises : Nat → UInt64} {look : Nat} :
    state.Newer latest raises (look + 1) ↔
      state.Newer (wordMax latest (raises 0)) (fun later => raises (later + 1)) look := by
  simp only [Newer, lt_wordMax_iff, or_assoc]
  refine and_congr_right fun _ => or_congr_right ⟨?_, ?_⟩
  · rintro ⟨earlier, before, newer⟩
    cases earlier with
    | zero => exact .inl newer
    | succ earlier => exact .inr ⟨earlier, by omega, newer⟩
  · rintro (newer | ⟨earlier, before, newer⟩)
    · exact ⟨0, by omega, newer⟩
    · exact ⟨earlier + 1, by omega, newer⟩

end SamplerState

namespace FlowSampler

theorem samplerBegin_ready {R : Type*} {head : FlowField R} {condition noise : List R}
    {workspace : Nat} (state : SamplerState R) (metadata : FlowRequestMetadata)
    (valid : head.ok = true ∧ metadata.steps ≠ 0 ∧ condition.length = head.condDim ∧
      noise.length = head.actionDim)
    (room : head.samplerWorkspaceSize ≤ workspace) :
    ∃ begun, samplerBegin head state condition noise metadata.steps metadata.method workspace
      metadata.generationTracking metadata.generation = (begun, true) := by
  refine ⟨_, if_neg ?_⟩
  simp only [ne_eq, not_or, not_not, not_lt]
  exact ⟨valid.1, valid.2.1, valid.2.2.1, valid.2.2.2, room⟩

variable {R : Type*} [Add R] [Mul R] [Div R] [NatCast R] [OfScientific R] (head : FlowField R)

/-! ## Whole steps -/

/-- The values after one step of a method from given values. -/
def stepValue (method : FlowMethod) (steps index : Nat) (embedding x : List R) : List R :=
  let dt : R := 1.0 / (steps : R)
  let t : R := (index : R) * dt
  let slope := fun x t => head.velocity x t embedding
  let k1 := slope x t
  match method with
  | .euler => addScaled x k1 dt
  | .heun => addHeun x k1 (slope (scaledSum x k1 dt) (t + dt)) dt
  | .rk4 =>
      let k2 := slope (scaledSum x k1 (0.5 * dt)) (t + 0.5 * dt)
      let k3 := slope (scaledSum x k2 (0.5 * dt)) (t + 0.5 * dt)
      addRk4 x k1 k2 k3 (slope (scaledSum x k3 dt) (t + dt)) dt

/-- The values after a number of whole steps from the noise. -/
def solution (method : FlowMethod) (steps : Nat) (embedding noise : List R) : Nat → List R
  | 0 => noise
  | index + 1 =>
      stepValue head method steps index embedding (solution method steps embedding noise index)

variable {method : FlowMethod}

theorem length_stepValue {steps index : Nat} {embedding x : List R}
    (fits : x.length = head.actionDim) :
    (stepValue head method steps index embedding x).length = head.actionDim := by
  cases method <;>
    simp [stepValue, addScaled, addHeun, addRk4, fits, head.velocity_length]

theorem length_solution {steps : Nat} {embedding noise : List R}
    (fits : noise.length = head.actionDim) (index : Nat) :
    (solution head method steps embedding noise index).length = head.actionDim := by
  induction index with
  | zero => exact fits
  | succ index hypothesis => exact length_stepValue head hypothesis

/-- A step of the solver writes the values and the spans that only it uses. -/
theorem solverStep_eq (state : SamplerState R) :
    ∃ k1 k2 k3 k4 probe, solverStep head state =
      { state with
        k1, k2, k3, k4, probe
        x := stepValue head state.method state.steps.toNat state.nextStep.toNat
          state.conditionEmbedding state.x } := by
  unfold solverStep stepValue
  cases state.method <;> exact ⟨_, _, _, _, _, rfl⟩

/-- One round of the loop that is not cancelled. -/
def wholeStep (state : SamplerState R) : SamplerState R :=
  { solverStep head state with nextStep := (solverStep head state).nextStep + 1 }

theorem wholeStep_eq (state : SamplerState R) :
    ∃ k1 k2 k3 k4 probe, wholeStep head state =
      { state with
        k1, k2, k3, k4, probe
        nextStep := state.nextStep + 1
        x := stepValue head state.method state.steps.toNat state.nextStep.toNat
          state.conditionEmbedding state.x } := by
  obtain ⟨k1, k2, k3, k4, probe, same⟩ := solverStep_eq head state
  exact ⟨k1, k2, k3, k4, probe, by rw [wholeStep, same]⟩

/-! ## The loop -/

/-- The sampler after a newer generation has stopped it. -/
def stopped (state : SamplerState R) : SamplerState R :=
  { state with cancelled := true, active := false }

/-- The sampler after a call that may take a number of steps and that looks at the latest
generation before each. -/
inductive Stepped (state : SamplerState R) (newer : Nat → Prop) (todo : Nat) :
    Nat → SamplerState R → Prop where
  | done (quiet : ∀ look < todo, ¬ newer look) :
      Stepped state newer todo todo ((wholeStep head)^[todo] state)
  | cancelled (count : Nat) (before : count < todo) (quiet : ∀ look < count, ¬ newer look)
      (seen : newer count) :
      Stepped state newer todo count (stopped ((wholeStep head)^[count] state))

variable {head} {state : SamplerState R}

theorem newer_wholeStep {latest : UInt64} {raises : Nat → UInt64} {look : Nat} :
    (wholeStep head state).Newer latest raises look ↔ state.Newer latest raises look := by
  obtain ⟨_, _, _, _, _, same⟩ := wholeStep_eq head state
  rw [same]
  rfl

theorem Stepped.succ {newer : Nat → Prop} {todo count : Nat}
    {final : SamplerState R} (quiet : ¬ newer 0)
    (rest : Stepped head (wholeStep head state) (fun look => newer (look + 1)) todo count final) :
    Stepped head state newer (todo + 1) (count + 1) final := by
  have shift : ∀ bound, (∀ look < bound, ¬ newer (look + 1)) →
      ∀ look < bound + 1, ¬ newer look := by
    intro bound later look before
    cases look with
    | zero => exact quiet
    | succ look => exact later look (by omega)
  cases rest with
  | done later => exact .done (shift todo later)
  | cancelled _ before later seen =>
      exact .cancelled (count + 1) (by omega) (shift count later) seen

/-- A newer generation at a first look before the end is where the call stopped. -/
theorem Stepped.count_eq_of_first {final : SamplerState R} {newer : Nat → Prop}
    {todo count first : Nat} (call : Stepped head state newer todo count final)
    (before : first < todo) (seen : newer first) (quiet : ∀ look < first, ¬ newer look) :
    count = first := by
  cases call with
  | done none => exact absurd seen (none first before)
  | cancelled _ _ earlier found =>
      rcases lt_trichotomy count first with less | same | more
      · exact absurd found (quiet count less)
      · exact same
      · exact absurd seen (earlier first more)

theorem Stepped.count_eq_of_quiet {final : SamplerState R} {newer : Nat → Prop} {todo count : Nat}
    (call : Stepped head state newer todo count final) (quiet : ∀ look < todo, ¬ newer look) :
    count = todo := by
  cases call with
  | done => rfl
  | cancelled _ before _ seen => exact absurd seen (quiet count before)

/-- The loop takes the steps before the first look that finds a newer generation. -/
theorem advanceSteps_stepped (raises : Nat → UInt64) (rounds : Nat) (progress : Progress R) :
    ∃ count, (advanceSteps head raises rounds progress).completed = progress.completed + count ∧
      Stepped head progress.state
        (progress.state.Newer progress.latest fun look => raises (progress.completed + look))
        rounds count (advanceSteps head raises rounds progress).state := by
  induction rounds generalizing progress with
  | zero => exact ⟨0, rfl, .done (fun look before => absurd before (Nat.not_lt_zero look))⟩
  | succ rounds hypothesis =>
      simp only [advanceSteps]
      split
      next seen =>
        exact ⟨0, rfl, .cancelled 0 (Nat.succ_pos rounds)
          (fun look before => absurd before (Nat.not_lt_zero look))
          (SamplerState.newer_zero_iff.mpr seen)⟩
      next quiet =>
        obtain ⟨count, completed, rest⟩ := hypothesis
          { state := wholeStep head progress.state
            latest := wordMax progress.latest (raises progress.completed)
            completed := progress.completed + 1 }
        refine ⟨count + 1, completed.trans (Nat.add_right_comm _ _ _),
          Stepped.succ (mt SamplerState.newer_zero_iff.mp quiet) ?_⟩
        refine (congrArg (Stepped head _ · _ _ _) (funext fun look => propext ?_)).mp rest
        rw [newer_wholeStep, SamplerState.newer_succ_iff]
        simp only [Nat.add_assoc, Nat.add_comm 1, Nat.add_zero]

/-- A call of an active sampler with room for the action. -/
theorem samplerAdvance_stepped (active : state.active = true) (latest : UInt64)
    (raises : Nat → UInt64) (stepBudget : UInt64) (out : head.Output) :
    let advanced := samplerAdvance head state latest raises stepBudget out.val
    Stepped head state (state.Newer latest raises)
        (min stepBudget.toNat (state.steps.toNat - state.nextStep.toNat))
        advanced.completed advanced.state ∧
      advanced.out = advanced.state.x ++ out.val.drop head.actionDim := by
  have runs : ¬ (¬ state.active = true ∨ out.val.length < head.actionDim) := by
    rw [not_or, not_not, not_lt]
    exact ⟨active, out.property⟩
  rw [samplerAdvance, if_neg runs]
  refine ⟨?_, rfl⟩
  obtain ⟨count, completed, stepped⟩ := advanceSteps_stepped raises
    (min stepBudget state.remaining).toNat { state, latest : Progress R }
  rw [Nat.zero_add] at completed
  rw [← completed] at stepped
  simpa only [UInt64.toNat_min, SamplerState.toNat_remaining, Nat.zero_add] using stepped

/-! ## Sessions -/

/-- The state of a solve that has begun and was given a number of steps so far. -/
structure Session (head : FlowField R) (condition noise : List R) (metadata : FlowRequestMetadata)
    (allowed : Nat) (state : SamplerState R) : Prop where
  embedding : state.conditionEmbedding = head.embed condition
  steps : state.steps = metadata.steps
  method : state.method = metadata.method
  tracking : state.tracking = metadata.generationTracking
  generation : state.generation = metadata.generation
  live : state.active = !state.cancelled
  bounded : state.nextStep.toNat ≤ metadata.steps.toNat
  whole : state.x = solution head metadata.method metadata.steps.toNat (head.embed condition) noise
    state.nextStep.toNat
  taken : state.cancelled = false → state.nextStep.toNat = min metadata.steps.toNat allowed

namespace Session

variable {condition noise : List R} {metadata : FlowRequestMetadata} {allowed : Nat}
  {state : SamplerState R}

/-- A whole step before the last one. -/
theorem wholeStep_spec (session : Session head condition noise metadata allowed state)
    (running : state.cancelled = false) (before : state.nextStep.toNat < metadata.steps.toNat) :
    Session head condition noise metadata (allowed + 1) (wholeStep head state) ∧
      (wholeStep head state).cancelled = false ∧
      (wholeStep head state).nextStep.toNat = state.nextStep.toNat + 1 := by
  obtain ⟨k1, k2, k3, k4, probe, same⟩ := wholeStep_eq head state
  have next : (state.nextStep + 1).toNat = state.nextStep.toNat + 1 :=
    toNat_add_one (by have := toNat_le_maxWord metadata.steps; omega)
  have taken := session.taken running
  rw [same]
  refine ⟨⟨session.embedding, session.steps, session.method, session.tracking, session.generation,
    session.live, ?_, ?_, fun _ => ?_⟩, running, next⟩
  · rw [next]
    exact before
  · simp only [next, solution, ← session.whole, session.method, session.steps, session.embedding]
  · simp only [next]
    omega

theorem wholeSteps_spec (session : Session head condition noise metadata allowed state)
    (running : state.cancelled = false) (count : Nat)
    (fits : state.nextStep.toNat + count ≤ metadata.steps.toNat) :
    Session head condition noise metadata (allowed + count) ((wholeStep head)^[count] state) ∧
      ((wholeStep head)^[count] state).cancelled = false ∧
      ((wholeStep head)^[count] state).nextStep.toNat = state.nextStep.toNat + count := by
  induction count with
  | zero => exact ⟨session, running, rfl⟩
  | succ count hypothesis =>
      obtain ⟨later, quiet, next⟩ := hypothesis (by omega)
      rw [Function.iterate_succ_apply', ← Nat.add_assoc, ← Nat.add_assoc, ← next]
      exact later.wholeStep_spec quiet (by omega)

/-- A call that may take a number of steps keeps the session. -/
theorem stepped (session : Session head condition noise metadata allowed state)
    (running : state.cancelled = false) {newer : Nat → Prop} {budget count : Nat}
    {final : SamplerState R}
    (call : Stepped head state newer
      (min budget (state.steps.toNat - state.nextStep.toNat)) count final) :
    Session head condition noise metadata (allowed + budget) final ∧
      final.nextStep.toNat = state.nextStep.toNat + count ∧
      (final.cancelled = false ↔
        ∀ look < min budget (state.steps.toNat - state.nextStep.toNat), ¬ newer look) := by
  have taken := session.taken running
  have bounded := session.bounded
  rw [session.steps] at call ⊢
  cases call with
  | done quiet =>
      obtain ⟨later, unstopped, next⟩ := session.wholeSteps_spec running
        (min budget (metadata.steps.toNat - state.nextStep.toNat)) (by omega)
      exact ⟨{ later with taken := fun _ => by omega }, next,
        fun _ => quiet, fun _ => unstopped⟩
  | cancelled _ before quiet seen =>
      obtain ⟨later, unstopped, next⟩ := session.wholeSteps_spec running count (by omega)
      exact ⟨{ later with live := rfl, taken := nofun }, next,
        nofun, fun none => absurd seen (none count before)⟩

/-- The start of a session. -/
theorem samplerBegin_spec {workspace : Nat} {begun : SamplerState R}
    (ready : samplerBegin head state condition noise metadata.steps metadata.method workspace
      metadata.generationTracking metadata.generation = (begun, true)) :
    (head.ok = true ∧ metadata.steps ≠ 0 ∧ condition.length = head.condDim ∧
        noise.length = head.actionDim) ∧
      begun.cancelled = false ∧ Session head condition noise metadata 0 begun := by
  unfold samplerBegin at ready
  split at ready
  next => exact absurd (congrArg Prod.snd ready) Bool.false_ne_true
  next valid =>
    obtain rfl : _ = begun := congrArg Prod.fst ready
    simp only [ne_eq, not_or, not_not] at valid
    obtain ⟨ok, some, condFits, noiseFits, -⟩ := valid
    exact ⟨⟨ok, some, condFits, noiseFits⟩, rfl, rfl, rfl, rfl, rfl, rfl, rfl, Nat.zero_le _, rfl,
      fun _ => (Nat.min_zero _).symm⟩

end Session

/-- The sample of one call is the solution after all the steps. -/
theorem sample_eq {condition noise : List R} {steps : UInt64} {workspace : Nat} (out : head.Output)
    (valid : head.ok = true ∧ steps ≠ 0 ∧ condition.length = head.condDim ∧
      noise.length = head.actionDim) (room : head.samplerWorkspaceSize ≤ workspace) :
    sample head condition noise steps method workspace out.val =
      solution head method steps.toNat (head.embed condition) noise steps.toNat ++
        out.val.drop head.actionDim := by
  obtain ⟨begun, ready⟩ := samplerBegin_ready {} { steps, method } valid room
  obtain ⟨-, running, session⟩ := Session.samplerBegin_spec ready
  have active : begun.active = true := by rw [session.live, running]; rfl
  obtain ⟨call, written⟩ := samplerAdvance_stepped active 0 (fun _ => 0) steps out
  have quiet (look : Nat) : ¬ begun.Newer 0 (fun _ => 0) look := by
    rintro ⟨tracking, -⟩
    rw [session.tracking] at tracking
    exact Bool.false_ne_true tracking
  obtain ⟨final, -, finished⟩ := session.stepped running call
  have reached := final.taken (finished.mpr fun look _ => quiet look)
  dsimp only at ready final reached
  rw [Nat.zero_add, Nat.min_self] at reached
  simp only [sample, ready, written, final.whole, reached]

end FlowSampler

namespace FlowEngine

open FlowSampler

/-! ## The status of the engine -/

section Status

variable {R : Type*} {head : FlowField R} {engine : FlowEngine head}

theorem flowRemainingNfe_eq :
    engine.flowRemainingNfe = requiredNfe engine.state.remaining engine.state.method.solver := by
  unfold flowRemainingNfe requiredNfe
  cases engine.state.method <;> rfl

theorem flowActionStatus_complete_iff (live : engine.state.active = !engine.state.cancelled) :
    engine.flowActionStatus = actionComplete ↔
      engine.state.remaining = 0 ∧ engine.state.cancelled = false := by
  unfold flowActionStatus
  cases cancelled : engine.state.cancelled with
  | true => simp [actionCancelled, actionComplete]
  | false =>
      rw [cancelled] at live
      by_cases finished : engine.state.remaining = 0
      · simp [live, finished]
      · simp [live, finished, actionRunning, actionComplete]

/-- What a begin that passes the checks of the engine leaves. -/
def raised (engine : FlowEngine head) (metadata : FlowRequestMetadata) : FlowEngine head :=
  if metadata.generationTracking then
    cancelBefore { engine with flowRequest := metadata } metadata.generation
  else { engine with flowRequest := metadata }

theorem flowBeginRequest_eq {condition noise : List R} {metadata : FlowRequestMetadata}
    (ok : head.ok = true) (room : engine.workspace ≠ 0) :
    engine.flowBeginRequest condition noise metadata =
      let begun := samplerBegin head (engine.raised metadata).state condition noise metadata.steps
        metadata.method (engine.raised metadata).workspace metadata.generationTracking
        metadata.generation
      if ¬ begun.2 then
        ({ engine.raised metadata with state := begun.1 },
          { code := 2, error := "Failed to initialize resumable flow sampler" })
      else ({ engine.raised metadata with state := begun.1 }, {}) := by
  rw [flowBeginRequest, if_neg (not_not.mpr ok), if_neg room]
  rfl

end Status

variable {R : Type*} [Add R] [Mul R] [Div R] [NatCast R] [OfScientific R] {head : FlowField R}

/-! ## The calls of the engine -/

variable {engine : FlowEngine head}

theorem flowAdvance_running (running : engine.state.cancelled = false)
    (active : engine.state.active = true) (stepBudget : UInt64) (raises : Nat → UInt64)
    (action : head.Output) :
    let advanced := samplerAdvance head engine.state engine.latestGeneration raises stepBudget
      action.val
    let answer := engine.flowAdvance stepBudget raises action
    answer.engine.state = advanced.state ∧ answer.action = advanced.out ∧
      answer.stepsRemaining = some advanced.state.remaining ∧
      answer.status.code = if advanced.state.cancelled then 8 else 0 := by
  have going : ¬ engine.state.cancelled = true := by rw [running]; exact Bool.false_ne_true
  rw [flowAdvance, if_neg going, if_neg (not_not.mpr active)]
  refine ⟨rfl, rfl, rfl, ?_⟩
  dsimp only
  split <;> rfl

theorem call_of_cancelled (cancelled : engine.state.cancelled = true) (request : Call head) :
    (engine.call request).state = engine.state := by
  cases request with
  | advance => simp only [call, flowAdvance, cancelled, if_true]
  | cancel => rfl

/-- No call moves a solve that was cancelled. -/
theorem run_of_cancelled (cancelled : engine.state.cancelled = true) (calls : List (Call head)) :
    (engine.run calls).state = engine.state := by
  induction calls generalizing engine with
  | nil => rfl
  | cons request calls hypothesis =>
      have same := call_of_cancelled cancelled request
      exact (hypothesis (by rw [same]; exact cancelled)).trans same

section Runs

variable {condition noise : List R} {metadata : FlowRequestMetadata} {engine : FlowEngine head}

/-- A successful begin starts a session. -/
theorem flowBeginRequest_spec
    (begun : (engine.flowBeginRequest condition noise metadata).2.code = 0) :
    (head.ok = true ∧ metadata.steps ≠ 0 ∧ condition.length = head.condDim ∧
        noise.length = head.actionDim) ∧
      (engine.flowBeginRequest condition noise metadata).1 =
        { engine.raised metadata with
          state := (engine.flowBeginRequest condition noise metadata).1.state } ∧
      (engine.flowBeginRequest condition noise metadata).1.state.cancelled = false ∧
      Session head condition noise metadata 0
        (engine.flowBeginRequest condition noise metadata).1.state := by
  by_cases ok : head.ok = true
  · by_cases vacant : engine.workspace = 0
    · simp [flowBeginRequest, ok, vacant] at begun
    · rw [flowBeginRequest_eq ok vacant] at begun ⊢
      rcases ready : samplerBegin head (engine.raised metadata).state condition noise
        metadata.steps metadata.method (engine.raised metadata).workspace
        metadata.generationTracking metadata.generation with ⟨state, done⟩
      cases done with
      | false => simp [ready] at begun
      | true =>
          obtain ⟨valid, running, session⟩ := Session.samplerBegin_spec ready
          exact ⟨valid, by simp, by simpa [ready] using running,
            by simpa [ready] using session⟩
  · simp [flowBeginRequest, ok] at begun

/-- One call keeps the session. -/
theorem session_call {allowed : Nat}
    (session : Session head condition noise metadata allowed engine.state) (request : Call head) :
    Session head condition noise metadata (allowed + request.budget)
      (engine.call request).state := by
  cases request with
  | cancel => exact session
  | advance stepBudget raises action =>
      cases running : engine.state.cancelled with
      | true =>
          rw [call_of_cancelled running]
          exact { session with taken := fun quiet => absurd (running.symm.trans quiet) (by decide) }
      | false =>
          have active : engine.state.active = true := by rw [session.live, running]; rfl
          obtain ⟨stepped, -⟩ := samplerAdvance_stepped active engine.latestGeneration raises
            stepBudget action
          obtain ⟨same, -⟩ := flowAdvance_running running active stepBudget raises action
          rw [call, same]
          exact (session.stepped running stepped).1

theorem session_run {allowed : Nat}
    (session : Session head condition noise metadata allowed engine.state)
    (calls : List (Call head)) :
    Session head condition noise metadata (allowed + (calls.map Call.budget).sum)
      (engine.run calls).state := by
  induction calls generalizing engine allowed with
  | nil => exact session
  | cons request calls hypothesis =>
      rw [List.map_cons, List.sum_cons, ← Nat.add_assoc]
      exact hypothesis (session_call session request)

end Runs

/-! ## What a session shows -/

/-- What an advance of a solve that was not cancelled does: it stops for good before the first step
at which it sees a newer generation and takes all its steps where it sees none. -/
structure AdvanceShows (engine : FlowEngine head) (stepBudget : UInt64) (raises : Nat → UInt64)
    (action : head.Output) (answer : Answer head) : Prop where
  stops : ∀ count < min stepBudget.toNat engine.state.remaining.toNat,
    engine.state.Newer engine.latestGeneration raises count →
    (∀ look < count, ¬ engine.state.Newer engine.latestGeneration raises look) →
    answer.engine.state.cancelled = true ∧
      answer.engine.state.nextStep.toNat = engine.state.nextStep.toNat + count ∧
      answer.status.code = 8
  goes : (∀ look < min stepBudget.toNat engine.state.remaining.toNat,
      ¬ engine.state.Newer engine.latestGeneration raises look) →
    answer.engine.state.cancelled = false ∧
      answer.engine.state.nextStep.toNat =
        engine.state.nextStep.toNat + min stepBudget.toNat engine.state.remaining.toNat ∧
      answer.status.code = 0
  completed : answer.engine.state.nextStep.toNat = engine.state.nextStep.toNat +
    (samplerAdvance head engine.state engine.latestGeneration raises stepBudget
      action.val).completed
  writes : answer.action = answer.engine.state.x ++ action.val.drop head.actionDim
  remaining : answer.stepsRemaining = some answer.engine.state.remaining

/-- What holds of the engine in a solve that was given a number of steps so far. -/
structure ResumesSample (condition noise : List R) (metadata : FlowRequestMetadata)
    (allowed : Nat) (engine : FlowEngine head) : Prop where
  whole : engine.state.x = solution head metadata.method metadata.steps.toNat
    (head.embed condition) noise engine.state.nextStep.toNat
  fits : engine.state.x.length = head.actionDim
  taken : engine.state.cancelled = false →
    engine.state.nextStep.toNat = min metadata.steps.toNat allowed
  samples : engine.state.cancelled = false → metadata.steps.toNat ≤ allowed →
    ∀ workspace, head.samplerWorkspaceSize ≤ workspace → ∀ out : head.Output,
      sample head condition noise metadata.steps metadata.method workspace out.val =
        engine.state.x ++ out.val.drop head.actionDim
  advances : engine.state.cancelled = false → ∀ stepBudget raises action,
    engine.AdvanceShows stepBudget raises action (engine.flowAdvance stepBudget raises action)
  stays : engine.state.cancelled = true → ∀ later, (engine.run later).state = engine.state
  nfe : engine.flowRemainingNfe = requiredNfe engine.state.remaining metadata.method.solver
  status : engine.flowActionStatus = actionComplete ↔
    engine.state.remaining = 0 ∧ engine.state.cancelled = false

theorem advanceShows_of_session {condition noise : List R} {metadata : FlowRequestMetadata}
    {allowed : Nat} (session : Session head condition noise metadata allowed engine.state)
    (running : engine.state.cancelled = false) (stepBudget : UInt64) (raises : Nat → UInt64)
    (action : head.Output) :
    engine.AdvanceShows stepBudget raises action (engine.flowAdvance stepBudget raises action) := by
  have active : engine.state.active = true := by rw [session.live, running]; rfl
  obtain ⟨stepped, out⟩ := samplerAdvance_stepped active engine.latestGeneration raises
    stepBudget action
  obtain ⟨same, written, left, code⟩ :=
    flowAdvance_running running active stepBudget raises action
  obtain ⟨-, next, quiet⟩ := session.stepped running stepped
  rw [← SamplerState.toNat_remaining] at stepped quiet
  rw [← same] at next quiet code left
  refine ⟨fun count before seen first => ?_, fun none => ?_, next, ?_, left⟩
  · have stopped : (engine.flowAdvance stepBudget raises action).engine.state.cancelled = true := by
      rw [← Bool.not_eq_false, quiet]
      exact fun none => none count before seen
    rw [stepped.count_eq_of_first before seen first] at next
    rw [stopped] at code
    exact ⟨stopped, next, code⟩
  · rw [stepped.count_eq_of_quiet none] at next
    rw [quiet.mpr none] at code
    exact ⟨quiet.mpr none, next, code⟩
  · rw [written, out, same]

/-- **Resumable sampling.** However a solve is cut into calls, it computes the sample of one
call. -/
theorem run_resumes_sample (engine : FlowEngine head) (condition noise : List R)
    (metadata : FlowRequestMetadata)
    (begun : (engine.flowBeginRequest condition noise metadata).2.code = 0)
    (calls : List (Call head)) :
    ResumesSample condition noise metadata (calls.map Call.budget).sum
      ((engine.flowBeginRequest condition noise metadata).1.run calls) := by
  obtain ⟨valid, -, -, start⟩ := flowBeginRequest_spec begun
  have session := session_run start calls
  rw [Nat.zero_add] at session
  refine
    { whole := session.whole
      fits := by rw [session.whole]; exact length_solution head valid.2.2.2 _
      taken := session.taken
      samples := fun running enough workspace room out => ?_
      advances := fun running => advanceShows_of_session session running
      stays := run_of_cancelled
      nfe := by rw [flowRemainingNfe_eq, session.method]
      status := flowActionStatus_complete_iff session.live }
  rw [sample_eq out valid room, session.whole, session.taken running, Nat.min_eq_left enough]

/-- A head of one action that moves by the time of each step. -/
private def driftHead : FlowField ℚ where
  ok := true
  condDim := 1
  actionDim := 1
  hidden := 1
  embed := id
  velocity := fun _ t _ => [t]
  velocity_length := fun _ _ _ => rfl

private def driftRequest : FlowRequestMetadata :=
  { steps := 3, method := .rk4, generation := 5, generationTracking := true }

private def driftCalls : List (Call driftHead) :=
  [.advance 0 (fun _ => 0) ⟨[0], le_rfl⟩, .advance 2 (fun _ => 4) ⟨[0, 0], by decide⟩, .cancel 3,
    .advance 7 (fun _ => 5) ⟨[0], le_rfl⟩]

theorem run_resumes_sample_drift :
    ((⟨7, {}, 2, {}⟩ : FlowEngine driftHead).flowBeginRequest [1] [0] driftRequest).2.code = 0 ∧
      ResumesSample [1] [0] driftRequest (driftCalls.map Call.budget).sum
        (((⟨7, {}, 2, {}⟩ : FlowEngine driftHead).flowBeginRequest [1] [0] driftRequest).1.run
          driftCalls) :=
  ⟨by decide, run_resumes_sample ⟨7, {}, 2, {}⟩ [1] [0] driftRequest (by decide) driftCalls⟩

end FlowEngine

end FlowEdge
