import FlowEdge.Protocol.Floats

/-!
# Asynchronous rollout

One action is delivered per tick of a periodic loop, from a queue of the rows of a predicted chunk.
At most one prediction runs beside the loop. Its chunk replaces the queue when it is done, without
the rows whose ticks have passed by then. What the robot, the selector, the clock and the worker do
in a tick is an input of the tick. `predict` is a function of its three arguments: no two calls of a
rollout share the last one, so this leaves every behaviour open.
-/

namespace FlowEdge.AsyncRollout

/-- An array of `np.float32`. -/
structure FloatArray where
  shape : List Nat
  values : List FloatValue
  sized : values.length = shape.prod

/-- The arrays along the first axis, as their values. -/
def FloatArray.rows (array : FloatArray) : List (List FloatValue) :=
  (List.range (array.shape.headD 0)).map fun row =>
    (array.values.drop (row * array.shape.tail.prod)).take array.shape.tail.prod

/-- The exceptions of the rollout, with their texts. -/
inductive RolloutError where
  /-- `invalid rollout or horizon bounds` -/
  | invalidBounds
  /-- `invalid control period or refill threshold` -/
  | invalidPeriod
  /-- `predict must return a finite, complete executable action chunk` -/
  | incompleteChunk
  /-- `action dimension changed during rollout` -/
  | dimensionChanged
  /-- `fallback must return a finite action of the configured shape` -/
  | invalidFallback
  /-- An exception of the application's own. -/
  | application
  deriving DecidableEq

def maxRolloutSteps : Nat := 100000

/-- The arguments of a rollout. -/
structure Rollout (Observation Plan : Type) where
  steps : Nat
  actionSteps : Nat
  observationSteps : Nat
  periodMs : FloatValue
  refillThreshold : FloatValue
  seed : Nat
  fixedPlan : Plan
  /-- `plan["id"]` -/
  planId : Plan → Nat
  hasSelector : Bool
  /-- The prediction from a history with a plan and a seed; nothing when it raises. -/
  predict : List Observation → Plan → Nat → Option FloatArray
  /-- `int(count * factor)`, with the rounding of the product. -/
  scaled : Nat → FloatValue → Nat

/-- What happens before the first tick. -/
structure BootInput (Observation : Type) where
  first : Observation
  observationNs : Nat
  startedNs : Nat
  finishedNs : Nat
  startNs : Nat
  /-- A call of the robot or of the selector raises. -/
  raises : Bool

/-- The call of the application that raises in a tick. -/
inductive Fault where
  | observe
  | selectorObserve
  | sendAction
  | select
  deriving DecidableEq

/-- What happens in a tick. -/
structure TickInput (Observation Plan : Type) where
  observation : Observation
  observationNs : Nat
  /-- `pending.done()` -/
  done : Bool
  finishedNs : Nat
  popNs : Nat
  /-- The value of `fallback(observation)`; nothing when it raises. -/
  fallback : Option FloatArray
  deliveryNs : Nat
  checkNs : Nat
  robotDone : Bool
  /-- What the selector selects. -/
  selected : Option Plan
  dispatchNs : Nat
  fault : Option Fault

/-- A queued action with the time and the tick of the observation that it was predicted from. -/
structure Entry where
  action : List FloatValue
  sourceNs : Nat
  tick : Nat

/-- A prediction that was asked for. -/
structure Pending (Observation Plan : Type) where
  frames : List Observation
  plan : Plan
  seed : Nat
  tick : Nat
  observationNs : Nat
  dispatchedNs : Nat

/-- A collected prediction. -/
structure Inference (Observation Plan : Type) where
  request : Pending Observation Plan
  chunk : FloatArray

/-- A delivered action. Its source is the tick of the observation it was predicted from, or nothing
for a fallback. -/
structure Sent where
  tick : Nat
  action : List FloatValue
  source : Option Nat

/-- The local variables of the loop. The collected predictions and the delivered actions are kept
beside them. -/
structure LoopState (Observation Plan : Type) where
  shape : List Nat
  startNs : Nat
  history : List Observation
  actions : List Entry
  pending : Option (Pending Observation Plan)
  latencies : List Nat
  deliveryTimes : List Nat
  ages : List Int
  planIds : List Nat
  misses : Nat
  underruns : Nat
  rejected : Nat
  dropped : Nat
  calls : Nat
  completed : Nat
  inferences : List (Inference Observation Plan)
  sent : List Sent

variable {Observation Plan : Type}

/-- `deque.extend` of a deque with a maximal length: the oldest items leave. -/
def extendDeque {α : Type} (maxlen : Nat) (items added : List α) : List α :=
  (items ++ added).drop ((items ++ added).length - maxlen)

/-- The rows of a chunk as queued actions. -/
def Inference.entries (inference : Inference Observation Plan) : List Entry :=
  inference.chunk.rows.map fun row =>
    ⟨row, inference.request.observationNs, inference.request.tick⟩

namespace Rollout

variable (rollout : Rollout Observation Plan)

def periodNs : Nat := max 1 (rollout.scaled 1000000 rollout.periodMs)

/-- One prediction, and the checks of its chunk. -/
def infer (frames : List Observation) (plan : Plan) (seed : Nat) :
    Except RolloutError FloatArray :=
  match rollout.predict frames plan seed with
  | none => .error .application
  | some chunk =>
      if chunk.shape.length ≠ 2 ∨ chunk.shape.headD 0 ≠ rollout.actionSteps ∨
          ¬ chunk.values.all FloatValue.isFinite then
        .error .incompleteChunk
      else .ok chunk

/-- The request of the bootstrap. -/
def firstRequest (input : BootInput Observation) : Pending Observation Plan where
  frames := List.replicate rollout.observationSteps input.first
  plan := rollout.fixedPlan
  seed := rollout.seed
  tick := 0
  observationNs := input.observationNs
  dispatchedNs := input.startedNs

/-- The bootstrap: the first prediction fills the queue before the first tick. -/
def boot (input : BootInput Observation) :
    Except RolloutError (LoopState Observation Plan) :=
  if ¬ (0 < rollout.steps ∧ rollout.steps ≤ maxRolloutSteps) ∨ rollout.actionSteps = 0 ∨
      rollout.observationSteps = 0 then
    .error .invalidBounds
  else if ¬ rollout.periodMs.isFinite ∨ rollout.periodMs.toRat ≤ 0 ∨
      ¬ (FloatValue.lt (.finite 0) rollout.refillThreshold ∧
        ¬ FloatValue.lt (.finite 1) rollout.refillThreshold) then
    .error .invalidPeriod
  else if input.raises then .error .application
  else
    let request := rollout.firstRequest input
    match rollout.infer request.frames request.plan request.seed with
    | .error error => .error error
    | .ok chunk =>
        .ok
          { shape := chunk.shape.tail
            startNs := input.startNs
            history := request.frames
            actions :=
              extendDeque rollout.actionSteps [] (Inference.entries ⟨request, chunk⟩)
            pending := none
            latencies := [max 1 (input.finishedNs - input.startedNs)]
            deliveryTimes := []
            ages := []
            planIds := [rollout.planId rollout.fixedPlan]
            misses := 0
            underruns := 0
            rejected := 0
            dropped := 0
            calls := 1
            completed := 0
            inferences := [⟨request, chunk⟩]
            sent := [] }

/-- Take over a chunk at a tick: its rows behind the elapsed ones replace the queue, and a chunk
without such rows is dropped. -/
def align (tick : Nat) (state : LoopState Observation Plan)
    (inference : Inference Observation Plan) : LoopState Observation Plan :=
  let elapsedActions := tick - inference.request.tick
  if elapsedActions < rollout.actionSteps then
    { state with
      actions := extendDeque rollout.actionSteps [] (inference.entries.drop elapsedActions) }
  else { state with dropped := state.dropped + 1 }

/-- `history.append(observation)` -/
def observe (state : LoopState Observation Plan) (observation : Observation) :
    LoopState Observation Plan :=
  { state with history := extendDeque rollout.observationSteps state.history [observation] }

/-- The first part of a tick: observe, and collect the prediction if it is done. -/
def collect (tick : Nat) (state : LoopState Observation Plan)
    (input : TickInput Observation Plan) :
    Except RolloutError (LoopState Observation Plan) :=
  if input.fault = some .observe then .error .application
  else
    let observed := rollout.observe state input.observation
    match state.pending with
    | none => .ok observed
    | some request =>
        if input.done then
          match rollout.infer request.frames request.plan request.seed with
          | .error error => .error error
          | .ok chunk =>
              if chunk.shape.tail ≠ state.shape then .error .dimensionChanged
              else if rollout.hasSelector ∧ input.fault = some .selectorObserve then
                .error .application
              else
                let aligned := rollout.align tick observed ⟨request, chunk⟩
                .ok
                  { aligned with
                    latencies :=
                      state.latencies ++ [max 1 (input.finishedNs - request.dispatchedNs)]
                    pending := none
                    inferences := state.inferences ++ [⟨request, chunk⟩] }
        else .ok observed

/-- Send the action of a tick. -/
def send (tick : Nat) (state : LoopState Observation Plan) (input : TickInput Observation Plan)
    (action : List FloatValue) (source : Option Nat) :
    Except RolloutError (LoopState Observation Plan) :=
  if input.fault = some .sendAction then .error .application
  else
    let target := state.startNs + tick * rollout.periodNs
    .ok
      { state with
        sent := state.sent ++ [⟨tick, action, source⟩]
        deliveryTimes := state.deliveryTimes ++ [input.deliveryNs]
        completed := state.completed + 1
        misses := state.misses + if input.checkNs > target + rollout.periodNs then 1 else 0 }

/-- The second part of a tick: deliver the oldest queued action, or the fallback. -/
def deliver (tick : Nat) (state : LoopState Observation Plan)
    (input : TickInput Observation Plan) :
    Except RolloutError (LoopState Observation Plan) :=
  match state.actions with
  | entry :: actions =>
      rollout.send tick
        { state with
          actions := actions
          ages := state.ages ++ [(input.popNs : Int) - entry.sourceNs] }
        input entry.action (some entry.tick)
  | [] =>
      match input.fallback with
      | none => .error .application
      | some action =>
          if action.shape ≠ state.shape ∨ ¬ action.values.all FloatValue.isFinite then
            .error .invalidFallback
          else
            rollout.send tick { state with underruns := state.underruns + 1 } input action.values
              none

/-- The third part of a tick: ask for a prediction when none is pending and the queue is low. -/
def refill (tick : Nat) (state : LoopState Observation Plan)
    (input : TickInput Observation Plan) :
    Except RolloutError (LoopState Observation Plan) :=
  if state.pending.isNone ∧
      state.actions.length ≤ rollout.scaled rollout.actionSteps rollout.refillThreshold then
    if rollout.hasSelector ∧ input.fault = some .select then .error .application
    else
      match (if rollout.hasSelector then input.selected else some rollout.fixedPlan) with
      | none => .ok { state with rejected := state.rejected + 1 }
      | some plan =>
          .ok
            { state with
              pending := some
                { frames := state.history
                  plan := plan
                  seed := rollout.seed + state.calls
                  tick := tick
                  observationNs := input.observationNs
                  dispatchedNs := input.dispatchNs }
              calls := state.calls + 1
              planIds := state.planIds ++ [rollout.planId plan] }
  else .ok state

end Rollout

/-- The loop goes on, the robot is done, or an exception has ended it. -/
inductive Phase where
  | running
  | stopped
  | raised (error : RolloutError)
  deriving DecidableEq

structure Run (Observation Plan : Type) where
  state : LoopState Observation Plan
  phase : Phase

/-- What a rollout reports. The source reduces the recorded times to percentiles. -/
structure Report where
  steps : Nat
  missedDeadlines : Nat
  queueUnderruns : Nat
  rejectedPlans : Nat
  droppedChunks : Nat
  inferenceCalls : Nat
  latencies : List Nat
  deliveryTimes : List Nat
  ages : List Int
  planIds : List Nat

/-- The report of a rollout. -/
def LoopState.report (state : LoopState Observation Plan) : Report where
  steps := state.completed
  missedDeadlines := state.misses
  queueUnderruns := state.underruns
  rejectedPlans := state.rejected
  droppedChunks := state.dropped
  inferenceCalls := state.calls
  latencies := state.latencies
  deliveryTimes := state.deliveryTimes
  ages := state.ages
  planIds := state.planIds

namespace Rollout

variable (rollout : Rollout Observation Plan)

/-- One tick of the loop. -/
def step (tick : Nat) (run : Run Observation Plan) (input : TickInput Observation Plan) :
    Run Observation Plan :=
  if run.phase ≠ .running then run
  else
    match rollout.collect tick run.state input with
    | .error error => ⟨run.state, .raised error⟩
    | .ok collected =>
        match rollout.deliver tick collected input with
        | .error error => ⟨collected, .raised error⟩
        | .ok delivered =>
            if input.robotDone then ⟨delivered, .stopped⟩
            else
              match rollout.refill tick delivered input with
              | .error error => ⟨delivered, .raised error⟩
              | .ok refilled => ⟨refilled, .running⟩

/-- The loop behind its first ticks. -/
def ticks (inputs : Nat → TickInput Observation Plan) (start : LoopState Observation Plan) :
    Nat → Run Observation Plan
  | 0 => ⟨start, .running⟩
  | tick + 1 => rollout.step tick (ticks inputs start tick) (inputs tick)

/-- The end of the loop: a prediction that is still in flight must not have failed. -/
def finish (run : Run Observation Plan) (cancelled : Bool) : Except RolloutError Report :=
  match run.phase with
  | .raised error => .error error
  | _ =>
      match run.state.pending with
      | none => .ok (run.state.report)
      | some request =>
          if cancelled then .ok (run.state.report)
          else
            match rollout.infer request.frames request.plan request.seed with
            | .error error => .error error
            | .ok _ => .ok (run.state.report)

end Rollout

end FlowEdge.AsyncRollout
