import FlowEdge.Heads.Flow
import FlowEdge.Protocol.Messages

/-!
# The resumable sampler of the flow head

The solver of the flow head and the calls of the engine that begin, advance and cancel a solve.
The velocity and the embedding of the condition are any functions, and so are the operations on
numbers: they need not be exact. Another thread may raise the latest generation at any time; what
it raises it to before each look of the solver is part of a call.
-/

namespace FlowEdge

open Words

/-- `FE_SOLVER_*`, the number of a method. -/
def FlowMethod.solver : FlowMethod → UInt32
  | .euler => 0
  | .heun => 1
  | .rk4 => 2

/-- What a flow head computes with. -/
structure FlowField (R : Type*) where
  ok : Bool
  condDim : Nat
  actionDim : Nat
  hidden : Nat
  /-- `cond_proj` -/
  embed : List R → List R
  velocity : List R → R → List R → List R
  velocity_length : ∀ x t embedding, (velocity x t embedding).length = actionDim

namespace FlowField

variable {R : Type*}

def samplerWorkspaceSize (head : FlowField R) : Nat := head.hidden + 6 * head.actionDim

/-- An array with room for an action. -/
abbrev Output (head : FlowField R) := { out : List R // head.actionDim ≤ out.length }

end FlowField

structure SamplerState (R : Type*) where
  conditionEmbedding : List R := []
  x : List R := []
  k1 : List R := []
  k2 : List R := []
  k3 : List R := []
  k4 : List R := []
  probe : List R := []
  steps : UInt64 := 0
  nextStep : UInt64 := 0
  method : FlowMethod := .euler
  /-- There is a latest generation to look at. -/
  tracking : Bool := false
  generation : UInt64 := 0
  active : Bool := false
  cancelled : Bool := false

namespace SamplerState

variable {R : Type*}

def remaining (state : SamplerState R) : UInt64 :=
  if state.nextStep < state.steps then state.steps - state.nextStep else 0

end SamplerState

namespace FlowSampler

section Solver

variable {R : Type*} [Add R] [Mul R] [Div R] [NatCast R] [OfScientific R]

def addScaled (x dx : List R) (scale : R) : List R := List.zipWith (fun x d => x + scale * d) x dx

def scaledSum (x dx : List R) (scale : R) : List R := List.zipWith (fun x d => x + scale * d) x dx

def addHeun (x k1 k2 : List R) (dt : R) : List R :=
  List.zipWith (fun x k => x + 0.5 * dt * k) x (List.zipWith (· + ·) k1 k2)

def addRk4 (x k1 k2 k3 k4 : List R) (dt : R) : List R :=
  List.zipWith (fun x k => x + dt / 6.0 * k) x
    (List.zipWith (· + ·)
      (List.zipWith (· + ·) (List.zipWith (fun k1 k2 => k1 + 2.0 * k2) k1 k2)
        (k3.map (2.0 * ·))) k4)

variable (head : FlowField R)

/-- One step of the solver. -/
def solverStep (state : SamplerState R) : SamplerState R :=
  let dt : R := 1.0 / (state.steps.toNat : R)
  let t : R := (state.nextStep.toNat : R) * dt
  let k1 := head.velocity state.x t state.conditionEmbedding
  match state.method with
  | .euler => { state with k1, x := addScaled state.x k1 dt }
  | .heun =>
      let probe := scaledSum state.x k1 dt
      let k2 := head.velocity probe (t + dt) state.conditionEmbedding
      { state with k1, k2, probe, x := addHeun state.x k1 k2 dt }
  | .rk4 =>
      let halfDt : R := 0.5 * dt
      let probe := scaledSum state.x k1 halfDt
      let k2 := head.velocity probe (t + halfDt) state.conditionEmbedding
      let probe := scaledSum state.x k2 halfDt
      let k3 := head.velocity probe (t + halfDt) state.conditionEmbedding
      let probe := scaledSum state.x k3 dt
      let k4 := head.velocity probe (t + dt) state.conditionEmbedding
      { state with k1, k2, k3, k4, probe, x := addRk4 state.x k1 k2 k3 k4 dt }

/-- A solve that is under way: the sampler, the latest generation and the steps that a call has
completed. -/
structure Progress (R : Type*) where
  state : SamplerState R
  latest : UInt64
  completed : Nat := 0

/-- The loop of `sampler_advance`, for a number of rounds. Before each round another thread may
raise the latest generation. -/
def advanceSteps (raises : Nat → UInt64) : Nat → Progress R → Progress R
  | 0, progress => progress
  | rounds + 1, progress =>
      let latest := wordMax progress.latest (raises progress.completed)
      if progress.state.tracking ∧ latest > progress.state.generation then
        { progress with
          latest
          state := { progress.state with cancelled := true, active := false } }
      else
        let stepped := solverStep head progress.state
        advanceSteps raises rounds
          { state := { stepped with nextStep := stepped.nextStep + 1 }
            latest
            completed := progress.completed + 1 }

/-- What `sampler_advance` leaves: the sampler, the latest generation, the completed steps and the
output. -/
structure Advanced (R : Type*) extends Progress R where
  out : List R

/-- `sampler_advance`: as many steps as the budget and the solve allow. -/
def samplerAdvance (state : SamplerState R) (latest : UInt64) (raises : Nat → UInt64)
    (stepBudget : UInt64) (out : List R) : Advanced R :=
  if ¬ state.active ∨ out.length < head.actionDim then { state, latest, out }
  else
    let todo := min stepBudget state.remaining
    let progress := advanceSteps head raises todo.toNat { state, latest }
    { toProgress := progress, out := progress.state.x ++ out.drop head.actionDim }

end Solver

section Calls

variable {R : Type*} (head : FlowField R)

/-- `sampler_begin`, for a workspace of the given size. -/
def samplerBegin (state : SamplerState R) (cond x0 : List R) (steps : UInt64) (method : FlowMethod)
    (workspace : Nat) (tracking : Bool) (generation : UInt64) : SamplerState R × Bool :=
  let state := { state with active := false, cancelled := false }
  if ¬ head.ok ∨ steps = 0 ∨ cond.length ≠ head.condDim ∨ x0.length ≠ head.actionDim ∨
      workspace < head.samplerWorkspaceSize then
    (state, false)
  else
    ({ state with
        steps, nextStep := 0, method, tracking, generation, active := true, x := x0,
        conditionEmbedding := head.embed cond }, true)

variable [Add R] [Mul R] [Div R] [NatCast R] [OfScientific R]

/-- `FlowHead::sample`, with a workspace of the given size from the arena. -/
def sample (cond x0 : List R) (steps : UInt64) (method : FlowMethod) (workspace : Nat)
    (out : List R) : List R :=
  match samplerBegin head {} cond x0 steps method workspace false 0 with
  | (_, false) => out
  | (state, true) => (samplerAdvance head state 0 (fun _ => 0) steps out).out

end Calls

end FlowSampler

/-! ## The engine -/

structure FlowRequestMetadata where
  timestampNs : UInt64 := 0
  deadlineNs : UInt64 := 0
  generation : UInt64 := 0
  steps : UInt64 := 0
  method : FlowMethod := .euler
  generationTracking : Bool := false

/-- The part of the engine that its flow calls use. -/
structure FlowEngine {R : Type*} (head : FlowField R) where
  workspace : Nat
  state : SamplerState R := {}
  latestGeneration : UInt64 := 0
  flowRequest : FlowRequestMetadata := {}

/-- The return code and the error of a call. -/
structure FlowStatus where
  code : Nat := 0
  error : String := ""
  deriving DecidableEq

namespace FlowEngine

open FlowSampler

section State

variable {R : Type*} {head : FlowField R} (engine : FlowEngine head)

def flowActionStatus : UInt32 :=
  if engine.state.cancelled then actionCancelled
  else if ¬ engine.state.active then actionFailed
  else if engine.state.remaining = 0 then actionComplete
  else actionRunning

def flowRemainingNfe : UInt64 :=
  let evaluations : UInt64 :=
    match engine.state.method with
    | .rk4 => 4
    | .heun => 2
    | .euler => 1
  let remaining := engine.state.remaining
  if remaining > maxWord / evaluations then maxWord else remaining * evaluations

def cancelBefore (generation : UInt64) : FlowEngine head :=
  { engine with latestGeneration := wordMax engine.latestGeneration generation }

/-- `flow_begin_request`: check the request and start the solve. -/
def flowBeginRequest (condition noise : List R) (metadata : FlowRequestMetadata) :
    FlowEngine head × FlowStatus :=
  if ¬ head.ok then
    (engine, { code := 4, error := "Model has no flow head to sample from" })
  else if engine.workspace = 0 then
    (engine, { code := 2, error := "Flow sampler workspace is unavailable" })
  else
    let engine : FlowEngine head := { engine with flowRequest := metadata }
    let engine : FlowEngine head :=
      if metadata.generationTracking then engine.cancelBefore metadata.generation else engine
    let begun := samplerBegin head engine.state condition noise metadata.steps
      metadata.method engine.workspace metadata.generationTracking metadata.generation
    let engine : FlowEngine head := { engine with state := begun.1 }
    if ¬ begun.2 then
      (engine, { code := 2, error := "Failed to initialize resumable flow sampler" })
    else (engine, {})

end State

section Advance

variable {R : Type*} [Add R] [Mul R] [Div R] [NatCast R] [OfScientific R] {head : FlowField R}

/-- What `flow_advance` leaves: the engine, the action, the steps that remain where it writes them
and the status. -/
structure Answer (head : FlowField R) where
  engine : FlowEngine head
  action : List R
  stepsRemaining : Option UInt64
  status : FlowStatus

/-- `flow_advance`: go on with the solve that was begun. -/
def flowAdvance (engine : FlowEngine head) (stepBudget : UInt64) (raises : Nat → UInt64)
    (action : head.Output) : Answer head :=
  if engine.state.cancelled then
    { engine, action, stepsRemaining := some engine.state.remaining
      status := { code := 8, error := "Flow solve was cancelled by a newer generation" } }
  else if ¬ engine.state.active then
    { engine, action, stepsRemaining := none
      status := { code := 6, error := "No resumable flow sample is active" } }
  else
    let advanced := samplerAdvance head engine.state engine.latestGeneration raises
      stepBudget action
    { engine := { engine with state := advanced.state, latestGeneration := advanced.latest }
      action := advanced.out
      stepsRemaining := some advanced.state.remaining
      status :=
        if advanced.state.cancelled then
          { code := 8, error := "Flow solve was cancelled by a newer generation" }
        else {} }

/-- The calls of a solve that has begun. -/
inductive Call (head : FlowField R) where
  | advance (stepBudget : UInt64) (raises : Nat → UInt64) (action : head.Output)
  | cancel (generation : UInt64)

/-- The steps that a call allows. -/
def Call.budget : Call head → Nat
  | .advance stepBudget _ _ => stepBudget.toNat
  | .cancel _ => 0

def call (engine : FlowEngine head) : Call head → FlowEngine head
  | .advance stepBudget raises action => (engine.flowAdvance stepBudget raises action).engine
  | .cancel generation => engine.cancelBefore generation

def run (engine : FlowEngine head) (calls : List (Call head)) : FlowEngine head :=
  calls.foldl call engine

end Advance

end FlowEngine

end FlowEdge
