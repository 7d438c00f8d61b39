import FlowEdge.Models.Tensors
import FlowEdge.Runtime.Scratch

/-!
# The flow head

The constructor of the flow head on the CPU and the memory that its sampler takes.
-/

namespace FlowEdge

structure FlowConfig where
  actionDim : UInt64
  condDim : UInt64
  hidden : UInt64
  timeDim : UInt64
  mlpLayers : Nat := 0
  deriving DecidableEq

inductive FlowMethod where
  | euler
  | heun
  | rk4
  deriving DecidableEq

namespace FlowHead

def kMaxMlp : Nat := 8

/-- The loop of the constructor over the inner layers, which gives their number. -/
def countLayers (tensors : List ModelTensor) (hidden : UInt64) : Nat → Nat → Option Nat
  | 0, index => some index
  | more + 1, index =>
      match findTensor tensors (.flowLayer index) with
      | none => some index
      | some layer =>
          if isMatrixWeight (some layer) hidden hidden then
            countLayers tensors hidden more (index + 1)
          else none

/-- The configuration that the shapes give. -/
def config (tensors : List ModelTensor) : Option FlowConfig := do
  let input ← findTensor tensors .flowIn
  let time ← findTensor tensors .flowTime
  let cond ← findTensor tensors .flowCond
  let output ← findTensor tensors .flowOut
  let cfg : FlowConfig :=
    { hidden := input.dim 0, actionDim := input.dim 1, timeDim := time.dim 1
      condDim := cond.dim 1 }
  if cfg.hidden = 0 ∨ cfg.actionDim = 0 ∨ cfg.timeDim = 0 ∨ cfg.condDim = 0 ∨
      cfg.timeDim % 2 ≠ 0 ∨ ¬ isMatrixWeight (some input) cfg.hidden cfg.actionDim ∨
      ¬ isMatrixWeight (some time) cfg.hidden cfg.timeDim ∨
      ¬ isMatrixWeight (some cond) cfg.hidden cfg.condDim ∨
      ¬ isMatrixWeight (some output) cfg.actionDim cfg.hidden then
    none
  else
    let mlpLayers ← countLayers tensors cfg.hidden kMaxMlp 0
    some { cfg with mlpLayers }

/-- The floats of the frequencies of the time embedding. -/
def frequencyFloats (cfg : FlowConfig) : Nat := cfg.timeDim.toNat / 2

def construct (tensors : List ModelTensor) : ScratchM (Option FlowConfig) := do
  match config tensors with
  | none => return none
  | some cfg =>
      if ← span .constructor (frequencyFloats cfg) then return some cfg else return none

/-- `sampler_workspace_size` -/
def samplerWorkspaceSize (cfg : FlowConfig) : Nat := cfg.hidden.toNat + 6 * cfg.actionDim.toNat

/-- The spans of `velocity`: `h`, `tmp` and `sinu`. -/
def velocityBuffers (cfg : FlowConfig) : List Nat :=
  [cfg.hidden.toNat, cfg.hidden.toNat, cfg.timeDim.toNat]

/-- `velocity`, which does not look whether it got its spans. -/
def velocity (cfg : FlowConfig) : ScratchM Unit := borrow .head (velocityBuffers cfg)

/-- The evaluations of `velocity` in a step of the solver. -/
def evaluations : FlowMethod → Nat
  | .euler => 1
  | .heun => 2
  | .rk4 => 4

/-- `sampler_advance`, for all steps of a solve that nothing cancels. -/
def samplerAdvance (cfg : FlowConfig) (steps : Nat) (method : FlowMethod) : ScratchM Unit :=
  repeatM (repeatM (velocity cfg) (evaluations method)) steps

end FlowHead

end FlowEdge
