import FlowEdge.Models.Tensors
import FlowEdge.Runtime.Scratch

/-!
# The SmolVLA action expert

The constructor of the action expert and the memory that its functions take. The sizes of the
caller's buffers are those that the runtime gives: rows of actions, rows of hidden states, and
keys and values for each token of the prefix.
-/

namespace FlowEdge

structure SmolVLAConfig where
  maxStateDim : UInt64
  maxActionDim : UInt64
  vlmWidth : UInt64
  expertWidth : UInt64
  expertLayers : Nat := 0
  attentionWidth : UInt64 := 0
  keyValueWidth : UInt64 := 0
  mlpWidth : UInt64 := 0
  deriving DecidableEq

namespace SmolVLA

def kMaxExpertLayers : Nat := 48

def kMaxEulerSteps : Nat := 100

/-! ## The constructor -/

section Config

variable (tensors : List ModelTensor)

def weight (projection : ExpertProjection) : Option ModelTensor :=
  findTensor tensors (.expertWeight projection)

def bias (projection : ExpertProjection) : Option ModelTensor :=
  findTensor tensors (.expertBias projection)

def layerTensor (index : Nat) (part : ExpertPart) : Option ModelTensor :=
  findTensor tensors (.expertLayer index part)

/-- The widths that the projections give, within the limits. -/
def projections : Option SmolVLAConfig := do
  let actionIn ← weight tensors .actionIn
  let actionOut ← weight tensors .actionOut
  let timeIn ← weight tensors .timeIn
  let timeOut ← weight tensors .timeOut
  let state ← weight tensors .state
  if actionIn.ndim ≠ 2 ∨ actionOut.ndim ≠ 2 ∨ timeIn.ndim ≠ 2 ∨ timeOut.ndim ≠ 2 ∨
      state.ndim ≠ 2 then
    none
  else
    let cfg : SmolVLAConfig :=
      { expertWidth := actionIn.dim 0, maxActionDim := actionIn.dim 1
        vlmWidth := state.dim 0, maxStateDim := state.dim 1 }
    if cfg.expertWidth = 0 ∨ cfg.expertWidth > 4096 ∨ cfg.maxActionDim = 0 ∨
        cfg.maxActionDim > 256 ∨ cfg.vlmWidth = 0 ∨ cfg.vlmWidth > 4096 ∨ cfg.maxStateDim = 0 ∨
        cfg.maxStateDim > 256 ∨ cfg.expertWidth % 2 ≠ 0 ∨
        ¬ isMatrixWeight (some actionIn) cfg.expertWidth cfg.maxActionDim ∨
        ¬ isMatrixWeight (some actionOut) cfg.maxActionDim cfg.expertWidth ∨
        ¬ isMatrixWeight (some timeIn) cfg.expertWidth (2 * cfg.expertWidth) ∨
        ¬ isMatrixWeight (some timeOut) cfg.expertWidth cfg.expertWidth ∨
        ¬ isMatrixWeight (some state) cfg.vlmWidth cfg.maxStateDim then
      none
    else if ¬ isVectorF32 (bias tensors .actionIn) cfg.expertWidth ∨
        ¬ isVectorF32 (bias tensors .actionOut) cfg.maxActionDim ∨
        ¬ isVectorF32 (bias tensors .timeIn) cfg.expertWidth ∨
        ¬ isVectorF32 (bias tensors .timeOut) cfg.expertWidth ∨
        ¬ isVectorF32 (bias tensors .state) cfg.vlmWidth then
      none
    else some cfg

/-- The widths of the attention and of the MLP, which are fixed. -/
def widths (cfg : SmolVLAConfig) : Option SmolVLAConfig := do
  let q ← layerTensor tensors 0 .q
  let k ← layerTensor tensors 0 .k
  let gate ← layerTensor tensors 0 .gate
  if q.ndim ≠ 2 ∨ k.ndim ≠ 2 ∨ gate.ndim ≠ 2 then none
  else
    let cfg := { cfg with
      attentionWidth := q.dim 0, keyValueWidth := k.dim 0, mlpWidth := gate.dim 0 }
    if cfg.attentionWidth ≠ 960 ∨ cfg.keyValueWidth ≠ 320 ∨ cfg.mlpWidth ≠ 2048 ∨
        ¬ isVectorWeight (findTensor tensors .expertNorm) cfg.expertWidth then
      none
    else some cfg

/-- None of the tensors of a layer is there. -/
def absentLayer (index : Nat) : Bool :=
  [ExpertPart.inputNorm, .postNorm, .q, .k, .v, .o, .gate, .up, .down].all fun part =>
    (layerTensor tensors index part).isNone

/-- Every second layer attends to the prefix. -/
def crossAttention (index : Nat) : Bool := index % 2 ≠ 0

def wellFormedLayer (cfg : SmolVLAConfig) (index : Nat) : Bool :=
  let tensor := layerTensor tensors index
  let kvInput := if crossAttention index then cfg.keyValueWidth else cfg.expertWidth
  isVectorWeight (tensor .inputNorm) cfg.expertWidth ∧
    isVectorWeight (tensor .postNorm) cfg.expertWidth ∧
    isMatrixWeight (tensor .q) cfg.attentionWidth cfg.expertWidth ∧
    isMatrixWeight (tensor .k) cfg.keyValueWidth kvInput ∧
    isMatrixWeight (tensor .v) cfg.keyValueWidth kvInput ∧
    isMatrixWeight (tensor .o) cfg.expertWidth cfg.attentionWidth ∧
    isMatrixWeight (tensor .gate) cfg.mlpWidth cfg.expertWidth ∧
    isMatrixWeight (tensor .up) cfg.mlpWidth cfg.expertWidth ∧
    isMatrixWeight (tensor .down) cfg.expertWidth cfg.mlpWidth

/-- The loop over the layers, which gives their number. -/
def countLayers (cfg : SmolVLAConfig) : Nat → Nat → Option Nat
  | 0, index => some index
  | more + 1, index =>
      if absentLayer tensors index then some index
      else if ¬ wellFormedLayer tensors cfg index then none
      else countLayers cfg more (index + 1)

/-- The configuration of a checkpoint that passes the checks of the constructor. -/
def config : Option SmolVLAConfig := do
  let cfg ← projections tensors
  let cfg ← widths tensors cfg
  let expertLayers ← countLayers tensors cfg kMaxExpertLayers 0
  if expertLayers = 0 then none else some { cfg with expertLayers }

end Config

/-- The copies of the norms of the layers. The weights that are copied have passed the checks. -/
def loadNorms (cfg : SmolVLAConfig) : Nat → ScratchM Bool
  | 0 => return true
  | more + 1 => do
      let input ← span .constructor cfg.expertWidth.toNat
      let post ← span .constructor cfg.expertWidth.toNat
      if input && post then loadNorms cfg more else return false

/-- The copies of all norms, and whether there is room for them. -/
def loadAllNorms (cfg : SmolVLAConfig) : ScratchM Bool := do
  if ← loadNorms cfg cfg.expertLayers then span .constructor cfg.expertWidth.toNat
  else return false

def construct (tensors : List ModelTensor) : ScratchM (Option SmolVLAConfig) := do
  match config tensors with
  | none => return none
  | some cfg =>
      let mark := (← get).arena.cursor
      if ← loadAllNorms cfg then return some cfg
      else
        modify fun state => { state with arena := state.arena.resetTo mark }
        return none

/-! ## Calls -/

section Calls

variable (cfg : SmolVLAConfig)

/-- The spans of `embed_suffix`: `action`, `fused` and `time`. -/
def embedBuffers (rows : Nat) : List Nat :=
  [rows * cfg.expertWidth.toNat, rows * (2 * cfg.expertWidth.toNat), cfg.expertWidth.toNat]

/-- `embed_suffix` for a time that is finite or not. -/
def embedSuffix (rows : Nat) (finite : Bool) : ScratchM Bool := do
  if ¬ finite ∨ rows = 0 then return false else marked (spans .expert (embedBuffers cfg rows))

/-- The spans of a layer, in order. -/
def layerBuffers (chunk keyRows prefixSize : Nat) : List Nat :=
  [ chunk * cfg.expertWidth.toNat,  -- normed
    chunk * cfg.attentionWidth.toNat,  -- query
    keyRows * cfg.keyValueWidth.toNat,  -- keys
    keyRows * cfg.keyValueWidth.toNat,  -- values
    chunk * cfg.attentionWidth.toNat,  -- attended
    chunk * cfg.expertWidth.toNat,  -- projected
    chunk * cfg.mlpWidth.toNat,  -- gate
    chunk * cfg.mlpWidth.toNat,  -- up
    prefixSize + chunk ]  -- scores

def runLayer (chunk prefixSize index : Nat) : ScratchM Bool :=
  let keyRows := if crossAttention index then prefixSize else chunk
  marked (spans .expert (layerBuffers cfg chunk keyRows prefixSize))

/-- The loop of `run_with_prefix_kv` over the layers. -/
def runLayers (chunk prefixSize : Nat) : Nat → Nat → ScratchM Bool
  | 0, _ => return true
  | more + 1, index => do
      if ← runLayer cfg chunk prefixSize index then runLayers chunk prefixSize more (index + 1)
      else return false

/-- `run_with_prefix_kv` -/
def runWithPrefixKv (chunk : Nat) (mask : List UInt8) : ScratchM Bool := do
  if chunk = 0 ∨ mask.length = 0 ∨ mask.length > 512 then return false
  else if chunk > 512 ∨ mask.length > maxSize / cfg.expertLayers ∨
      mask.length * cfg.expertLayers > maxSize / cfg.keyValueWidth.toNat then
    return false
  else if mask.any (· > 1) then return false
  else if mask.all (· = 0) then return false
  else if ← runLayers cfg chunk mask.length cfg.expertLayers 0 then
    marked (span .expert (chunk * cfg.expertWidth.toNat))
  else return false

/-- `denoise_with_prefix_kv` -/
def denoiseWithPrefixKv (chunk : Nat) (finite : Bool) (mask : List UInt8) : ScratchM Bool := do
  if ¬ finite ∨ chunk = 0 then return false
  else
    marked do
      if ← spans .expert [chunk * cfg.expertWidth.toNat, chunk * cfg.expertWidth.toNat] then
        if ← embedSuffix cfg chunk finite then runWithPrefixKv cfg chunk mask else return false
      else return false

/-- The loop of the Euler steps. All their times are finite. -/
def eulerSteps (chunk : Nat) (mask : List UInt8) : Nat → ScratchM Bool
  | 0 => return true
  | steps + 1 => do
      if ← denoiseWithPrefixKv cfg chunk true mask then eulerSteps chunk mask steps
      else return false

/-- `sample_euler_with_prefix_kv` -/
def sampleEulerWithPrefixKv (chunk steps : Nat) (mask : List UInt8) : ScratchM Bool := do
  if steps = 0 ∨ steps > kMaxEulerSteps ∨ chunk = 0 then return false
  else
    marked do
      if ← span .expert (chunk * cfg.maxActionDim.toNat) then eulerSteps cfg chunk mask steps
      else return false

end Calls

end SmolVLA

end FlowEdge
