import FlowEdge.Models.Tensors
import FlowEdge.Runtime.Scratch

/-!
# The diffusion head

The constructor of the diffusion head on the CPU, the plan of its workspace, and the memory that a
denoising step takes from it. Sizes are natural numbers: the plan has checked every product that a
step forms. The values that a step computes play no part.
-/

namespace FlowEdge

namespace Diffusion

def kMetaValues : Nat := 16

def kSchemaVersion : Nat := 1

def kFinalNormGroups : Nat := 8

def kMaxStages : Nat := 8

/-- `kSimdAlign` in floats. -/
def kAlignmentFloats : Nat := 16

/-- `checked_add` -/
def checkedAdd (left right : Nat) : Option Nat :=
  if right > maxSize - left then none else some (left + right)

/-- `checked_mul` -/
def checkedMul (left right : Nat) : Option Nat :=
  if left ≠ 0 ∧ right > maxSize / left then none else some (left * right)

/-- `size_value`: the largest value is the float nearest to the largest 32-bit integer. -/
def sizeValue : ConfigFloat → Option Nat
  | .finite value =>
      if value < 0 ∨ value.den ≠ 1 ∨ value > 2 ^ 32 then none else some value.num.toNat
  | .other => none

/-- `exact_storage` -/
def exactStorage (tensor : ModelTensor) (elements elementBytes : Nat) : Bool :=
  elements ≤ maxSize / elementBytes ∧ tensor.bytes = elements * elementBytes

/-- `vector_f32` -/
def vectorF32 (tensor : Option ModelTensor) (size : Nat) : Bool :=
  tensor.any fun tensor => tensor.isF32 ∧ tensor.ndim = 1 ∧ (tensor.dim 0).toNat = size ∧
    exactStorage tensor size 4

/-- The numbers of `dp.meta`. -/
def metaValues (tensors : List ModelTensor) : Option (Nat → ConfigFloat) := do
  let tensor ← findTensor tensors .diffusionMeta
  if ¬ tensor.isF32 ∨ tensor.ndim ≠ 1 ∨ (tensor.dim 0).toNat ≠ kMetaValues ∨
      ¬ exactStorage tensor kMetaValues 4 then
    none
  else some fun index => tensor.values.getD index .other

/-- The widths of the stages, none of which is zero. -/
def stageDims (tensors : List ModelTensor) (stages : Nat) : Option (List Nat) := do
  let tensor ← findTensor tensors .diffusionDims
  if ¬ tensor.isF32 ∨ tensor.ndim ≠ 1 ∨ (tensor.dim 0).toNat ≠ stages ∨
      ¬ exactStorage tensor stages 4 then
    none
  else
    (List.range stages).mapM fun stage => do
      let width ← sizeValue (tensor.values.getD stage .other)
      if width = 0 then none else some width

/-! ## The plan of the workspace -/

structure WorkspacePlan where
  current : Nat := kAlignmentFloats - 1
  peak : Nat := kAlignmentFloats - 1

abbrev PlanM := StateT WorkspacePlan Option

namespace WorkspacePlan

def add (values : Nat) : PlanM Unit := fun plan => do
  let padding := (kAlignmentFloats - plan.current % kAlignmentFloats) % kAlignmentFloats
  let aligned ← checkedAdd plan.current padding
  let current ← checkedAdd aligned values
  return ((), { current, peak := max plan.peak current })

def addProduct (left right : Nat) : PlanM Unit := do
  let values ← checkedMul left right
  add values

def addAll : List Nat → PlanM Unit
  | [] => return ()
  | values :: rest => do
      add values
      addAll rest

def temporary (allocations : List Nat) : PlanM Unit := do
  let saved := (← get).current
  addAll allocations
  modify fun plan => { plan with current := saved }

end WorkspacePlan

open WorkspacePlan

/-- `conv1d_workspace_floats`, which may wrap around. -/
def conv1dWorkspaceFloats (inChannels outChannels outputLength kernel : Nat) : Nat :=
  (outputLength * inChannels * kernel + outputLength * outChannels) % 2 ^ 64

/-- `conv_transpose1d_workspace_floats`, which may wrap around. -/
def convTranspose1dWorkspaceFloats (inChannels outChannels inputLength : Nat) : Nat :=
  (inputLength * inChannels + outChannels * inChannels + inputLength * outChannels) % 2 ^ 64

/-- The plan of a residual block. -/
def planResidual (inChannels outChannels length : Nat) : PlanM Unit := do
  let activation ← checkedMul outChannels length
  let modulation ← checkedMul 2 outChannels
  add activation
  temporary [activation, modulation, conv1dWorkspaceFloats inChannels outChannels length 5]

/-- The plan of the stages on the way down, which gives the length at the bottom. -/
def planDown : List Nat → Nat → Nat → PlanM Nat
  | [], _, length => return length
  | channels :: rest, inChannels, length => do
      planResidual inChannels channels length
      planResidual channels channels length
      if rest = [] then return length
      else
        let length := length / 2
        addProduct channels length
        temporary [conv1dWorkspaceFloats channels channels length 3]
        planDown rest channels length

/-- The plan of the stages on the way up, from the last. -/
def planUp : List Nat → Nat → PlanM Unit
  | high :: low :: rest, length => do
      let concatenated ← checkedMul 2 high
      addProduct concatenated length
      planResidual concatenated low length
      planResidual low low length
      let length ← checkedMul length 2
      addProduct low length
      temporary [convTranspose1dWorkspaceFloats low low (length / 2)]
      planUp (low :: rest) length
  | _, _ => return ()

/-- The plan of a denoising step. -/
def planDenoise (actionDim horizon conditionDim timestepDim : Nat) (dims : List Nat) :
    PlanM Unit := do
  let sampleValues ← checkedMul actionDim horizon
  let timeHidden ← checkedMul timestepDim 4
  let conditionFeatures ← checkedAdd timestepDim conditionDim
  add timestepDim
  add timeHidden
  add conditionFeatures
  add sampleValues
  let length ← planDown dims actionDim horizon
  let bottom := dims.getLastD 0
  planResidual bottom bottom length
  planResidual bottom bottom length
  planUp dims.reverse length
  addProduct (dims.headD 0) horizon
  add sampleValues
  let widest := dims.foldl max 0
  temporary [max (conv1dWorkspaceFloats (2 * widest % 2 ^ 64) widest horizon 5)
    (convTranspose1dWorkspaceFloats widest widest horizon)]

/-- The floats of a workspace: those of the sampler and the peak of the plan. -/
def workspaceFloats (actionDim horizon conditionDim timestepDim : Nat) (dims : List Nat) :
    Option Nat := do
  let sampleValues ← checkedMul actionDim horizon
  let ((), plan) ← planDenoise actionDim horizon conditionDim timestepDim dims {}
  let samplerValues ← checkedMul 2 sampleValues
  checkedAdd samplerValues plan.peak

/-- `required_workspace_floats` -/
def requiredWorkspaceFloats (tensors : List ModelTensor) : Nat :=
  (do
    let value ← metaValues tensors
    let actionDim ← sizeValue (value 1)
    let horizon ← sizeValue (value 2)
    let conditionDim ← sizeValue (value 5)
    let stages ← sizeValue (value 6)
    let timestepDim ← sizeValue (value 9)
    if stages < 2 ∨ stages > kMaxStages then none
    else
      let dims ← stageDims tensors stages
      workspaceFloats actionDim horizon conditionDim timestepDim dims : Option Nat).getD 0

/-- The floats of the copies of the kernels on the way up, with a gap for each. -/
def persistentFloats : List Nat → Nat → Option Nat
  | _ :: low :: rest, total => do
      let square ← checkedMul low low
      let packed ← checkedMul square 4
      let total ← checkedAdd total packed
      let total ← checkedAdd total kAlignmentFloats
      persistentFloats (low :: rest) total
  | _, total => checkedAdd total kAlignmentFloats

/-- `required_persistent_floats` -/
def requiredPersistentFloats (tensors : List ModelTensor) : Nat :=
  (do
    let value ← metaValues tensors
    let trainTimesteps ← sizeValue (value 10)
    let stages ← sizeValue (value 6)
    if stages < 2 ∨ stages > kMaxStages then none
    else
      let dims ← stageDims tensors stages
      persistentFloats dims.reverse trainTimesteps : Option Nat).getD 0

end Diffusion

/-! ## The constructor -/

structure DiffusionConfig where
  actionDim : Nat
  horizon : Nat
  actionSteps : Nat
  observationSteps : Nat
  conditionDim : Nat
  stages : Nat
  kernel : Nat
  groups : Nat
  timestepDim : Nat
  trainTimesteps : Nat
  dims : List Nat
  deriving DecidableEq

structure DiffusionHead where
  config : DiffusionConfig
  /-- `workspace_floats_` -/
  workspaceFloats : Nat
  deriving DecidableEq

namespace Diffusion

/-- A finite number above zero. -/
def isPositive : ConfigFloat → Bool
  | .finite value => 0 < value
  | .other => false

/-- The configuration of a checkpoint. -/
def config (tensors : List ModelTensor) : Option DiffusionConfig := do
  let value ← metaValues tensors
  let schema ← sizeValue (value 0)
  let actionDim ← sizeValue (value 1)
  let horizon ← sizeValue (value 2)
  let actionSteps ← sizeValue (value 3)
  let observationSteps ← sizeValue (value 4)
  let conditionDim ← sizeValue (value 5)
  let stages ← sizeValue (value 6)
  let kernel ← sizeValue (value 7)
  let groups ← sizeValue (value 8)
  let timestepDim ← sizeValue (value 9)
  let trainTimesteps ← sizeValue (value 10)
  let betaSchedule ← sizeValue (value 11)
  let predictionType ← sizeValue (value 12)
  let clipSample ← sizeValue (value 13)
  let normalization ← sizeValue (value 15)
  if schema ≠ kSchemaVersion ∨ betaSchedule ≠ 0 ∨ predictionType ≠ 0 ∨ normalization ≠ 0 ∨
      clipSample > 1 ∨ actionDim = 0 ∨ horizon = 0 ∨ actionSteps = 0 ∨ observationSteps = 0 ∨
      observationSteps > horizon ∨ actionSteps > horizon - observationSteps + 1 ∨
      conditionDim = 0 ∨ stages < 2 ∨ stages > kMaxStages ∨ kernel = 0 ∨ kernel % 2 = 0 ∨
      groups = 0 ∨ timestepDim < 4 ∨ timestepDim % 2 ≠ 0 ∨ trainTimesteps = 0 ∨
      ¬ isPositive (value 14) then
    none
  else
    let dims ← stageDims tensors stages
    if dims.any (· % groups ≠ 0) ∨ dims.headD 0 % kFinalNormGroups ≠ 0 ∨
        horizon % 2 ^ (stages - 1) ≠ 0 then
      none
    else
      some { actionDim, horizon, actionSteps, observationSteps, conditionDim, stages, kernel,
             groups, timestepDim, trainTimesteps, dims }

section Loads

variable (tensors : List ModelTensor) (cfg : DiffusionConfig)

/-- The bounds of the actions are finite, and apart. -/
def actionRange : Bool :=
  let lower := findTensor tensors .actionMin
  let upper := findTensor tensors .actionMax
  let value := fun (tensor : Option ModelTensor) index =>
    (tensor.map fun tensor => tensor.values.getD index .other).getD .other
  vectorF32 lower cfg.actionDim ∧ vectorF32 upper cfg.actionDim ∧
    (List.range cfg.actionDim).all fun index =>
      match value lower index, value upper index with
      | .finite low, .finite high => low < high
      | _, _ => false

/-- `load_conv` -/
def loadConv (part : DiffusionPart) (outChannels inChannels kernel : Nat) : Bool :=
  match findTensor tensors (.diffusionWeight part),
      (checkedMul outChannels inChannels).bind (checkedMul · kernel) with
  | some weight, some elements =>
      weight.isF32 ∧ weight.ndim = 3 ∧ (weight.dim 0).toNat = outChannels ∧
        (weight.dim 1).toNat = inChannels ∧ (weight.dim 2).toNat = kernel ∧
        exactStorage weight elements 4 ∧
        vectorF32 (findTensor tensors (.diffusionBias part)) outChannels
  | _, _ => false

/-- `load_linear` -/
def loadLinear (part : DiffusionPart) (outFeatures inFeatures : Nat) : Bool :=
  match findTensor tensors (.diffusionWeight part), checkedMul outFeatures inFeatures with
  | some weight, some elements =>
      weight.ndim = 2 ∧ (weight.dim 0).toNat = outFeatures ∧ (weight.dim 1).toNat = inFeatures ∧
        isMatmulWeight (some weight) ∧
        exactStorage weight elements (if weight.isBf16 then 2 else 4) ∧
        vectorF32 (findTensor tensors (.diffusionBias part)) outFeatures
  | _, _ => false

/-- `load_norm` -/
def loadNorm (part : DiffusionPart) (channels : Nat) : Bool :=
  vectorF32 (findTensor tensors (.diffusionWeight part)) channels ∧
    vectorF32 (findTensor tensors (.diffusionBias part)) channels

/-- `load_residual`. The features of the film are those that the callers compare with. -/
def loadResidual (part : ResidualPart → DiffusionPart) (inChannels outChannels : Nat) : Bool :=
  loadConv tensors (part .c1) outChannels inChannels cfg.kernel ∧
    loadNorm tensors (part .n1) outChannels ∧
    loadLinear tensors (part .film) (2 * outChannels) (cfg.timestepDim + cfg.conditionDim) ∧
    loadConv tensors (part .c2) outChannels outChannels cfg.kernel ∧
    loadNorm tensors (part .n2) outChannels ∧
    (inChannels = outChannels ∨ loadConv tensors (part .res) outChannels inChannels 1)

/-- The modules of the stages on the way down. -/
def loadDown : List Nat → Nat → Nat → Bool
  | [], _, _ => true
  | channels :: rest, stage, inChannels =>
      loadResidual tensors cfg (.down stage 0) inChannels channels ∧
        loadResidual tensors cfg (.down stage 1) channels channels ∧
        (rest = [] ∨ loadConv tensors (.downsample stage) channels channels 3) ∧
        loadDown rest (stage + 1) channels

def loadMiddle : Bool :=
  let bottom := cfg.dims.getLastD 0
  loadResidual tensors cfg (.middle 0) bottom bottom ∧
    loadResidual tensors cfg (.middle 1) bottom bottom

/-- The modules of the stages on the way up, from the last, with a copy of each kernel. -/
def loadUp : List Nat → Nat → ScratchM Bool
  | high :: low :: rest, stage => do
      if ¬ (loadResidual tensors cfg (.up stage 0) (2 * high) low ∧
          loadResidual tensors cfg (.up stage 1) low low ∧
          loadConv tensors (.upsample stage) low low 4) then
        return false
      else if ← span .constructor (low * low * 4) then loadUp (low :: rest) (stage + 1)
      else return false
  | _, _ => return true

def loadFinal : Bool :=
  let width := cfg.dims.headD 0
  loadConv tensors .finalConv width width cfg.kernel ∧ loadNorm tensors .finalNorm width ∧
    loadConv tensors .output cfg.actionDim width 1

end Loads

def construct (tensors : List ModelTensor) : ScratchM (Option DiffusionHead) := do
  match config tensors with
  | none => return none
  | some cfg =>
      if ¬ (actionRange tensors cfg ∧
          loadLinear tensors .te1 (cfg.timestepDim * 4) cfg.timestepDim ∧
          loadLinear tensors .te2 cfg.timestepDim (cfg.timestepDim * 4) ∧
          loadDown tensors cfg cfg.dims 0 cfg.actionDim ∧ loadMiddle tensors cfg) then
        return none
      else if ← loadUp tensors cfg cfg.dims.reverse 0 then
        if ¬ loadFinal tensors cfg then return none
        else if ← span .constructor cfg.trainTimesteps then
          let workspaceFloats := requiredWorkspaceFloats tensors
          return if workspaceFloats ≠ 0 then some { config := cfg, workspaceFloats } else none
        else return none
      else return none

/-! ## Denoising -/

/-- A buffer that must not be empty. -/
def buffer (count : Nat) : ScratchM Bool := do
  let given ← span .diffusion count
  return given && count ≠ 0

/-- Buffers one after the other, whether or not they are given, and whether none is empty. -/
def buffers : List Nat → ScratchM Bool
  | [] => return true
  | count :: rest => do
      let given ← buffer count
      let others ← buffers rest
      return given && others

/-- The scratch of a convolution, for which there may be no room. -/
def packing (count : Nat) : ScratchM Unit := marked do
  let _ ← span .packing count

/-- `residual_forward`, for an input and an output of some sizes. -/
def residualForward (kernel inChannels outChannels length input output : Nat) : ScratchM Bool := do
  if input < inChannels * length ∨ output < outChannels * length then return false
  else
    marked do
      if ← buffers [outChannels * length, 2 * outChannels] then
        packing (conv1dWorkspaceFloats inChannels outChannels length kernel)
        packing (conv1dWorkspaceFloats outChannels outChannels length kernel)
        if inChannels ≠ outChannels then
          packing (conv1dWorkspaceFloats inChannels outChannels length 1)
        return true
      else return false

/-- The output of a residual block, and the block. -/
def residualBlock (kernel inChannels outChannels length input : Nat) : ScratchM Bool := do
  if ← buffer (outChannels * length) then
    residualForward kernel inChannels outChannels length input (outChannels * length)
  else return false

/-- An activation: its size, its channels and its length. -/
structure Activation where
  size : Nat
  channels : Nat
  length : Nat

/-- The stages on the way down. The sizes and lengths of the skips are kept, the last first. -/
def denoiseDown (kernel : Nat) : List Nat → Nat → Activation → List (Nat × Nat) →
    ScratchM (Option (Activation × List (Nat × Nat)))
  | [], _, x, skips => return some (x, skips)
  | channels :: rest, inChannels, x, skips => do
      if ← residualBlock kernel inChannels channels x.length x.size then
        if ← residualBlock kernel channels channels x.length (channels * x.length) then
          let x : Activation := { size := channels * x.length, channels, length := x.length }
          let skips := (x.size, x.length) :: skips
          if rest = [] then denoiseDown kernel rest channels x skips
          else
            let outputLength := x.length / 2
            if ← buffer (x.channels * outputLength) then
              packing (conv1dWorkspaceFloats x.channels x.channels outputLength 3)
              denoiseDown kernel rest channels
                { size := x.channels * outputLength, channels := x.channels,
                  length := outputLength }
                skips
            else return none
        else return none
      else return none

/-- The two blocks at the bottom. -/
def denoiseMiddle (kernel bottom : Nat) (x : Activation) : ScratchM (Option Activation) := do
  if ← buffer (x.channels * x.length) then
    if ← residualForward kernel bottom bottom x.length x.size (x.channels * x.length) then
      if ← buffer (x.channels * x.length) then
        if ← residualForward kernel bottom bottom x.length (x.channels * x.length)
            (x.channels * x.length) then
          return some { x with size := x.channels * x.length }
        else return none
      else return none
    else return none
  else return none

/-- The stages on the way up, from the last. -/
def denoiseUp (kernel : Nat) : List Nat → Activation → List (Nat × Nat) →
    ScratchM (Option Activation)
  | high :: low :: rest, x, (skip, skipLength) :: skips => do
      if skipLength ≠ x.length ∨ skip ≠ x.size then return none
      else if ← buffer (x.size + skip) then
        if ← residualBlock kernel (2 * high) low x.length (x.size + skip) then
          if ← residualBlock kernel low low x.length (low * x.length) then
            let outputLength := x.length * 2
            if ← buffer (low * outputLength) then
              packing (convTranspose1dWorkspaceFloats low low x.length)
              denoiseUp kernel (low :: rest)
                { size := low * outputLength, channels := low, length := outputLength } skips
            else return none
          else return none
        else return none
      else return none
  | _, x, _ => return some x

/-- What a caller hands to `denoise`. -/
structure DenoiseCall where
  /-- `condition.size()` -/
  condition : Nat
  /-- `normalized_sample.size()` -/
  sample : Nat
  /-- `predicted_noise.size()` -/
  noise : Nat
  /-- The time is finite. -/
  finite : Bool

section Calls

variable (head : DiffusionHead)

/-- `sample_values` -/
def sampleValues : Nat := head.config.horizon * head.config.actionDim

/-- `denoise_with_arena` behind its checks. -/
def denoiseSpans : ScratchM Bool := do
  let cfg := head.config
  let values := sampleValues head
  if ← buffers
      [cfg.timestepDim, cfg.timestepDim * 4, cfg.timestepDim + cfg.conditionDim, values] then
    match ← denoiseDown cfg.kernel cfg.dims cfg.actionDim
      { size := values, channels := cfg.actionDim, length := cfg.horizon } [] with
    | none => return false
    | some (x, skips) =>
        match ← denoiseMiddle cfg.kernel (cfg.dims.getLastD 0) x with
        | none => return false
        | some x =>
            match ← denoiseUp cfg.kernel cfg.dims.reverse x skips with
            | none => return false
            | some x =>
                if x.channels ≠ cfg.dims.headD 0 ∨ x.length ≠ cfg.horizon then return false
                else if ← buffers [x.channels * x.length, values] then
                  packing (conv1dWorkspaceFloats x.channels x.channels x.length cfg.kernel)
                  packing (conv1dWorkspaceFloats x.channels cfg.actionDim x.length 1)
                  return true
                else return false
  else return false

/-- The sizes that `denoise_with_arena` accepts. -/
def accepts (call : DenoiseCall) : Bool :=
  call.condition = head.config.conditionDim ∧ call.sample = sampleValues head ∧
    sampleValues head ≤ call.noise ∧ call.finite

/-- `denoise` with a workspace of a number of floats at an address: whether it succeeds, and the
allocations that failed. -/
def denoise (call : DenoiseCall) (address size : Nat) : Bool × List AllocationSite :=
  if size < head.workspaceFloats - 2 * sampleValues head then (false, [])
  else if ¬ accepts head call then (false, [])
  else
    let (done, state) := denoiseSpans head
      { arena := { cursor := address, limit := address + size * 4 } }
    (done, state.failures)

/-- The loop of `sample`. -/
def sampleSteps (address size : Nat) : Nat → Bool × List AllocationSite
  | 0 => (true, [])
  | steps + 1 =>
      let call : DenoiseCall :=
        { condition := head.config.conditionDim, sample := sampleValues head
          noise := sampleValues head, finite := true }
      let (done, failures) := denoise head call address size
      if done then
        let (all, others) := sampleSteps address size steps
        (all, failures ++ others)
      else (false, failures)

/-- `sample` with sizes of the condition, the noise and the action, and a scheduler that there
is or not. The first floats of the workspace are those of the sampler. -/
def sample (condition noise action steps : Nat) (scheduler : Bool) (address size : Nat) :
    Bool × List AllocationSite :=
  let values := sampleValues head
  if condition ≠ head.config.conditionDim ∨ noise ≠ values ∨ action < values ∨
      size < head.workspaceFloats ∨ steps = 0 ∨ steps > head.config.trainTimesteps ∨
      ¬ scheduler then
    (false, [])
  else sampleSteps head (address + 2 * values * 4) (size - 2 * values) steps

end Calls

end Diffusion

end FlowEdge
