import FlowEdge.Heads.Diffusion
import FlowEdge.Heads.Flow
import FlowEdge.Models.Mamba
import FlowEdge.Models.SmolVLA
import FlowEdge.Models.Transformer

/-!
# The engine runtime

`EngineRuntime` of the CPU build as far as its arena is concerned: the estimate of the slab, the
constructor, and the calls that run a backbone or the action expert.
-/

namespace FlowEdge

/-- `k_max_decode_seq` -/
def kMaxDecodeSeq : Nat := 512

def kThreadRingSlots : Nat := 128

def kMaxPoolThreads : Nat := 8

def taskBytes : Nat := 64

/-- The sizes of `std::jthread` and `ThreadPool`. -/
structure Platform where
  threadBytes : Nat
  threadAlign : Nat
  poolBytes : Nat
  poolAlign : Nat
  threadAligned : 0 < threadAlign
  poolAligned : 0 < poolAlign

/-- The sizes that a common platform has. -/
def commonPlatform : Platform where
  threadBytes := 16
  threadAlign := 8
  poolBytes := 448
  poolAlign := 64
  threadAligned := by decide
  poolAligned := by decide

/-- The floats that a constructor allocates one after the other, and the head that it makes if it
gets them. -/
structure HeadPlan (α : Type) where
  requests : List Nat := []
  head : Option α := none

/-! ## The estimate -/

/-- The whole numbers of a `transformer.config` up to a limit, and zero for others. -/
def dimension (value : ConfigFloat) (maximum : Nat) : UInt64 :=
  match value with
  | .finite value =>
      if value < 1 ∨ value > maximum ∨ value.den ≠ 1 then 0 else UInt64.ofNat value.num.toNat
  | .other => 0

/-- `required_slab_bytes` -/
def requiredSlabBytes (platform : Platform) (tensors : List ModelTensor) :
    UInt64 :=
  let dim := fun name index => ((findTensor tensors name).map (·.dim index)).getD 0
  let dModel := dim .embeddings 1
  let dInner := dim (.layer 0 .aLog) 0
  let dState := dim (.layer 0 .aLog) 1
  let dConv := dim (.layer 0 .convWeight) 2
  let flowHidden := dim .flowIn 0
  let actionDim := dim .flowIn 1
  let flowTimeDim := dim .flowTime 1
  let hasBackbone := dModel ≠ 0 ∧ dInner ≠ 0 ∧ dState ≠ 0 ∧ dConv ≠ 0
  let transformerValues := match findTensor tensors .transformerConfig with
    | some tensor => if tensor.isF32 ∧ tensor.ndim = 1 ∧ tensor.dim 0 = 6 then tensor.values else []
    | none => []
  let transformerModel := dimension (transformerValues.getD 1 .other) 16384
  let transformerLayers := dimension (transformerValues.getD 2 .other) 48
  let transformerPrefix := dimension (transformerValues.getD 4 .other) 4096
  let transformerMlp := dimension (transformerValues.getD 5 .other) 65536
  let hasTransformer := transformerModel ≠ 0 ∧ transformerLayers ≠ 0 ∧ transformerPrefix ≠ 0 ∧
    transformerMlp ≠ 0
  let hasFlow := flowHidden ≠ 0 ∧ actionDim ≠ 0 ∧ flowTimeDim ≠ 0
  let diffusionWorkspace := UInt64.ofNat (Diffusion.requiredWorkspaceFloats tensors)
  let diffusionPersistent := UInt64.ofNat (Diffusion.requiredPersistentFloats tensors)
  let hasDiffusion := diffusionWorkspace ≠ 0 ∧ diffusionPersistent ≠ 0
  let smolExpertWidth := dim (.expertWeight .actionIn) 0
  let smolActionDim := dim (.expertWeight .actionIn) 1
  let smolVlmWidth := dim (.expertWeight .state) 0
  let hasSmolvla := smolExpertWidth ≠ 0 ∧ smolExpertWidth ≤ 4096 ∧ smolActionDim ≠ 0 ∧
    smolActionDim ≤ 256 ∧ smolVlmWidth ≠ 0 ∧ smolVlmWidth ≤ 4096
  if ¬ hasBackbone ∧ ¬ hasTransformer ∧ ¬ hasFlow ∧ ¬ hasDiffusion ∧ ¬ hasSmolvla then 0
  else
    let perToken := if hasBackbone then 3 * dState * dInner + 16 * dInner + 8 * dModel else 0
    let persistentState := if hasBackbone then 64 * dInner * (dConv + 2 * dState) * 4 else 0
    let transformerPersistent :=
      if hasTransformer then 2 * transformerLayers * transformerPrefix * transformerModel * 4 else 0
    let transformerScratch :=
      if hasTransformer then (9 * transformerModel + transformerMlp + transformerPrefix) * 4 else 0
    let flowFloats :=
      if hasFlow then 3 * flowHidden + 6 * actionDim + 3 * flowTimeDim / 2 else 0
    let runtime :=
      UInt64.ofNat (kThreadRingSlots * taskBytes) + UInt64.ofNat (kThreadRingSlots * 8) +
        UInt64.ofNat (kMaxPoolThreads * platform.threadBytes) + UInt64.ofNat platform.poolBytes +
        (flowFloats + diffusionWorkspace + diffusionPersistent) * 4 +
        persistentState + transformerPersistent + transformerScratch +
        (if hasSmolvla then 16 * 512 * smolExpertWidth else 0) * 4 + 4096
    UInt64.ofNat kMaxDecodeSeq * perToken * 4 + runtime

/-! ## The constructor -/

structure EngineRuntime where
  mamba : Option MambaConfig
  smolvla : Option SmolVLAConfig
  transformer : Option TransformerConfig
  flow : Option FlowConfig
  diffusion : Option DiffusionHead
  /-- `decode_state_` is not empty. -/
  decodeState : Bool := false
  /-- `flow_workspace_` is not empty. -/
  flowWorkspace : Bool := false
  /-- `diffusion_workspace_` is not empty. -/
  diffusionWorkspace : Bool := false
  ready : Bool := false
  error : Option String := none
  deriving DecidableEq

namespace EngineRuntime

/-- The ring, the sequence, the threads and the pool. -/
def poolRequests (platform : Platform) (threads : Nat) : List Request :=
  [ { align := simdAlign, bytes := kThreadRingSlots * taskBytes, positive := simdAlign_pos },
    { align := simdAlign, bytes := kThreadRingSlots * 8, positive := simdAlign_pos },
    { align := platform.threadAlign, bytes := platform.threadBytes * threads
      positive := platform.threadAligned },
    { align := platform.poolAlign, bytes := platform.poolBytes, positive := platform.poolAligned } ]

/-- Requests one after the other, whether or not they are granted, and whether all are. -/
def requestAll : List Request → ScratchM Bool
  | [] => return true
  | wanted :: rest => do
      let given ← request .constructor wanted
      let others ← requestAll rest
      return given && others

def constructPool (platform : Platform) (threads : Nat) : ScratchM Bool := do
  if threads > 0 then requestAll (poolRequests platform threads) else return true

def optionalSpan : Option Nat → ScratchM Bool
  | none => return false
  | some count => span .constructor count

/-- The constructor, with what it tells of the heads. -/
def construct (platform : Platform) (tensors : List ModelTensor)
    (threads : Nat) : ScratchM EngineRuntime := do
  let mamba ← Mamba.construct tensors
  let smolvla ← SmolVLA.construct tensors
  let transformer ← Transformer.construct tensors
  let flow ← FlowHead.construct tensors
  let diffusion ← Diffusion.construct tensors
  let engine : EngineRuntime := { mamba, smolvla, transformer, flow, diffusion }
  if ¬ (← constructPool platform threads) then
    return { engine with error := some "Runtime slab cannot hold the requested worker pool" }
  else
    let decodeState ← optionalSpan (mamba.map Mamba.stateSize)
    let flowWorkspace ← optionalSpan (flow.map FlowHead.samplerWorkspaceSize)
    let diffusionWorkspace ← optionalSpan (diffusion.map (·.workspaceFloats))
    let engine := { engine with decodeState, flowWorkspace, diffusionWorkspace }
    if mamba.isSome ∧ ¬ decodeState then
      return { engine with error := some "Runtime slab cannot hold the streaming model state" }
    else if flow.isSome ∧ ¬ flowWorkspace then
      return { engine with error := some "Runtime slab cannot hold the flow sampler workspace" }
    else if diffusion.isSome ∧ ¬ diffusionWorkspace then
      return { engine with
        error := some "Runtime slab cannot hold the diffusion sampler workspace" }
    else
      return { engine with
        ready := mamba.isSome || smolvla.isSome || transformer.isSome || flow.isSome ||
          diffusion.isSome }

/-- A runtime in a slab of the size that is asked for, at an address. -/
def build (platform : Platform) (tensors : List ModelTensor)
    (threads base : Nat) : EngineRuntime × ScratchState :=
  construct platform tensors threads
    { arena := { cursor := base
                 limit := base + (requiredSlabBytes platform tensors).toNat } }

/-! ## Calls -/

variable (engine : EngineRuntime)

def hasBackbone : Bool := engine.mamba.isSome || engine.transformer.isSome

/-- `d_model` of the backbone. -/
def dModel : Nat :=
  match engine.transformer, engine.mamba with
  | some cfg, _ => cfg.dModel
  | none, some cfg => cfg.dModel.toNat
  | none, none => 0

def prefixLimit : Nat :=
  match engine.transformer with
  | some cfg => cfg.maxSequence
  | none => kMaxDecodeSeq

def hasCompatibleFlowHead : Bool :=
  match engine.flow with
  | none => true
  | some flow => !engine.hasBackbone || flow.condDim.toNat = engine.dModel

/-- `run_backbone`, and the code that it returns. -/
def runBackbone (tokens : List Int) : ScratchM Nat := do
  if ¬ engine.hasBackbone then return 4
  else if tokens.length = 0 ∨ tokens.length > engine.prefixLimit ∨
      tokens.length > maxSize / engine.dModel then
    return 1
  else
    match engine.transformer, engine.mamba with
    | some cfg, _ => return if ← Transformer.forwardTokens cfg tokens then 0 else 3
    | none, some cfg =>
        if ← span .backbone (tokens.length * engine.dModel) then
          if tokens.any fun token => token < 0 ∨ (cfg.vocab.toNat : Int) ≤ token then return 3
          else
            Mamba.forward cfg tokens.length
            return 0
        else return 2
    | none, none => return 4

def run (tokens : List Int) : ScratchM Nat := marked (engine.runBackbone tokens)

def step (token : Int) : ScratchM Nat := do
  match engine.transformer, engine.mamba with
  | some cfg, _ => return if ← Transformer.decodeToken cfg token then 0 else 3
  | none, some cfg =>
      if ¬ engine.decodeState then return 2
      else if token < 0 ∨ (cfg.vocab.toNat : Int) ≤ token then return 3
      else
        -- Without the span the code returns at once, with the cursor where the mark is.
        marked do
          if ← span .call cfg.dModel.toNat then
            Mamba.decode cfg
            return 0
          else return 2
  | none, none => return 2

/-- `flow_begin` and `flow_advance` of a whole solve. -/
def solve (flow : FlowConfig) (steps : Nat) (method : FlowMethod) : ScratchM Nat := do
  if ¬ engine.flowWorkspace then return 2
  else if steps = 0 then return 2
  else
    FlowHead.samplerAdvance flow steps method
    return 0

/-- `sample` between its mark and the reset. Without the span the code returns at once, with the
cursor where the mark is. -/
def sampleMarked (flow : FlowConfig) (tokens : List Int) (steps : Nat) (method : FlowMethod) :
    ScratchM Nat := do
  if ← span .call (tokens.length * engine.dModel) then
    match ← engine.runBackbone tokens with
    | 0 => engine.solve flow steps method
    | code => return code
  else return 2

def sample (tokens : List Int) (steps : Nat) (method : FlowMethod) : ScratchM Nat := do
  match engine.flow with
  | none => return 4
  | some flow =>
      if ¬ engine.hasBackbone then return 4
      else if ¬ engine.hasCompatibleFlowHead then return 4
      else if tokens.length = 0 ∨ tokens.length > engine.prefixLimit then return 1
      else marked (engine.sampleMarked flow tokens steps method)

def reset : ScratchM Unit :=
  match engine.transformer with
  | some _ => Transformer.reset
  | none => return ()

inductive Call where
  | run (tokens : List Int)
  | step (token : Int)
  | sample (tokens : List Int) (steps : Nat) (method : FlowMethod)
  | reset

def exec : Call → ScratchM Unit
  | .run tokens => do let _ ← engine.run tokens
  | .step token => do let _ ← engine.step token
  | .sample tokens steps method => do let _ ← engine.sample tokens steps method
  | .reset => engine.reset

def execAll : List Call → ScratchM Unit
  | [] => return ()
  | call :: rest => do
      engine.exec call
      execAll rest

theorem execAll_singleton (call : Call) (state : ScratchState) :
    (engine.execAll [call] state).2 = (engine.exec call state).2 := rfl

/-! ## Calls of the action expert -/

/-- A call of a function of the expert, and the code that it returns. -/
def expertCode (program : ScratchM Bool) : ScratchM Nat := do
  if ← program then return 0 else return 3

def smolvlaEmbedSuffix (chunk : Nat) (finite : Bool) : ScratchM Nat := do
  match engine.smolvla with
  | none => return 4
  | some cfg =>
      if chunk = 0 ∨ chunk > 512 ∨ chunk > maxSize / cfg.maxActionDim.toNat ∨
          chunk > maxSize / cfg.expertWidth.toNat then
        return 1
      else expertCode (SmolVLA.embedSuffix cfg chunk finite)

def smolvlaRunExpert (chunk : Nat) (mask : List UInt8) : ScratchM Nat := do
  match engine.smolvla with
  | none => return 4
  | some cfg =>
      if chunk = 0 ∨ chunk > 512 ∨ mask.length = 0 ∨ mask.length > 512 ∨
          chunk > maxSize / cfg.expertWidth.toNat ∨ mask.length > maxSize / cfg.expertLayers ∨
          mask.length * cfg.expertLayers > maxSize / cfg.keyValueWidth.toNat then
        return 1
      else expertCode (SmolVLA.runWithPrefixKv cfg chunk mask)

def smolvlaDenoise (chunk : Nat) (finite : Bool) (mask : List UInt8) : ScratchM Nat := do
  match engine.smolvla with
  | none => return 4
  | some cfg =>
      if ¬ finite ∨ chunk = 0 ∨ chunk > 512 ∨ mask.length = 0 ∨ mask.length > 512 ∨
          chunk > maxSize / cfg.maxActionDim.toNat ∨ mask.length > maxSize / cfg.expertLayers ∨
          mask.length * cfg.expertLayers > maxSize / cfg.keyValueWidth.toNat then
        return 1
      else expertCode (SmolVLA.denoiseWithPrefixKv cfg chunk finite mask)

def smolvlaSample (chunk steps : Nat) (mask : List UInt8) : ScratchM Nat := do
  match engine.smolvla with
  | none => return 4
  | some cfg =>
      if steps = 0 ∨ steps > 100 ∨ chunk = 0 ∨ chunk > 512 ∨ mask.length = 0 ∨
          mask.length > 512 ∨ chunk > maxSize / cfg.maxActionDim.toNat ∨
          mask.length > maxSize / cfg.expertLayers ∨
          mask.length * cfg.expertLayers > maxSize / cfg.keyValueWidth.toNat then
        return 1
      else expertCode (SmolVLA.sampleEulerWithPrefixKv cfg chunk steps mask)

inductive ExpertCall where
  | embed (chunk : Nat) (finite : Bool)
  | run (chunk : Nat) (mask : List UInt8)
  | denoise (chunk : Nat) (finite : Bool) (mask : List UInt8)
  | sample (chunk steps : Nat) (mask : List UInt8)

def execExpert : ExpertCall → ScratchM Nat
  | .embed chunk finite => engine.smolvlaEmbedSuffix chunk finite
  | .run chunk mask => engine.smolvlaRunExpert chunk mask
  | .denoise chunk finite mask => engine.smolvlaDenoise chunk finite mask
  | .sample chunk steps mask => engine.smolvlaSample chunk steps mask

def execExperts : List ExpertCall → ScratchM Unit
  | [] => return ()
  | call :: rest => do
      let _ ← engine.execExpert call
      execExperts rest

theorem execExperts_singleton (call : ExpertCall) (state : ScratchState) :
    (engine.execExperts [call] state).2 = (engine.execExpert call state).2 := rfl

end EngineRuntime

end FlowEdge
