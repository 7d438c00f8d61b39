import FlowEdge.Models.Tensors
import FlowEdge.Runtime.Scratch

/-!
# Mamba

The constructor of the Mamba backbone on the CPU, and the memory that its functions take. What the
kernels compute plays no part: they take no memory from the arena. Sizes are natural numbers: the
weights of a checkpoint are in memory, so that no dimension of theirs is so large that a product
with the length of a prefill would wrap around.
-/

namespace FlowEdge

structure MambaConfig where
  vocab : UInt64
  dModel : UInt64
  dInner : UInt64
  dState : UInt64
  dConv : UInt64
  dtRank : UInt64 := 0
  nLayers : Nat := 0
  deriving DecidableEq

namespace Mamba

def kMaxLayers : Nat := 64

/-- The part of the constructor before the layers: the configuration that the shapes give. -/
def shapes (tensors : List ModelTensor) : Option MambaConfig :=
  match findTensor tensors .embeddings, findTensor tensors (.layer 0 .aLog),
    findTensor tensors (.layer 0 .convWeight), findTensor tensors (.layer 0 .xProj),
    findTensor tensors .normF with
  | some emb, some a0, some cv0, some xp0, some nf =>
      if emb.ndim ≠ 2 ∨ a0.ndim ≠ 2 ∨ cv0.ndim ≠ 3 ∨ xp0.ndim ≠ 2 then none
      else
        let cfg : MambaConfig :=
          { vocab := emb.dim 0
            dModel := emb.dim 1
            dInner := a0.dim 0
            dState := a0.dim 1
            dConv := cv0.dim 2 }
        if cfg.vocab = 0 ∨ cfg.dModel = 0 ∨ cfg.dInner = 0 ∨ cfg.dState = 0 ∨ cfg.dConv = 0 ∨
            xp0.dim 0 < 2 * cfg.dState then
          none
        else
          let cfg := { cfg with dtRank := xp0.dim 0 - 2 * cfg.dState }
          if cfg.dtRank = 0 ∨ ¬ emb.isF32 ∨ ¬ a0.isF32 ∨ ¬ isVectorF32 (some nf) cfg.dModel ∨
              ¬ isConvWeight (some cv0) cfg.dInner cfg.dConv ∨
              ¬ isMatrixWeight (some xp0) (cfg.dtRank + 2 * cfg.dState) cfg.dInner then
            none
          else some cfg
  | _, _, _, _, _ => none

section Layers

variable (tensors : List ModelTensor) (cfg : MambaConfig)

def layerTensor (index : Nat) (part : MambaPart) : Option ModelTensor :=
  findTensor tensors (.layer index part)

/-- The weights of a layer are there and have the shapes of the configuration. -/
def wellFormedLayer (index : Nat) : Bool :=
  isVectorF32 (layerTensor tensors index .norm) cfg.dModel ∧
    isMatrixWeight (layerTensor tensors index .inProj) (2 * cfg.dInner) cfg.dModel ∧
    isConvWeight (layerTensor tensors index .convWeight) cfg.dInner cfg.dConv ∧
    isVectorF32 (layerTensor tensors index .convBias) cfg.dInner ∧
    isMatrixWeight (layerTensor tensors index .xProj) (cfg.dtRank + 2 * cfg.dState) cfg.dInner ∧
    isMatrixWeight (layerTensor tensors index .dtWeight) cfg.dInner cfg.dtRank ∧
    isVectorF32 (layerTensor tensors index .dtBias) cfg.dInner ∧
    isMatrixWeight (layerTensor tensors index .aLog) cfg.dInner cfg.dState ∧
    (layerTensor tensors index .aLog).any (·.isF32) ∧
    isVectorF32 (layerTensor tensors index .d) cfg.dInner ∧
    isMatrixWeight (layerTensor tensors index .outProj) cfg.dModel cfg.dInner

/-- The floats of the transposed `A_log` of a layer. -/
def transitionFloats : Nat := cfg.dState.toNat * cfg.dInner.toNat

/-- The loop of the constructor over the layers, which gives their number. -/
def loadLayers : Nat → Nat → ScratchM (Option Nat)
  | 0, index => return some index
  | more + 1, index => do
      if (layerTensor tensors index .norm).isNone then return some index
      else if ¬ wellFormedLayer tensors cfg index then return none
      else if ← span .constructor (transitionFloats cfg) then loadLayers more (index + 1)
      else return none

end Layers

def construct (tensors : List ModelTensor) : ScratchM (Option MambaConfig) := do
  match shapes tensors with
  | none => return none
  | some cfg =>
      match ← loadLayers tensors cfg kMaxLayers 0 with
      | none => return none
      | some nLayers => return if nLayers > 0 then some { cfg with nLayers } else none

section Calls

variable (cfg : MambaConfig)

/-- `state_size` -/
def stateSize : Nat := cfg.nLayers * cfg.dInner.toNat * (cfg.dConv.toNat + cfg.dState.toNat)

/-- The width of the output of `x_proj`. -/
def projectionWidth : Nat := cfg.dtRank.toNat + 2 * cfg.dState.toNat

/-- The spans of `layer_forward`, in order. -/
def layerBuffers (l : Nat) : List Nat :=
  [ l * cfg.dModel.toNat,  -- normed
    l * 2 * cfg.dInner.toNat,  -- xz
    l * cfg.dInner.toNat,  -- z
    cfg.dInner.toNat * l,  -- x_cm
    cfg.dInner.toNat * l,  -- x_conv
    l * cfg.dInner.toNat,  -- x_sm
    l * projectionWidth cfg,  -- dbl
    l * cfg.dtRank.toNat,  -- dt_in
    l * cfg.dInner.toNat,  -- dt
    cfg.dState.toNat * cfg.dInner.toNat,  -- h
    l * cfg.dInner.toNat,  -- yv
    l * cfg.dModel.toNat ]  -- out

/-- The spans of `decode_layer`, in order. -/
def decodeBuffers : List Nat :=
  [ cfg.dModel.toNat,  -- normed
    2 * cfg.dInner.toNat,  -- xz
    cfg.dInner.toNat,  -- z
    cfg.dInner.toNat,  -- x_conv
    projectionWidth cfg,  -- dbl
    cfg.dtRank.toNat,  -- dt_in
    cfg.dInner.toNat,  -- dt
    cfg.dInner.toNat,  -- yv
    cfg.dModel.toNat ]  -- out

/-- `layer_forward`, which does not look whether it got its spans. -/
def layerForward (l : Nat) : ScratchM Unit := borrow .backbone (layerBuffers cfg l)

def forward (l : Nat) : ScratchM Unit := repeatM (layerForward cfg l) cfg.nLayers

/-- `decode_layer`, which does not look whether it got its spans. -/
def decodeLayer : ScratchM Unit := borrow .backbone (decodeBuffers cfg)

def decode : ScratchM Unit := repeatM (decodeLayer cfg) cfg.nLayers

end Calls

end Mamba

end FlowEdge
