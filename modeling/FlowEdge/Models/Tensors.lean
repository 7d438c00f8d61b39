import Mathlib.Algebra.Order.Field.Rat
import Mathlib.Tactic.Ring
import FlowEdge.Loader.Safetensors

/-!
# The tensors of a checkpoint

What the constructors of the models read of a loaded checkpoint: the name, the element type and
the shape of each tensor, and the numbers of a configuration.
-/

namespace FlowEdge

/-- `backbone.layers.N.` and `norm.weight`, `mixer.in_proj.weight`, `mixer.conv1d.weight`,
`mixer.conv1d.bias`, `mixer.x_proj.weight`, `mixer.dt_proj.weight`, `mixer.dt_proj.bias`,
`mixer.A_log`, `mixer.D` and `mixer.out_proj.weight`. -/
inductive MambaPart where
  | norm
  | inProj
  | convWeight
  | convBias
  | xProj
  | dtWeight
  | dtBias
  | aLog
  | d
  | outProj
  deriving DecidableEq

/-- `transformer.layers.N.` and `ln_1`, `attn.qkv`, `attn.out_proj`, `ln_2`, `mlp.fc_in` and
`mlp.fc_out`, each with `.weight` and `.bias`. -/
inductive TransformerPart where
  | ln1Weight
  | ln1Bias
  | qkvWeight
  | qkvBias
  | attentionOutWeight
  | attentionOutBias
  | ln2Weight
  | ln2Bias
  | mlpInWeight
  | mlpInBias
  | mlpOutWeight
  | mlpOutBias
  deriving DecidableEq

/-- `model.action_in_proj`, `model.action_out_proj`, `model.action_time_mlp_in`,
`model.action_time_mlp_out` and `model.state_proj`. -/
inductive ExpertProjection where
  | actionIn
  | actionOut
  | timeIn
  | timeOut
  | state
  deriving DecidableEq

/-- `model.vlm_with_expert.lm_expert.layers.N.` and `input_layernorm.weight`,
`post_attention_layernorm.weight`, `self_attn.q_proj.weight`, `self_attn.k_proj.weight`,
`self_attn.v_proj.weight`, `self_attn.o_proj.weight`, `mlp.gate_proj.weight`,
`mlp.up_proj.weight` and `mlp.down_proj.weight`. -/
inductive ExpertPart where
  | inputNorm
  | postNorm
  | q
  | k
  | v
  | o
  | gate
  | up
  | down
  deriving DecidableEq

/-- `.c1`, `.n1`, `.film`, `.c2`, `.n2` and `.res` of a residual block. -/
inductive ResidualPart where
  | c1
  | n1
  | film
  | c2
  | n2
  | res
  deriving DecidableEq

/-- The modules of a diffusion head. -/
inductive DiffusionPart where
  /-- `dp.te1` -/
  | te1
  /-- `dp.te2` -/
  | te2
  /-- `dp.dS.rB` -/
  | down (stage block : Nat) (part : ResidualPart)
  /-- `dp.dS.ds` -/
  | downsample (stage : Nat)
  /-- `dp.mB` -/
  | middle (block : Nat) (part : ResidualPart)
  /-- `dp.uS.rB` -/
  | up (stage block : Nat) (part : ResidualPart)
  /-- `dp.uS.us` -/
  | upsample (stage : Nat)
  /-- `dp.f.c` -/
  | finalConv
  /-- `dp.f.n` -/
  | finalNorm
  /-- `dp.f.o` -/
  | output
  deriving DecidableEq

/-- The names that the runtime looks for. -/
inductive TensorName where
  /-- `backbone.embeddings.weight` -/
  | embeddings
  /-- `backbone.norm_f.weight` -/
  | normF
  | layer (index : Nat) (part : MambaPart)
  /-- `transformer.config` -/
  | transformerConfig
  /-- `transformer.embeddings.token.weight` -/
  | tokenEmbedding
  /-- `transformer.embeddings.position.weight` -/
  | positionEmbedding
  /-- `transformer.norm_f.weight` -/
  | finalWeight
  /-- `transformer.norm_f.bias` -/
  | finalBias
  | transformerLayer (index : Nat) (part : TransformerPart)
  /-- `flow.in_proj.weight` -/
  | flowIn
  /-- `flow.time_proj.weight` -/
  | flowTime
  /-- `flow.cond_proj.weight` -/
  | flowCond
  /-- `flow.out_proj.weight` -/
  | flowOut
  /-- `flow.layers.N.weight` -/
  | flowLayer (index : Nat)
  /-- `.weight` of a projection -/
  | expertWeight (projection : ExpertProjection)
  /-- `.bias` of a projection -/
  | expertBias (projection : ExpertProjection)
  /-- `model.vlm_with_expert.lm_expert.norm.weight` -/
  | expertNorm
  | expertLayer (index : Nat) (part : ExpertPart)
  /-- `dp.meta` -/
  | diffusionMeta
  /-- `dp.dims` -/
  | diffusionDims
  /-- `dp.action_min` -/
  | actionMin
  /-- `dp.action_max` -/
  | actionMax
  /-- `.w` of a module -/
  | diffusionWeight (part : DiffusionPart)
  /-- `.b` of a module -/
  | diffusionBias (part : DiffusionPart)
  deriving DecidableEq

/-- A number of a configuration: the value of a finite float. -/
inductive ConfigFloat where
  | finite (value : Rat)
  | other

/-- A `TensorView`, as far as the constructors look at it. -/
structure ModelTensor where
  name : TensorName
  dtype : Dtype
  ndim : Nat
  shape : List UInt64
  values : List ConfigFloat := []
  bytes : Nat := 0

namespace ModelTensor

/-- `shape[i]` -/
def dim (tensor : ModelTensor) (index : Nat) : UInt64 := tensor.shape.getD index 0

def isF32 (tensor : ModelTensor) : Bool := tensor.dtype = .f32

def isBf16 (tensor : ModelTensor) : Bool := tensor.dtype = .bf16

end ModelTensor

def findTensor (tensors : List ModelTensor) (name : TensorName) : Option ModelTensor :=
  tensors.find? (·.name = name)

/-- `is_matmul_weight` -/
def isMatmulWeight (tensor : Option ModelTensor) : Bool :=
  tensor.any fun tensor => tensor.isF32 || tensor.isBf16

/-- `is_vector_f32` -/
def isVectorF32 (tensor : Option ModelTensor) (size : UInt64) : Bool :=
  tensor.any fun tensor => tensor.ndim = 1 ∧ tensor.dim 0 = size ∧ tensor.isF32

/-- `vector_weight` -/
def isVectorWeight (tensor : Option ModelTensor) (size : UInt64) : Bool :=
  tensor.any fun tensor => tensor.ndim = 1 ∧ tensor.dim 0 = size ∧ (tensor.isF32 ∨ tensor.isBf16)

/-- `is_matrix_weight` -/
def isMatrixWeight (tensor : Option ModelTensor) (rows columns : UInt64) : Bool :=
  tensor.any fun tensor => tensor.ndim = 2 ∧ tensor.dim 0 = rows ∧ tensor.dim 1 = columns ∧
    (tensor.isF32 ∨ tensor.isBf16)

/-- `is_conv_weight` -/
def isConvWeight (tensor : Option ModelTensor) (channels kernel : UInt64) : Bool :=
  tensor.any fun tensor => tensor.ndim = 3 ∧ tensor.dim 0 = channels ∧ tensor.dim 1 = 1 ∧
    tensor.dim 2 = kernel ∧ tensor.isF32

end FlowEdge
