import FlowEdge.Models.Tensors
import FlowEdge.Runtime.Scratch

/-!
# Transformer

The constructor of the Transformer backbone and the memory that its functions take. What the
kernels compute plays no part: they take no memory from the arena.
-/

namespace FlowEdge

structure TransformerConfig where
  vocab : Nat
  dModel : Nat
  nLayers : Nat
  nHeads : Nat
  maxSequence : Nat
  mlpDim : Nat
  deriving DecidableEq

/-- `config_value`: the values that are whole numbers of a `std::size_t`. The limits of the
constructor reject the value of which the conversion is not defined. -/
def configValue : ConfigFloat → Option Nat
  | .finite value =>
      if value < 1 ∨ value > 2 ^ 64 ∨ value.den ≠ 1 then none else some value.num.toNat
  | .other => none

namespace Transformer

def kMaxLayers : Nat := 48

/-- The configuration of a checkpoint, within the limits. -/
def config (tensors : List ModelTensor) : Option TransformerConfig := do
  let tensor ← findTensor tensors .transformerConfig
  if ¬ tensor.isF32 ∨ tensor.ndim ≠ 1 ∨ tensor.dim 0 ≠ 6 then none
  else
    let value := fun index => configValue (tensor.values.getD index .other)
    let cfg : TransformerConfig :=
      { vocab := ← value 0
        dModel := ← value 1
        nLayers := ← value 2
        nHeads := ← value 3
        maxSequence := ← value 4
        mlpDim := ← value 5 }
    if cfg.vocab > 1000000 ∨ cfg.dModel > 16384 ∨ cfg.nLayers > kMaxLayers ∨ cfg.nHeads > 256 ∨
        cfg.maxSequence > 4096 ∨ cfg.mlpDim > 65536 ∨ cfg.dModel % cfg.nHeads ≠ 0 then
      none
    else some cfg

section Layers

variable (tensors : List ModelTensor) (cfg : TransformerConfig)

/-- `vector_f32` -/
def vectorF32 (name : TensorName) (size : Nat) : Bool :=
  isVectorF32 (findTensor tensors name) (UInt64.ofNat size)

/-- `matrix_weight` -/
def matrixWeight (name : TensorName) (rows columns : Nat) : Bool :=
  isMatrixWeight (findTensor tensors name) (UInt64.ofNat rows) (UInt64.ofNat columns)

/-- The embeddings and the last norm are there and have the shapes of the configuration. -/
def wellFormed : Bool :=
  matrixWeight tensors .tokenEmbedding cfg.vocab cfg.dModel ∧
    matrixWeight tensors .positionEmbedding cfg.maxSequence cfg.dModel ∧
    vectorF32 tensors .finalWeight cfg.dModel ∧
    vectorF32 tensors .finalBias cfg.dModel ∧
    (findTensor tensors .tokenEmbedding).any (·.isF32) ∧
    (findTensor tensors .positionEmbedding).any (·.isF32)

def wellFormedLayer (index : Nat) : Bool :=
  let vector := fun part size => vectorF32 tensors (.transformerLayer index part) size
  let matrix := fun part rows columns =>
    matrixWeight tensors (.transformerLayer index part) rows columns
  vector .ln1Weight cfg.dModel ∧ vector .ln1Bias cfg.dModel ∧
    matrix .qkvWeight (3 * cfg.dModel) cfg.dModel ∧ vector .qkvBias (3 * cfg.dModel) ∧
    matrix .attentionOutWeight cfg.dModel cfg.dModel ∧ vector .attentionOutBias cfg.dModel ∧
    vector .ln2Weight cfg.dModel ∧ vector .ln2Bias cfg.dModel ∧
    matrix .mlpInWeight cfg.mlpDim cfg.dModel ∧ vector .mlpInBias cfg.mlpDim ∧
    matrix .mlpOutWeight cfg.dModel cfg.mlpDim ∧ vector .mlpOutBias cfg.dModel

/-- The floats of the cache of keys of a layer, and of that of values. -/
def cacheFloats : Nat := cfg.maxSequence * cfg.dModel

/-- The loop of the constructor over the layers, and whether it comes to its end. -/
def loadLayers : Nat → Nat → ScratchM Bool
  | 0, _ => return true
  | more + 1, index => do
      if ¬ wellFormedLayer tensors cfg index then return false
      else
        let keys ← span .constructor (cacheFloats cfg)
        let values ← span .constructor (cacheFloats cfg)
        if keys && values then loadLayers more (index + 1) else return false

end Layers

/-- `reset`, which also clears the caches. -/
def reset : ScratchM Unit := modify fun state => { state with position := 0 }

def construct (tensors : List ModelTensor) : ScratchM (Option TransformerConfig) := do
  match config tensors with
  | none => return none
  | some cfg =>
      if ¬ wellFormed tensors cfg then return none
      else if ← loadLayers tensors cfg cfg.nLayers 0 then
        reset
        return some cfg
      else return none

section Calls

variable (cfg : TransformerConfig)

/-- The spans of `decode_layer` at a position, in order. -/
def layerBuffers (position : Nat) : List Nat :=
  [ cfg.dModel,  -- normed
    3 * cfg.dModel,  -- qkv
    cfg.dModel,  -- attended
    cfg.dModel,  -- projected
    cfg.mlpDim,  -- mlp_hidden
    cfg.dModel,  -- mlp_output
    position + 1 ]  -- scores

/-- `decode_layer`: the scratch of a layer at the next position. -/
def decodeLayer : ScratchM Bool := marked do
  let position := (← get).position
  spans .transformer (layerBuffers cfg position)

/-- The loop of `decode_embedding` over the layers. -/
def decodeLayers : Nat → ScratchM Bool
  | 0 => return true
  | more + 1 => do
      if ← decodeLayer cfg then decodeLayers more else return false

/-- The spans of `decode_embedding`: `hidden` and `normalized`. -/
def embeddingBuffers : List Nat := [cfg.dModel, cfg.dModel]

/-- `decode_embedding`: the next position through all layers. -/
def decodeEmbedding : ScratchM Bool := do
  if cfg.maxSequence ≤ (← get).position then return false
  else
    let decoded ← marked do
      if ← spans .transformer (embeddingBuffers cfg) then decodeLayers cfg cfg.nLayers
      else return false
    if decoded then
      modify fun state => { state with position := state.position + 1 }
      return true
    else return false

/-- `decode_token`: refuse what is not in the vocabulary. -/
def decodeToken (token : Int) : ScratchM Bool := do
  if token < 0 ∨ (cfg.vocab : Int) ≤ token then return false else decodeEmbedding cfg

/-- The loop of `forward_tokens`. -/
def decodeTokens : List Int → ScratchM Bool
  | [] => return true
  | token :: rest => do
      if ← decodeToken cfg token then decodeTokens rest else return false

/-- `forward_tokens`: a whole sequence, from the first position on. -/
def forwardTokens (tokens : List Int) : ScratchM Bool := do
  if tokens = [] ∨ cfg.maxSequence < tokens.length then return false
  else
    reset
    decodeTokens cfg tokens

end Calls

/-! ## Where allocations fail -/

section Behaviour

variable (cfg : TransformerConfig)

theorem behaves_reset : Behaves [.transformer] reset :=
  fun _ => ⟨rfl, [], (List.append_nil _).symm, by simp⟩

theorem behaves_decodeLayer : Behaves [.transformer] (decodeLayer cfg) :=
  .marked (.bind .get fun _ => .spans (by decide) _)

theorem behaves_decodeLayers (count : Nat) : Behaves [.transformer] (decodeLayers cfg count) := by
  induction count with
  | zero => exact .pure true
  | succ count ih => exact .bind (behaves_decodeLayer cfg) fun _ => .ite ih (.pure false)

theorem behaves_decodeEmbedding : Behaves [.transformer] (decodeEmbedding cfg) := by
  refine .bind .get fun state => .ite (.pure false) ?_
  refine .bind (.marked (.bind (.spans (by decide) _) fun given => ?_)) fun decoded => ?_
  · exact .ite (behaves_decodeLayers cfg _) (.pure false)
  · exact .ite (.bind (fun _ => ⟨rfl, [], (List.append_nil _).symm, by simp⟩) fun _ => .pure true)
      (.pure false)

theorem behaves_decodeToken (token : Int) : Behaves [.transformer] (decodeToken cfg token) :=
  .ite (.pure false) (behaves_decodeEmbedding cfg)

theorem behaves_decodeTokens (tokens : List Int) :
    Behaves [.transformer] (decodeTokens cfg tokens) := by
  induction tokens with
  | nil => exact .pure true
  | cons token rest ih => exact .bind (behaves_decodeToken cfg token) fun _ => .ite ih (.pure false)

theorem behaves_forwardTokens (tokens : List Int) :
    Behaves [.transformer] (forwardTokens cfg tokens) :=
  .ite (.pure false) (.bind behaves_reset fun _ => behaves_decodeTokens cfg tokens)

end Behaviour

end Transformer

end FlowEdge
