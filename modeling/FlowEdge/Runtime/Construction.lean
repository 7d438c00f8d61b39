import FlowEdge.Runtime.EngineRuntime

/-!
# The memory of a constructor

What the constructor of a runtime asks for, and the runtime that it makes if it gets all of it.
-/

namespace FlowEdge

/-! ## Backbones and heads -/

namespace Mamba

/-- What the loop over the layers asks for, and the number of layers that it finds. -/
def layersPlan (tensors : List ModelTensor) (cfg : MambaConfig) : Nat → Nat → HeadPlan Nat
  | 0, index => { head := some index }
  | more + 1, index =>
      if (layerTensor tensors index .norm).isNone then { head := some index }
      else if ¬ wellFormedLayer tensors cfg index then {}
      else
        let rest := layersPlan tensors cfg more (index + 1)
        { rest with requests := transitionFloats cfg :: rest.requests }

def plan (tensors : List ModelTensor) : HeadPlan MambaConfig :=
  match shapes tensors with
  | none => {}
  | some cfg =>
      let layers := layersPlan tensors cfg kMaxLayers 0
      { requests := layers.requests
        head := layers.head.bind fun nLayers =>
          if nLayers > 0 then some { cfg with nLayers } else none }

theorem demands_loadLayers (tensors : List ModelTensor) (cfg : MambaConfig) (more index : Nat) :
    Demands (loadLayers tensors cfg more index)
      ((layersPlan tensors cfg more index).requests.map floats)
      (layersPlan tensors cfg more index).head := by
  induction more generalizing index with
  | zero => exact .pure _
  | succ more ih =>
      rw [loadLayers, layersPlan]
      split
      · exact .pure _
      split
      · exact .pure _
      exact .bind (.span _ _) fun given => .ite (ih _) (.pure _)

theorem demands_construct (tensors : List ModelTensor) :
    Demands (construct tensors) ((plan tensors).requests.map floats) (plan tensors).head := by
  rw [construct, plan]
  cases shapes tensors with
  | none => exact .pure _
  | some cfg =>
      let counted : Option Nat → Option MambaConfig := fun layers =>
        layers.bind fun nLayers => if nLayers > 0 then some { cfg with nLayers } else none
      have layers := demands_loadLayers tensors cfg kMaxLayers 0
      refine (@Demands.bind _ _ _ _ _ _ (fun _ => []) counted layers fun layers => ?_).of_eq
        (List.append_nil _) rfl
      cases layers with
      | none | some => exact .pure _

end Mamba

namespace Transformer

/-- What the loop over the layers asks for, and whether it comes to its end. -/
def layersPlan (tensors : List ModelTensor) (cfg : TransformerConfig) : Nat → Nat → List Nat × Bool
  | 0, _ => ([], true)
  | more + 1, index =>
      if ¬ wellFormedLayer tensors cfg index then ([], false)
      else
        let rest := layersPlan tensors cfg more (index + 1)
        (cacheFloats cfg :: cacheFloats cfg :: rest.1, rest.2)

def plan (tensors : List ModelTensor) : HeadPlan TransformerConfig :=
  match config tensors with
  | none => {}
  | some cfg =>
      if ¬ wellFormed tensors cfg then {}
      else
        let layers := layersPlan tensors cfg cfg.nLayers 0
        { requests := layers.1, head := if layers.2 then some cfg else none }

theorem demands_loadLayers (tensors : List ModelTensor) (cfg : TransformerConfig)
    (more index : Nat) :
    Demands (loadLayers tensors cfg more index)
      ((layersPlan tensors cfg more index).1.map floats)
      (layersPlan tensors cfg more index).2 := by
  induction more generalizing index with
  | zero => exact .pure _
  | succ more ih =>
      rw [loadLayers, layersPlan]
      split
      · exact .pure _
      exact .bind (.span _ _) fun keys => .bind (.span _ _) fun values => .ite (ih _) (.pure _)

theorem demands_reset : Demands reset [] () where
  advances _ inside := ⟨Nat.le_refl _, inside, rfl, [], (List.append_nil _).symm⟩
  fits state _ start _ := by
    change ((), { state with position := 0 }) = ((), state)
    rw [← start]
  fails _ _ _ inside exceeds := absurd exceeds (Nat.not_lt.mpr inside)

theorem demands_construct (tensors : List ModelTensor) :
    Demands (construct tensors) ((plan tensors).requests.map floats) (plan tensors).head := by
  rw [construct, plan]
  cases config tensors with
  | none => exact .pure _
  | some cfg =>
      dsimp only
      split
      · exact .pure _
      refine (Demands.bind (demands_loadLayers tensors cfg cfg.nLayers 0) fun loaded =>
        .ite (.bind demands_reset fun _ => .pure _) (.pure _)).of_eq ?_ rfl
      simp

end Transformer

namespace SmolVLA

def plan (tensors : List ModelTensor) : HeadPlan SmolVLAConfig :=
  match config tensors with
  | none => {}
  | some cfg =>
      { requests := List.replicate (2 * cfg.expertLayers + 1) cfg.expertWidth.toNat
        head := some cfg }

theorem demands_loadNorms (cfg : SmolVLAConfig) (more : Nat) :
    Demands (loadNorms cfg more)
      ((List.replicate (2 * more) cfg.expertWidth.toNat).map floats) true := by
  induction more with
  | zero => exact .pure _
  | succ more ih =>
      exact .bind (.span _ _) fun input => .bind (.span _ _) fun post => .ite ih (.pure _)

theorem demands_loadAllNorms (cfg : SmolVLAConfig) :
    Demands (loadAllNorms cfg)
      ((List.replicate (2 * cfg.expertLayers + 1) cfg.expertWidth.toNat).map floats) true := by
  refine (Demands.bind (demands_loadNorms cfg cfg.expertLayers) fun loaded =>
    .ite (.span _ _) (.pure _)).of_eq ?_ rfl
  rw [List.replicate_succ', List.map_append]
  rfl

theorem demands_construct (tensors : List ModelTensor) :
    Demands (construct tensors) ((plan tensors).requests.map floats) (plan tensors).head := by
  rw [construct, plan]
  cases config tensors with
  | none => exact .pure _
  | some cfg => exact .orReset (demands_loadAllNorms cfg) _

end SmolVLA

namespace FlowHead

def plan (tensors : List ModelTensor) : HeadPlan FlowConfig :=
  match config tensors with
  | none => {}
  | some cfg => { requests := [frequencyFloats cfg], head := some cfg }

theorem demands_construct (tensors : List ModelTensor) :
    Demands (construct tensors) ((plan tensors).requests.map floats) (plan tensors).head := by
  rw [construct, plan]
  cases config tensors with
  | none => exact .pure _
  | some cfg => exact .bind (.span _ _) fun given => .ite (.pure _) (.pure _)

end FlowHead

namespace Diffusion

/-- The copies of the kernels on the way up, and whether the loop comes to its end. -/
def upPlan (tensors : List ModelTensor) (cfg : DiffusionConfig) : List Nat → Nat → List Nat × Bool
  | high :: low :: rest, stage =>
      if ¬ (loadResidual tensors cfg (.up stage 0) (2 * high) low ∧
          loadResidual tensors cfg (.up stage 1) low low ∧
          loadConv tensors (.upsample stage) low low 4) then
        ([], false)
      else
        let others := upPlan tensors cfg (low :: rest) (stage + 1)
        (low * low * 4 :: others.1, others.2)
  | _, _ => ([], true)

def plan (tensors : List ModelTensor) : HeadPlan DiffusionHead :=
  match config tensors with
  | none => {}
  | some cfg =>
      if ¬ (actionRange tensors cfg ∧
          loadLinear tensors .te1 (cfg.timestepDim * 4) cfg.timestepDim ∧
          loadLinear tensors .te2 cfg.timestepDim (cfg.timestepDim * 4) ∧
          loadDown tensors cfg cfg.dims 0 cfg.actionDim ∧ loadMiddle tensors cfg) then
        {}
      else
        let up := upPlan tensors cfg cfg.dims.reverse 0
        if up.2 then
          if ¬ loadFinal tensors cfg then { requests := up.1 }
          else
            let workspaceFloats := requiredWorkspaceFloats tensors
            { requests := up.1 ++ [cfg.trainTimesteps]
              head :=
                if workspaceFloats ≠ 0 then some { config := cfg, workspaceFloats } else none }
        else { requests := up.1 }

theorem demands_loadUp (tensors : List ModelTensor) (cfg : DiffusionConfig) (dims : List Nat)
    (stage : Nat) :
    Demands (loadUp tensors cfg dims stage) ((upPlan tensors cfg dims stage).1.map floats)
      (upPlan tensors cfg dims stage).2 := by
  induction dims generalizing stage with
  | nil => exact .pure _
  | cons high dims ih =>
      cases dims with
      | nil => exact .pure _
      | cons low rest =>
          rw [loadUp, upPlan]
          split
          · exact .pure _
          · exact .bind (.span _ _) fun given => .ite (ih _) (.pure _)

theorem demands_construct (tensors : List ModelTensor) :
    Demands (construct tensors) ((plan tensors).requests.map floats) (plan tensors).head := by
  rw [construct, plan]
  cases config tensors with
  | none => exact .pure _
  | some cfg =>
      dsimp only
      split
      · exact .pure _
      refine (Demands.bind (demands_loadUp tensors cfg cfg.dims.reverse 0) fun loaded =>
        .ite (.ite (.pure _) (.bind (.span _ _) fun given => .ite (.pure _) (.pure _)))
          (.pure _)).of_eq ?_ ?_
      · cases upPlan tensors cfg cfg.dims.reverse 0 with
        | mk requests complete => cases complete <;> cases loadFinal tensors cfg <;> simp
      · cases upPlan tensors cfg cfg.dims.reverse 0 with
        | mk requests complete => cases complete <;> cases loadFinal tensors cfg <;> rfl

end Diffusion

/-! ## The runtime -/

namespace EngineRuntime

theorem demands_requestAll (wanted : List Request) : Demands (requestAll wanted) wanted true := by
  induction wanted with
  | nil => exact .pure _
  | cons first rest ih =>
      refine (Demands.bind (.request _ _) fun given => .bind ih fun others => .pure _).of_eq ?_ rfl
      rw [List.append_nil, List.singleton_append]

section Construct

variable (platform : Platform) (tensors : List ModelTensor) (threads : Nat)

theorem demands_constructPool :
    Demands (constructPool platform threads)
      (if threads > 0 then poolRequests platform threads else []) true := by
  refine (Demands.ite (demands_requestAll _) (.pure _)).of_eq rfl ?_
  split <;> rfl

theorem demands_optionalSpan (count : Option Nat) :
    Demands (optionalSpan count) (count.toList.map floats) count.isSome := by
  cases count with
  | none => exact .pure _
  | some count => exact .span _ _

/-- What the constructor asks for, in order. -/
def constructionRequests : List Request :=
  (Mamba.plan tensors).requests.map floats ++ (SmolVLA.plan tensors).requests.map floats ++
    (Transformer.plan tensors).requests.map floats ++ (FlowHead.plan tensors).requests.map floats ++
    (Diffusion.plan tensors).requests.map floats ++
    (if threads > 0 then poolRequests platform threads else []) ++
    ((Mamba.plan tensors).head.map Mamba.stateSize).toList.map floats ++
    ((FlowHead.plan tensors).head.map FlowHead.samplerWorkspaceSize).toList.map floats ++
    ((Diffusion.plan tensors).head.map (·.workspaceFloats)).toList.map floats

/-- The runtime that the constructor makes if it gets what it asks for. -/
def constructed : EngineRuntime where
  mamba := (Mamba.plan tensors).head
  smolvla := (SmolVLA.plan tensors).head
  transformer := (Transformer.plan tensors).head
  flow := (FlowHead.plan tensors).head
  diffusion := (Diffusion.plan tensors).head
  decodeState := (Mamba.plan tensors).head.isSome
  flowWorkspace := (FlowHead.plan tensors).head.isSome
  diffusionWorkspace := (Diffusion.plan tensors).head.isSome
  ready := (Mamba.plan tensors).head.isSome || (SmolVLA.plan tensors).head.isSome ||
    (Transformer.plan tensors).head.isSome || (FlowHead.plan tensors).head.isSome ||
    (Diffusion.plan tensors).head.isSome

theorem demands_construct :
    Demands (construct platform tensors threads)
      (constructionRequests platform tensors threads) (constructed tensors) := by
  refine (Demands.bind (Mamba.demands_construct tensors) fun mamba =>
    .bind (SmolVLA.demands_construct tensors) fun smolvla =>
    .bind (Transformer.demands_construct tensors) fun transformer =>
    .bind (FlowHead.demands_construct tensors) fun flow =>
    .bind (Diffusion.demands_construct tensors) fun diffusion =>
    .bind (demands_constructPool platform threads) fun pool =>
    .ite (.pure _) <|
      .bind (demands_optionalSpan _) fun decodeState =>
      .bind (demands_optionalSpan _) fun flowWorkspace =>
      .bind (demands_optionalSpan _) fun diffusionWorkspace =>
      .ite (.pure _) (.ite (.pure _) (.ite (.pure _) (.pure _)))).of_eq ?_ ?_
  · simp [constructionRequests]
  · have given : ∀ {α : Type} (head : Option α), ¬ (head.isSome = true ∧ head = none) := by
      rintro α head ⟨isSome, rfl⟩
      cases isSome
    simp [constructed, given]

end Construct

end EngineRuntime

end FlowEdge
