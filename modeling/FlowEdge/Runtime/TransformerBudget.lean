import Mathlib.Algebra.Order.Ring.Unbundled.Rat
import FlowEdge.Runtime.PrefillBudget

/-!
# The memory of a Transformer

The slab that `required_slab_bytes` asks for is not enough for every Transformer: `sample` keeps
the hidden states of the whole prefix, which the estimate leaves out, and the caches of many small
layers are rounded up by more than it allows for. A runtime is built and used without a failed
allocation just if what its constructor asks for and the largest call behind it fit into the slab.
-/

namespace FlowEdge

/-! ## Decoding -/

namespace Transformer

/-- What the limits of a configuration make sure of. -/
structure Bounded (cfg : TransformerConfig) : Prop where
  vocab : 0 < cfg.vocab
  dModel : 0 < cfg.dModel
  dModel_le : cfg.dModel ≤ 16384
  nLayers : 0 < cfg.nLayers
  maxSequence : 0 < cfg.maxSequence
  maxSequence_le : cfg.maxSequence ≤ 4096

theorem configValue_pos {value : ConfigFloat} {count : Nat}
    (whole : configValue value = some count) : 0 < count := by
  cases value with
  | other => cases whole
  | finite value =>
      rw [configValue] at whole
      split at whole
      · cases whole
      · next range =>
          cases whole
          simp only [not_or, not_not] at range
          have least : 1 ≤ value := Rat.not_lt.mp range.1
          have positive : 0 < value.num := Rat.num_pos.mpr (lt_of_lt_of_le rfl least)
          omega

theorem bounded_of_config {tensors : List ModelTensor} {cfg : TransformerConfig}
    (configured : config tensors = some cfg) : Bounded cfg := by
  simp only [config, Option.bind_eq_bind, Option.bind_eq_some_iff, Option.ite_none_left_eq_some,
    not_or, not_lt] at configured
  obtain ⟨tensor, -, -, vocab, isVocab, dModel, isModel, nLayers, isLayers, nHeads, -, maxSequence,
    isSequence, mlpDim, -, range, ⟨⟩⟩ := configured
  exact ⟨configValue_pos isVocab, configValue_pos isModel, range.2.1, configValue_pos isLayers,
    configValue_pos isSequence, range.2.2.2.2.1⟩

/-- The spans of a token at the last position. -/
def peakBuffers (cfg : TransformerConfig) : List Nat :=
  embeddingBuffers cfg ++ layerBuffers cfg (cfg.maxSequence - 1)

variable {cfg : TransformerConfig} {state : ScratchState}

theorem layerBuffers_within {first last : Nat} (ordered : first ≤ last) :
    List.SublistForall₂ Request.Within ((layerBuffers cfg first).map floats)
      ((layerBuffers cfg last).map floats) := by
  have same : ∀ count, (floats count).Within (floats count) :=
    fun _ => floats_within (Nat.le_refl _)
  exact .cons (same _) (.cons (same _) (.cons (same _) (.cons (same _) (.cons (same _)
    (.cons (same _) (.cons (floats_within (Nat.succ_le_succ ordered)) .nil))))))

/-- A position before the last takes no more than the last. -/
theorem extent_position_le {position : Nat} (notFull : position < cfg.maxSequence) (cursor : Nat) :
    extent cursor ((embeddingBuffers cfg ++ layerBuffers cfg position).map floats) ≤
      extent cursor ((peakBuffers cfg).map floats) := by
  rw [peakBuffers, List.map_append, List.map_append, extent_append, extent_append]
  exact extent_mono (layerBuffers_within (by omega)) (Nat.le_refl _)

theorem decodeLayer_fits (addressed : state.arena.Addressed)
    (fits : extent state.arena.cursor ((layerBuffers cfg state.position).map floats) ≤
      state.arena.limit) :
    decodeLayer cfg state = (true, state) := by
  have result : (do
      let position := (← get).position
      spans .transformer (layerBuffers cfg position) : ScratchM Bool) state =
      (true,
        state.at (extent state.arena.cursor ((layerBuffers cfg state.position).map floats))) := by
    rw [bind_eq (rfl : (get : ScratchM ScratchState) state = (state, state))]
    exact spans_fits addressed .transformer fits
  exact marked_eq result

theorem decodeLayers_fits (addressed : state.arena.Addressed)
    (fits : extent state.arena.cursor ((layerBuffers cfg state.position).map floats) ≤
      state.arena.limit) (count : Nat) :
    decodeLayers cfg count state = (true, state) := by
  induction count with
  | zero => rfl
  | succ count ih => rw [decodeLayers, bind_eq (decodeLayer_fits addressed fits), if_pos rfl, ih]

theorem decodeLayer_fails (addressed : state.arena.Addressed)
    (inside : state.arena.cursor ≤ state.arena.limit)
    (exceeds : state.arena.limit <
      extent state.arena.cursor ((layerBuffers cfg state.position).map floats)) :
    AllocationSite.transformer ∈ (decodeLayer cfg state).2.failures :=
  (spans_fails addressed .transformer exceeds inside).2

theorem decodeLayers_fails (addressed : state.arena.Addressed)
    (inside : state.arena.cursor ≤ state.arena.limit)
    (exceeds : state.arena.limit <
      extent state.arena.cursor ((layerBuffers cfg state.position).map floats))
    {count : Nat} (positive : 0 < count) :
    AllocationSite.transformer ∈ (decodeLayers cfg count state).2.failures := by
  cases count with
  | zero => cases positive
  | succ count =>
      exact Behaves.bind_failure [.transformer]
        (fun _ => .ite (behaves_decodeLayers cfg count) (.pure false))
        (decodeLayer_fails addressed inside exceeds)

theorem decodeEmbedding_fits (addressed : state.arena.Addressed)
    (notFull : state.position < cfg.maxSequence)
    (fits : extent state.arena.cursor
      ((embeddingBuffers cfg ++ layerBuffers cfg state.position).map floats) ≤
        state.arena.limit) :
    decodeEmbedding cfg state = (true, { state with position := state.position + 1 }) := by
  rw [List.map_append, extent_append] at fits
  have embedding := spans_fits addressed .transformer (Nat.le_trans (le_extent _ _) fits)
  have later := le_extent state.arena.cursor ((embeddingBuffers cfg).map floats)
  generalize extent state.arena.cursor ((embeddingBuffers cfg).map floats) = mark at *
  have layers : decodeLayers cfg cfg.nLayers (state.at mark) = (true, state.at mark) :=
    decodeLayers_fits (state.addressed_at addressed later) fits cfg.nLayers
  have decoded : (do
      if ← spans .transformer (embeddingBuffers cfg) then decodeLayers cfg cfg.nLayers
      else return false : ScratchM Bool) state = (true, state.at mark) := by
    rw [bind_eq embedding, if_pos rfl, layers]
  rw [decodeEmbedding, bind_eq (rfl : (get : ScratchM ScratchState) state = (state, state)),
    if_neg (Nat.not_le.mpr notFull), bind_eq (marked_eq decoded), if_pos rfl]
  rfl

theorem decodeEmbedding_fails (bounded : Bounded cfg) (addressed : state.arena.Addressed)
    (inside : state.arena.cursor ≤ state.arena.limit) (notFull : state.position < cfg.maxSequence)
    (exceeds : state.arena.limit < extent state.arena.cursor
      ((embeddingBuffers cfg ++ layerBuffers cfg state.position).map floats)) :
    AllocationSite.transformer ∈ (decodeEmbedding cfg state).2.failures := by
  rw [List.map_append, extent_append] at exceeds
  have failed : AllocationSite.transformer ∈ ((do
      if ← spans .transformer (embeddingBuffers cfg) then decodeLayers cfg cfg.nLayers
      else return false : ScratchM Bool) state).2.failures := by
    by_cases embedding : extent state.arena.cursor ((embeddingBuffers cfg).map floats) ≤
        state.arena.limit
    · rw [bind_eq (spans_fits addressed .transformer embedding), if_pos rfl]
      have later := le_extent state.arena.cursor ((embeddingBuffers cfg).map floats)
      generalize extent state.arena.cursor ((embeddingBuffers cfg).map floats) = mark at *
      have memory := state.addressed_at addressed later
      exact decodeLayers_fails memory embedding exceeds bounded.nLayers
    · obtain ⟨refused, noted⟩ :=
        spans_fails addressed .transformer (Nat.not_le.mp embedding) inside
      rw [bind_eq (Prod.ext refused rfl), if_neg Bool.false_ne_true]
      exact noted
  rw [decodeEmbedding, bind_eq (rfl : (get : ScratchM ScratchState) state = (state, state)),
    if_neg (Nat.not_le.mpr notFull)]
  refine Behaves.bind_failure [.transformer] (fun _ => .ite (.bind ?_ fun _ => .pure true)
    (.pure false)) failed
  exact fun _ => ⟨rfl, [], (List.append_nil _).symm, by simp⟩

/-- Tokens of the vocabulary. -/
def Known (cfg : TransformerConfig) (token : Int) : Prop := 0 ≤ token ∧ token < cfg.vocab

theorem decodeToken_eq {token : Int} (known : Known cfg token) :
    decodeToken cfg token = decodeEmbedding cfg := by
  rw [decodeToken, if_neg]
  rintro (negative | large)
  · exact absurd known.1 (Int.not_le.mpr negative)
  · exact absurd known.2 (Int.not_lt.mpr large)

variable {tokens : List Int}

theorem decodeTokens_fits (addressed : state.arena.Addressed)
    (known : ∀ token ∈ tokens, Known cfg token)
    (notFull : state.position + tokens.length ≤ cfg.maxSequence)
    (fits : extent state.arena.cursor ((peakBuffers cfg).map floats) ≤ state.arena.limit) :
    decodeTokens cfg tokens state =
      (true, { state with position := state.position + tokens.length }) := by
  induction tokens generalizing state with
  | nil => rfl
  | cons token rest ih =>
      obtain ⟨first, others⟩ := List.forall_mem_cons.mp known
      rw [List.length_cons] at notFull
      have decoded := decodeEmbedding_fits addressed (by omega)
        (Nat.le_trans (extent_position_le (by omega) _) fits)
      let next : ScratchState := { state with position := state.position + 1 }
      have memory : next.arena.Addressed := addressed
      have further : next.position + rest.length ≤ cfg.maxSequence := by
        change state.position + 1 + rest.length ≤ cfg.maxSequence
        omega
      rw [decodeTokens, decodeToken_eq first, bind_eq decoded, if_pos rfl,
        ih memory others further fits]
      simp only [next, List.length_cons, Nat.add_assoc, Nat.add_comm 1]

/-- Tokens that fill the cache come to a position without room. -/
theorem decodeTokens_fails (bounded : Bounded cfg) (addressed : state.arena.Addressed)
    (inside : state.arena.cursor ≤ state.arena.limit) (known : ∀ token ∈ tokens, Known cfg token)
    (nonempty : tokens ≠ []) (full : state.position + tokens.length = cfg.maxSequence)
    (exceeds : state.arena.limit < extent state.arena.cursor ((peakBuffers cfg).map floats)) :
    AllocationSite.transformer ∈ (decodeTokens cfg tokens state).2.failures := by
  induction tokens generalizing state with
  | nil => exact absurd rfl nonempty
  | cons token rest ih =>
      obtain ⟨first, others⟩ := List.forall_mem_cons.mp known
      rw [List.length_cons] at full
      rw [decodeTokens, decodeToken_eq first]
      by_cases fits : extent state.arena.cursor
          ((embeddingBuffers cfg ++ layerBuffers cfg state.position).map floats) ≤
            state.arena.limit
      · rw [bind_eq (decodeEmbedding_fits addressed (by omega) fits), if_pos rfl]
        refine ih addressed inside others ?_ (by dsimp only; omega) exceeds
        -- At the last position what fits is the peak itself.
        rintro rfl
        have last : state.position = cfg.maxSequence - 1 := by
          rw [List.length_nil] at full
          omega
        rw [last] at fits
        exact absurd fits (Nat.not_le.mpr exceeds)
      · have failed := decodeEmbedding_fails bounded addressed inside (by omega)
          (Nat.not_le.mp fits)
        exact Behaves.bind_failure [.transformer]
          (fun _ => .ite (behaves_decodeTokens cfg rest) (.pure false)) failed

theorem forwardTokens_eq (nonempty : tokens ≠ []) (short : tokens.length ≤ cfg.maxSequence) :
    forwardTokens cfg tokens state = decodeTokens cfg tokens { state with position := 0 } := by
  rw [forwardTokens, if_neg]
  · rfl
  · rintro (empty | long)
    · exact nonempty empty
    · exact absurd short (Nat.not_le.mpr long)

theorem forwardTokens_fits (addressed : state.arena.Addressed)
    (known : ∀ token ∈ tokens, Known cfg token) (nonempty : tokens ≠ [])
    (short : tokens.length ≤ cfg.maxSequence)
    (fits : extent state.arena.cursor ((peakBuffers cfg).map floats) ≤ state.arena.limit) :
    forwardTokens cfg tokens state = (true, { state with position := tokens.length }) := by
  have start : ({ state with position := 0 } : ScratchState).arena.Addressed := addressed
  rw [forwardTokens_eq nonempty short, decodeTokens_fits start known (by simpa using short) fits]
  simp

theorem forwardTokens_fails (bounded : Bounded cfg) (addressed : state.arena.Addressed)
    (inside : state.arena.cursor ≤ state.arena.limit)
    (exceeds : state.arena.limit < extent state.arena.cursor ((peakBuffers cfg).map floats)) :
    AllocationSite.transformer ∈
      (forwardTokens cfg (List.replicate cfg.maxSequence 0) state).2.failures := by
  have start : ({ state with position := 0 } : ScratchState).arena.Addressed := addressed
  have nonempty : List.replicate cfg.maxSequence (0 : Int) ≠ [] :=
    List.ne_nil_of_length_pos (by rw [List.length_replicate]; exact bounded.maxSequence)
  rw [forwardTokens_eq nonempty (Nat.le_of_eq List.length_replicate)]
  refine decodeTokens_fails bounded start inside ?_ nonempty (by simp) exceeds
  intro token member
  rw [List.eq_of_mem_replicate member]
  exact ⟨Int.le_refl 0, Int.natCast_pos.mpr bounded.vocab⟩

end Transformer

/-! ## Calls -/

namespace EngineRuntime

variable {engine : EngineRuntime} {cfg : TransformerConfig}

/-- Calls with tokens of the vocabulary, and with as many as the cache holds. -/
def Call.Valid (cfg : TransformerConfig) : Call → Prop
  | .run tokens => tokens.length ∈ Set.Icc 1 cfg.maxSequence ∧
      ∀ token ∈ tokens, Transformer.Known cfg token
  | .sample tokens _ _ => tokens.length ∈ Set.Icc 1 cfg.maxSequence ∧
      ∀ token ∈ tokens, Transformer.Known cfg token
  | .step token => Transformer.Known cfg token
  | .reset => True

/-- The spans that are held at a time in the largest calls. -/
def callPeaks (engine : EngineRuntime) (cfg : TransformerConfig) : List (List Nat) :=
  match engine.flow with
  | none => [Transformer.peakBuffers cfg]
  | some flow =>
      if flow.condDim.toNat = cfg.dModel then
        [ cfg.maxSequence * cfg.dModel :: Transformer.peakBuffers cfg,
          cfg.maxSequence * cfg.dModel :: FlowHead.velocityBuffers flow ]
      else [Transformer.peakBuffers cfg]

/-- The backbone of a runtime is a Transformer, and its flow head has its workspace. -/
structure RunsTransformer (engine : EngineRuntime) (cfg : TransformerConfig) : Prop where
  isTransformer : engine.transformer = some cfg
  bounded : Transformer.Bounded cfg
  workspace : engine.flow.isSome = true → engine.flowWorkspace = true

namespace RunsTransformer

variable (runs : engine.RunsTransformer cfg) {tokens : List Int} {state : ScratchState}

/-- There is room for the largest calls. -/
def Room (engine : EngineRuntime) (cfg : TransformerConfig) (arena : Arena) : Prop :=
  ∀ peak ∈ engine.callPeaks cfg, extent arena.cursor (peak.map floats) ≤ arena.limit

theorem peak_of_room {arena : Arena} (room : Room engine cfg arena) :
    extent arena.cursor ((Transformer.peakBuffers cfg).map floats) ≤ arena.limit := by
  rw [Room, callPeaks] at room
  cases hasFlow : engine.flow with
  | none =>
      rw [hasFlow] at room
      exact room _ List.mem_cons_self
  | some flow =>
      rw [hasFlow] at room
      dsimp only at room
      split at room
      · have first := room _ List.mem_cons_self
        rw [List.map_cons, extent_cons] at first
        exact Nat.le_trans (extent_le_extent (le_place _ _) _) first
      · exact room _ List.mem_cons_self

include runs

theorem dModel_eq : engine.dModel = cfg.dModel := by
  rw [dModel, runs.isTransformer]

theorem hasBackbone_eq : engine.hasBackbone = true := by
  rw [hasBackbone, runs.isTransformer, Option.isSome_some, Bool.or_true]

theorem prefixLimit_eq : engine.prefixLimit = cfg.maxSequence := by
  rw [prefixLimit, runs.isTransformer]

theorem runBackbone_eq (valid : tokens.length ∈ Set.Icc 1 cfg.maxSequence) :
    engine.runBackbone tokens =
      (do return if ← Transformer.forwardTokens cfg tokens then 0 else 3) := by
  have whole : tokens.length ≤ maxSize / cfg.dModel := by
    refine (Nat.le_div_iff_mul_le runs.bounded.dModel).mpr ?_
    calc tokens.length * cfg.dModel
        ≤ 4096 * 16384 := Nat.mul_le_mul (Nat.le_trans valid.2 runs.bounded.maxSequence_le)
            runs.bounded.dModel_le
      _ ≤ maxSize := by decide
  have checked : ¬ (tokens.length = 0 ∨ tokens.length > cfg.maxSequence ∨
      tokens.length > maxSize / cfg.dModel) := by
    have first := valid.1
    have last := valid.2
    omega
  rw [runBackbone, runs.hasBackbone_eq, runs.prefixLimit_eq, runs.dModel_eq, if_neg (by simp),
    if_neg checked, runs.isTransformer]

theorem runBackbone_fits (addressed : state.arena.Addressed)
    (fits : extent state.arena.cursor ((Transformer.peakBuffers cfg).map floats) ≤
      state.arena.limit) (valid : tokens.length ∈ Set.Icc 1 cfg.maxSequence)
    (known : ∀ token ∈ tokens, Transformer.Known cfg token) :
    engine.runBackbone tokens state = (0, { state with position := tokens.length }) := by
  have nonempty : tokens ≠ [] := List.ne_nil_of_length_pos valid.1
  have forward := Transformer.forwardTokens_fits addressed known nonempty valid.2 fits
  rw [runs.runBackbone_eq valid, bind_eq forward]
  rfl

theorem runBackbone_fails (addressed : state.arena.Addressed)
    (inside : state.arena.cursor ≤ state.arena.limit)
    (exceeds : state.arena.limit <
      extent state.arena.cursor ((Transformer.peakBuffers cfg).map floats)) :
    AllocationSite.transformer ∈
      (engine.runBackbone (List.replicate cfg.maxSequence 0) state).2.failures := by
  have valid : (List.replicate cfg.maxSequence (0 : Int)).length ∈ Set.Icc 1 cfg.maxSequence := by
    rw [List.length_replicate]
    exact ⟨runs.bounded.maxSequence, Nat.le_refl _⟩
  rw [runs.runBackbone_eq valid, bind_pure_state]
  exact Transformer.forwardTokens_fails runs.bounded addressed inside exceeds

theorem step_fits (addressed : state.arena.Addressed) (room : Room engine cfg state.arena)
    {token : Int} (known : Transformer.Known cfg token) :
    (engine.step token state).2.arena = state.arena ∧
      (engine.step token state).2.failures = state.failures := by
  rw [step, runs.isTransformer]
  rw [bind_pure_state, Transformer.decodeToken_eq known]
  by_cases notFull : state.position < cfg.maxSequence
  · have fits := Nat.le_trans (Transformer.extent_position_le notFull _) (peak_of_room room)
    rw [Transformer.decodeEmbedding_fits addressed notFull fits]
    exact ⟨rfl, rfl⟩
  · rw [Transformer.decodeEmbedding,
      bind_eq (rfl : (get : ScratchM ScratchState) state = (state, state)),
      if_pos (Nat.not_lt.mp notFull)]
    exact ⟨rfl, rfl⟩

variable {flow : FlowConfig}

omit runs in
theorem solve_fits (addressed : state.arena.Addressed)
    (fits : extent state.arena.cursor ((FlowHead.velocityBuffers flow).map floats) ≤
      state.arena.limit) (steps : Nat) (method : FlowMethod) :
    (engine.solve flow steps method state).2 = state := by
  have velocity : FlowHead.velocity flow state = ((), state) := borrow_fits addressed .head fits
  have advance : FlowHead.samplerAdvance flow steps method state = ((), state) :=
    repeatM_eq (repeatM_eq velocity _) _
  rw [solve]
  split
  · rfl
  split
  · rfl
  rw [bind_eq advance]
  rfl

omit runs in
theorem solve_fails (addressed : state.arena.Addressed)
    (inside : state.arena.cursor ≤ state.arena.limit) (workspace : engine.flowWorkspace = true)
    (exceeds : state.arena.limit <
      extent state.arena.cursor ((FlowHead.velocityBuffers flow).map floats)) :
    AllocationSite.head ∈ (engine.solve flow 1 .euler state).2.failures := by
  have behaves : Behaves [.head] (FlowHead.velocity flow) := .borrow (by decide) _
  have failed : AllocationSite.head ∈ (FlowHead.velocity flow state).2.failures := by
    rw [FlowHead.velocity]
    exact borrow_fails addressed .head inside exceeds
  rw [solve, if_neg (by simp [workspace]), if_neg (by decide), bind_pure_state,
    FlowHead.samplerAdvance]
  exact (behaves.repeatM _).repeatM_failure (by decide)
    (behaves.repeatM_failure (by decide) failed)

theorem sample_eq (hasFlow : engine.flow = some flow) (compatible : flow.condDim.toNat = cfg.dModel)
    (valid : tokens.length ∈ Set.Icc 1 cfg.maxSequence) (steps : Nat) (method : FlowMethod) :
    engine.sample tokens steps method =
      marked (engine.sampleMarked flow tokens steps method) := by
  have matching : engine.hasCompatibleFlowHead = true := by
    rw [hasCompatibleFlowHead, hasFlow]
    simp [runs.dModel_eq, compatible]
  have checked : ¬ (tokens.length = 0 ∨ tokens.length > cfg.maxSequence) := by
    have first := valid.1
    have last := valid.2
    omega
  rw [sample, hasFlow]
  dsimp only
  rw [if_neg (by simp [runs.hasBackbone_eq]), if_neg (by simp [matching]), runs.prefixLimit_eq,
    if_neg checked]

theorem sample_rejects (hasFlow : engine.flow = some flow)
    (incompatible : flow.condDim.toNat ≠ cfg.dModel) (steps : Nat) (method : FlowMethod) :
    engine.sample tokens steps method = pure 4 := by
  have matching : engine.hasCompatibleFlowHead = false := by
    rw [hasCompatibleFlowHead, hasFlow]
    simp [runs.dModel_eq, runs.hasBackbone_eq, incompatible]
  rw [sample, hasFlow]
  dsimp only
  rw [if_neg (by simp [runs.hasBackbone_eq]), if_pos (by simp [matching])]

/-- `sample` behind its span, if there is room for the backbone behind it. -/
theorem sampleMarked_eq (flow : FlowConfig) (addressed : state.arena.Addressed)
    (fits : extent (place state.arena.cursor (floats (tokens.length * cfg.dModel)))
      ((Transformer.peakBuffers cfg).map floats) ≤ state.arena.limit)
    (valid : tokens.length ∈ Set.Icc 1 cfg.maxSequence)
    (known : ∀ token ∈ tokens, Transformer.Known cfg token) (steps : Nat) (method : FlowMethod) :
    engine.sampleMarked flow tokens steps method state =
      engine.solve flow steps method
        { state.at (place state.arena.cursor (floats (tokens.length * cfg.dModel))) with
          position := tokens.length } := by
  have given := span_fits addressed .call (Nat.le_trans (le_extent _ _) fits)
  have later := le_place state.arena.cursor (floats (tokens.length * cfg.dModel))
  generalize place state.arena.cursor (floats (tokens.length * cfg.dModel)) = mark at *
  have forward := runs.runBackbone_fits (state.addressed_at addressed later) fits valid known
  rw [sampleMarked, runs.dModel_eq, bind_eq given, if_pos rfl, bind_eq forward]
  rfl

theorem sample_fits (addressed : state.arena.Addressed) (room : Room engine cfg state.arena)
    (valid : tokens.length ∈ Set.Icc 1 cfg.maxSequence)
    (known : ∀ token ∈ tokens, Transformer.Known cfg token) (steps : Nat) (method : FlowMethod) :
    (engine.sample tokens steps method state).2.arena = state.arena ∧
      (engine.sample tokens steps method state).2.failures = state.failures := by
  cases hasFlow : engine.flow with
  | none =>
      rw [sample, hasFlow]
      exact ⟨rfl, rfl⟩
  | some flow =>
      by_cases compatible : flow.condDim.toNat = cfg.dModel
      · rw [Room, callPeaks, hasFlow] at room
        dsimp only at room
        rw [if_pos compatible] at room
        have decoding := room _ List.mem_cons_self
        have solving := room _ (List.mem_cons_of_mem _ List.mem_cons_self)
        rw [List.map_cons, extent_cons] at decoding solving
        have hidden : (floats (tokens.length * cfg.dModel)).Within
            (floats (cfg.maxSequence * cfg.dModel)) :=
          floats_within (Nat.mul_le_mul_right _ valid.2)
        have earlier := place_mono hidden (Nat.le_refl state.arena.cursor)
        have backbone := Nat.le_trans (extent_le_extent earlier _) decoding
        have head := Nat.le_trans (extent_le_extent earlier _) solving
        have result := runs.sampleMarked_eq flow addressed backbone valid known steps method
        have later := le_place state.arena.cursor (floats (tokens.length * cfg.dModel))
        generalize place state.arena.cursor (floats (tokens.length * cfg.dModel)) = mark at *
        let held : ScratchState := { state.at mark with position := tokens.length }
        have memory : held.arena.Addressed := state.addressed_at addressed later
        have solved : (engine.solve flow steps method held).2 = held :=
          solve_fits memory head steps method
        rw [runs.sample_eq hasFlow compatible valid, marked_failures, result, solved]
        have behaves := behaves_sampleMarked flow tokens steps method
          (behaves_runBackbone_of_transformer runs.isTransformer tokens)
        exact ⟨marked_arena behaves, rfl⟩
      · rw [runs.sample_rejects hasFlow compatible]
        exact ⟨rfl, rfl⟩

/-- A call leaves the arena as it was and notes no failure. -/
theorem exec_fits (addressed : state.arena.Addressed) (room : Room engine cfg state.arena)
    {call : Call} (valid : call.Valid cfg) :
    (engine.exec call state).2.arena = state.arena ∧
      (engine.exec call state).2.failures = state.failures := by
  cases call with
  | run tokens =>
      have fits := runs.runBackbone_fits addressed (peak_of_room room) valid.1 valid.2
      have behaves := behaves_runBackbone_of_transformer runs.isTransformer tokens
      rw [exec, bind_pure_state, run, marked_arena behaves, marked_failures, fits]
      exact ⟨rfl, rfl⟩
  | step =>
      rw [exec, bind_pure_state]
      exact runs.step_fits addressed room valid
  | sample tokens steps method =>
      rw [exec, bind_pure_state]
      exact runs.sample_fits addressed room valid.1 valid.2 steps method
  | reset =>
      rw [exec, reset, runs.isTransformer]
      exact ⟨rfl, rfl⟩

/-- No allocation fails in any sequence of calls. -/
theorem execAll_fits (addressed : state.arena.Addressed) (room : Room engine cfg state.arena)
    {calls : List Call} (valid : ∀ call ∈ calls, call.Valid cfg) :
    (engine.execAll calls state).2.failures = state.failures := by
  induction calls generalizing state with
  | nil => rfl
  | cons call rest ih =>
      obtain ⟨first, others⟩ := List.forall_mem_cons.mp valid
      obtain ⟨arena, kept⟩ := runs.exec_fits addressed room first
      have memory : (engine.exec call state).2.arena.Addressed := arena ▸ addressed
      have further := ih memory (arena ▸ room) others
      rw [execAll, ← kept]
      exact further

theorem valid_zeros : (List.replicate cfg.maxSequence (0 : Int)).length ∈
    Set.Icc 1 cfg.maxSequence ∧
    ∀ token ∈ List.replicate cfg.maxSequence (0 : Int), Transformer.Known cfg token := by
  refine ⟨?_, fun token member => ?_⟩
  · rw [List.length_replicate]
    exact ⟨runs.bounded.maxSequence, Nat.le_refl _⟩
  · rw [List.eq_of_mem_replicate member]
    exact ⟨Int.le_refl 0, Int.natCast_pos.mpr runs.bounded.vocab⟩

/-- `sample` with as many tokens as the cache holds notes a failure if one of its peaks does not
fit. -/
theorem sample_fails (addressed : state.arena.Addressed) (hasFlow : engine.flow = some flow)
    (compatible : flow.condDim.toNat = cfg.dModel) (exceeds : ¬ Room engine cfg state.arena) :
    (engine.sample (List.replicate cfg.maxSequence 0) 1 .euler state).2.failures ≠ [] := by
  obtain ⟨valid, known⟩ := runs.valid_zeros
  have length : (List.replicate cfg.maxSequence (0 : Int)).length = cfg.maxSequence :=
    List.length_replicate
  rw [runs.sample_eq hasFlow compatible valid, marked_failures]
  by_cases hidden : place state.arena.cursor (floats (cfg.maxSequence * cfg.dModel)) ≤
      state.arena.limit
  · have later := le_place state.arena.cursor (floats (cfg.maxSequence * cfg.dModel))
    have memory := state.addressed_at addressed later
    by_cases backbone : extent (place state.arena.cursor (floats (cfg.maxSequence * cfg.dModel)))
        ((Transformer.peakBuffers cfg).map floats) ≤ state.arena.limit
    · -- The backbone is served, so that it is the flow head for which there is no room.
      have result := runs.sampleMarked_eq flow addressed (by rwa [length]) valid known 1 .euler
      have head : state.arena.limit <
          extent (place state.arena.cursor (floats (cfg.maxSequence * cfg.dModel)))
            ((FlowHead.velocityBuffers flow).map floats) := by
        refine Nat.not_le.mp fun fits => exceeds ?_
        rw [Room, callPeaks, hasFlow]
        dsimp only
        rw [if_pos compatible]
        simp only [List.forall_mem_cons, List.map_cons, extent_cons]
        exact ⟨backbone, fits, by simp⟩
      rw [result, length]
      have workspace := runs.workspace (by rw [hasFlow]; rfl)
      generalize place state.arena.cursor (floats (cfg.maxSequence * cfg.dModel)) = mark at *
      let held : ScratchState := { state.at mark with position := cfg.maxSequence }
      have heldMemory : held.arena.Addressed := memory
      have failed := solve_fails heldMemory hidden workspace head
      exact List.ne_nil_of_mem failed
    · obtain ⟨rest, solves, result⟩ := sampleMarked_fits flow
        (List.replicate cfg.maxSequence 0) 1 .euler addressed (by rwa [length, runs.dModel_eq])
      have failed := runs.runBackbone_fails memory hidden (Nat.not_le.mp backbone)
      rw [result, length, runs.dModel_eq]
      exact List.ne_nil_of_mem (solves.keeps_failure failed)
  · rw [sampleMarked_fails flow _ 1 .euler addressed
      (by rw [length, runs.dModel_eq]; exact Nat.not_le.mp hidden)]
    exact List.append_ne_nil_of_right_ne_nil _ (List.cons_ne_nil _ _)

/-- If there is no room, there is a call in which an allocation fails. -/
theorem exec_fails (addressed : state.arena.Addressed)
    (inside : state.arena.cursor ≤ state.arena.limit) (exceeds : ¬ Room engine cfg state.arena) :
    ∃ call : Call, call.Valid cfg ∧ (engine.exec call state).2.failures ≠ [] := by
  have ran : state.arena.limit <
      extent state.arena.cursor ((Transformer.peakBuffers cfg).map floats) →
      ∃ call : Call, call.Valid cfg ∧ (engine.exec call state).2.failures ≠ [] := by
    intro peak
    have failed := runs.runBackbone_fails addressed inside peak
    exact ⟨.run _, runs.valid_zeros, List.ne_nil_of_mem failed⟩
  cases hasFlow : engine.flow with
  | none =>
      refine ran (Nat.not_le.mp fun fits => exceeds ?_)
      rw [Room, callPeaks, hasFlow]
      simpa using fits
  | some flow =>
      by_cases compatible : flow.condDim.toNat = cfg.dModel
      · exact ⟨.sample _ 1 .euler, runs.valid_zeros,
          runs.sample_fails addressed hasFlow compatible exceeds⟩
      · refine ran (Nat.not_le.mp fun fits => exceeds ?_)
        rw [Room, callPeaks, hasFlow]
        dsimp only
        rw [if_neg compatible]
        simpa using fits

end RunsTransformer

/-! ## The slab -/

section Built

variable (platform : Platform) (tensors : List ModelTensor)
  (threads base : Nat)

/-- A runtime with this Transformer is built, and neither its construction nor any valid calls come
to an allocation that fails. -/
structure TransformerServed (cfg : TransformerConfig) : Prop where
  ready : (build platform tensors threads base).1.ready = true
  transformer : (build platform tensors threads base).1.transformer = some cfg
  served : ∀ calls : List Call, (∀ call ∈ calls, call.Valid cfg) →
    ((build platform tensors threads base).1.execAll calls
      (build platform tensors threads base).2).2.failures = []

/-- The requests of the constructor and, behind them, the spans of the largest calls fit into the
slab. -/
def SlabHolds (cfg : TransformerConfig) : Prop :=
  ∀ peak ∈ (constructed tensors).callPeaks cfg,
    extent base (constructionRequests platform tensors threads ++ peak.map floats) ≤
      base + (requiredSlabBytes platform tensors).toNat

instance (cfg : TransformerConfig) :
    Decidable (SlabHolds platform tensors threads base cfg) :=
  inferInstanceAs (Decidable (∀ peak ∈ (constructed tensors).callPeaks cfg,
    extent base (constructionRequests platform tensors threads ++ peak.map floats) ≤
      base + (requiredSlabBytes platform tensors).toNat))

variable {platform tensors threads base} {cfg : TransformerConfig}

/-- The layers of a checkpoint that passes the checks are all loaded. -/
theorem layersPlan_eq (more index : Nat)
    (layers : ∀ layer < index + more, Transformer.wellFormedLayer tensors cfg layer = true) :
    (Transformer.layersPlan tensors cfg more index).2 = true := by
  induction more generalizing index with
  | zero => rfl
  | succ more ih =>
      rw [Transformer.layersPlan, if_neg (by simp [layers index (by omega)])]
      exact ih (index + 1) fun layer before => layers layer (by omega)

theorem plan_head (configured : Transformer.config tensors = some cfg)
    (embeddings : Transformer.wellFormed tensors cfg = true)
    (layers : ∀ layer < cfg.nLayers, Transformer.wellFormedLayer tensors cfg layer = true) :
    (Transformer.plan tensors).head = some cfg := by
  have loaded := layersPlan_eq cfg.nLayers 0 (by simpa using layers)
  rw [Transformer.plan, configured]
  dsimp only
  rw [if_neg (by simp [embeddings])]
  dsimp only
  rw [loaded, if_pos rfl]

/-- **The budget of a Transformer.** In a slab of the size that `required_slab_bytes` gives, a
runtime is built and used without a failed allocation just if the slab holds what the constructor
asks for and the largest calls behind it. -/
theorem transformer_served_iff (positive : 0 < base)
    (bounded : base + (requiredSlabBytes platform tensors).toNat < 2 ^ 64)
    (configured : Transformer.config tensors = some cfg)
    (embeddings : Transformer.wellFormed tensors cfg = true)
    (layers : ∀ layer < cfg.nLayers, Transformer.wellFormedLayer tensors cfg layer = true) :
    TransformerServed platform tensors threads base cfg ↔
      SlabHolds platform tensors threads base cfg := by
  have head := plan_head configured embeddings layers
  have demands := demands_construct platform tensors threads
  have runs : (constructed tensors).RunsTransformer cfg :=
    ⟨head, Transformer.bounded_of_config configured, fun hasFlow => hasFlow⟩
  let start : ScratchState :=
    { arena := { cursor := base
                 limit := base + (requiredSlabBytes platform tensors).toNat } }
  have memory : start.arena.Addressed := ⟨positive, bounded⟩
  have inside : start.arena.cursor ≤ start.arena.limit := Nat.le_add_right _ _
  by_cases built : extent base (constructionRequests platform tensors threads) ≤
      base + (requiredSlabBytes platform tensors).toNat
  · have result : build platform tensors threads base =
        (constructed tensors,
          start.at (extent base (constructionRequests platform tensors threads))) :=
      demands.fits start memory rfl built
    have later := le_extent base (constructionRequests platform tensors threads)
    simp only [SlabHolds, extent_append]
    generalize extent base (constructionRequests platform tensors threads) = mark at *
    have markMemory : (start.at mark).arena.Addressed := start.addressed_at memory later
    refine ⟨fun served => ?_, fun room => ⟨?_, ?_, fun calls valid => ?_⟩⟩
    · by_contra exceeds
      obtain ⟨call, valid, failed⟩ := runs.exec_fails markMemory built exceeds
      have clean := served.served [call] (by simpa using valid)
      rw [result, execAll_singleton] at clean
      exact failed clean
    · rw [result]
      simp [constructed, head]
    · rw [result]
      exact head
    · have clean := runs.execAll_fits markMemory room valid
      rw [result]
      exact clean
  · -- Behind requests that do not fit there is no room for the calls either.
    have failed : (build platform tensors threads base).2.failures ≠ [] :=
      demands.fails start memory rfl inside (Nat.not_le.mp built)
    refine iff_of_false (fun served => failed (served.served [] (by simp))) fun holds => built ?_
    simp only [SlabHolds, extent_append] at holds
    generalize extent base (constructionRequests platform tensors threads) = mark at *
    let arena : Arena :=
      { cursor := mark, limit := base + (requiredSlabBytes platform tensors).toNat }
    have room : RunsTransformer.Room (constructed tensors) cfg arena := holds
    exact Nat.le_trans (le_extent _ _) (RunsTransformer.peak_of_room room)

end Built

/-- A Transformer with one layer and one head of 64 floats, 128 positions and a flow head that
fits to it. -/
private def pairedTransformer : List ModelTensor :=
  let layer : TransformerPart → List UInt64 → ModelTensor := fun part shape =>
    { name := .transformerLayer 0 part, dtype := .f32, ndim := shape.length, shape }
  let tensor : TensorName → List UInt64 → ModelTensor := fun name shape =>
    { name, dtype := .f32, ndim := shape.length, shape }
  [ { name := .transformerConfig, dtype := .f32, ndim := 1, shape := [6]
      values := [.finite 1, .finite 64, .finite 1, .finite 1, .finite 128, .finite 1] },
    tensor .tokenEmbedding [1, 64], tensor .positionEmbedding [128, 64],
    tensor .finalWeight [64], tensor .finalBias [64],
    layer .ln1Weight [64], layer .ln1Bias [64], layer .qkvWeight [192, 64], layer .qkvBias [192],
    layer .attentionOutWeight [64, 64], layer .attentionOutBias [64], layer .ln2Weight [64],
    layer .ln2Bias [64], layer .mlpInWeight [1, 64], layer .mlpInBias [1],
    layer .mlpOutWeight [64, 1], layer .mlpOutBias [64],
    tensor .flowIn [1, 1], tensor .flowTime [1, 2], tensor .flowCond [1, 64],
    tensor .flowOut [1, 1] ]

private def pairedConfig : TransformerConfig where
  vocab := 1
  dModel := 64
  nLayers := 1
  nHeads := 1
  maxSequence := 128
  mlpDim := 1

/-- Without the flow head all calls are served. -/
theorem transformer_served_alone :
    TransformerServed commonPlatform (pairedTransformer.take 17) 0 64 pairedConfig :=
  (transformer_served_iff (by decide) (by decide +kernel) (by decide +kernel) (by decide +kernel)
    (by decide +kernel)).mpr (by decide +kernel)

/-- The hidden states of 128 tokens do not fit into the slab. -/
theorem transformer_exhausted :
    Transformer.config pairedTransformer = some pairedConfig ∧
    Transformer.wellFormed pairedTransformer pairedConfig = true ∧
    (∀ layer < pairedConfig.nLayers,
      Transformer.wellFormedLayer pairedTransformer pairedConfig layer = true) ∧
    ¬ TransformerServed commonPlatform pairedTransformer 0 64 pairedConfig := by
  refine ⟨by decide +kernel, by decide +kernel, by decide +kernel, fun served => ?_⟩
  have clean := served.served [.sample (List.replicate 128 0) 1 .euler] ?_
  · revert clean
    decide +kernel
  · intro call member
    rw [List.mem_singleton.mp member]
    refine ⟨?_, fun token known => ?_⟩
    · rw [List.length_replicate]
      exact ⟨by decide, Nat.le_refl _⟩
    · rw [List.eq_of_mem_replicate known]
      exact ⟨by decide, by decide⟩

end EngineRuntime

end FlowEdge
