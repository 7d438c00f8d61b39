import FlowEdge.Runtime.PrefillBudget

/-!
# The memory of the action expert

The slab that `required_slab_bytes` asks for grows with the width of the expert only, whereas the
queries, keys and values of its attention and its MLP have widths of their own: a narrow expert
gets too little. A runtime is built and its expert used without a failed allocation just if what
the constructor asks for and the largest sample behind it fit into the slab.
-/

namespace FlowEdge

namespace SmolVLA

variable {cfg : SmolVLAConfig} {state : ScratchState}

/-- What the checks of the constructor make sure of. -/
structure Bounded (cfg : SmolVLAConfig) : Prop where
  expertWidth : 0 < cfg.expertWidth.toNat
  expertWidth_le : cfg.expertWidth.toNat ≤ 4096
  maxActionDim : 0 < cfg.maxActionDim.toNat
  maxActionDim_le : cfg.maxActionDim.toNat ≤ 256
  expertLayers : 0 < cfg.expertLayers
  expertLayers_le : cfg.expertLayers ≤ kMaxExpertLayers
  attentionWidth : cfg.attentionWidth = 960
  keyValueWidth : cfg.keyValueWidth = 320
  mlpWidth : cfg.mlpWidth = 2048

theorem countLayers_le {tensors : List ModelTensor} {more index count : Nat}
    (counted : countLayers tensors cfg more index = some count) : count ≤ index + more := by
  induction more generalizing index with
  | zero =>
      cases counted
      exact Nat.le_refl _
  | succ more ih =>
      rw [countLayers] at counted
      split at counted
      · cases counted
        exact Nat.le_add_right _ _
      split at counted
      · cases counted
      · have bound := ih counted
        omega

theorem bounded_of_config {tensors : List ModelTensor} (configured : config tensors = some cfg) :
    Bounded cfg := by
  simp only [config, Option.bind_eq_bind, Option.bind_eq_some_iff,
    Option.ite_none_left_eq_some] at configured
  obtain ⟨first, projected, second, fixed, layers, counted, nonempty, ⟨⟩⟩ := configured
  have count := countLayers_le counted
  have widths : second.expertWidth = first.expertWidth ∧
      second.maxActionDim = first.maxActionDim ∧ second.attentionWidth = 960 ∧
      second.keyValueWidth = 320 ∧ second.mlpWidth = 2048 := by
    simp only [SmolVLA.widths, Option.bind_eq_bind, Option.bind_eq_some_iff,
      Option.ite_none_left_eq_some, not_or, not_not] at fixed
    obtain ⟨q, -, k, -, gate, -, -, same, ⟨⟩⟩ := fixed
    exact ⟨rfl, rfl, same.1, same.2.1, same.2.2.1⟩
  have limits : 0 < first.expertWidth.toNat ∧ first.expertWidth.toNat ≤ 4096 ∧
      0 < first.maxActionDim.toNat ∧ first.maxActionDim.toNat ≤ 256 := by
    simp only [projections, Option.bind_eq_bind, Option.bind_eq_some_iff,
      Option.ite_none_left_eq_some, not_or, UInt64.not_lt, UInt64.le_iff_toNat_le] at projected
    obtain ⟨actionIn, -, actionOut, -, timeIn, -, timeOut, -, stateProjection, -, -, range, -,
      ⟨⟩⟩ := projected
    refine ⟨?_, range.2.1, ?_, range.2.2.2.1⟩
    · exact Nat.pos_of_ne_zero fun zero => range.1 (UInt64.toNat_inj.mp zero)
    · exact Nat.pos_of_ne_zero fun zero => range.2.2.1 (UInt64.toNat_inj.mp zero)
  obtain ⟨width, action, attention, keyValue, mlp⟩ := widths
  obtain ⟨widthPos, widthLe, actionPos, actionLe⟩ := limits
  rw [← width] at widthPos widthLe
  rw [← action] at actionPos actionLe
  exact ⟨widthPos, widthLe, actionPos, actionLe, Nat.pos_of_ne_zero nonempty, by simpa using count,
    attention, keyValue, mlp⟩

/-! ## Sizes -/

/-- The spans of a layer with 512 rows and a prefix of 512 tokens. -/
def largestLayer (cfg : SmolVLAConfig) : List Nat := layerBuffers cfg 512 512 512

/-- The spans that are held at a time in the largest sample: `velocity`, `suffix`, `hidden` and
those of a layer. -/
def peakBuffers (cfg : SmolVLAConfig) : List Nat :=
  512 * cfg.maxActionDim.toNat :: 512 * cfg.expertWidth.toNat :: 512 * cfg.expertWidth.toNat ::
    largestLayer cfg

section Sizes

variable {chunk keyRows prefixSize : Nat} (cursor : Nat)

theorem extent_layerBuffers_le (rows : chunk ≤ 512) (keys : keyRows ≤ 512)
    (tokens : prefixSize ≤ 512) :
    extent cursor ((layerBuffers cfg chunk keyRows prefixSize).map floats) ≤
      extent cursor ((largestLayer cfg).map floats) := by
  have row : ∀ width, (floats (chunk * width)).Within (floats (512 * width)) := fun width =>
    floats_within (Nat.mul_le_mul_right width rows)
  have key : ∀ width, (floats (keyRows * width)).Within (floats (512 * width)) := fun width =>
    floats_within (Nat.mul_le_mul_right width keys)
  have within : List.SublistForall₂ Request.Within
      ((layerBuffers cfg chunk keyRows prefixSize).map floats) ((largestLayer cfg).map floats) :=
    .cons (row _) (.cons (row _) (.cons (key _) (.cons (key _) (.cons (row _) (.cons (row _)
      (.cons (row _) (.cons (row _) (.cons (floats_within (Nat.add_le_add tokens rows))
        .nil))))))))
  exact extent_mono within (Nat.le_refl _)

theorem extent_largestLayer (bounded : Bounded cfg) :
    extent cursor ((largestLayer cfg).map floats) =
      alignUp simdAlign cursor + 4096 * cfg.expertWidth.toNat + 13635584 := by
  have split : largestLayer cfg =
      [cfg.expertWidth.toNat, 960, 320, 320, 960, cfg.expertWidth.toNat, 2048, 2048, 2].map
        (kMaxDecodeSeq * ·) := by
    simp [largestLayer, layerBuffers, bounded.attentionWidth, bounded.keyValueWidth,
      bounded.mlpWidth, kMaxDecodeSeq]
  rw [split, EngineRuntime.extent_rows]
  simp only [List.sum_cons, List.sum_nil]
  omega

/-- The embedding takes no more than a layer, as wide as the expert may be. -/
theorem extent_embedBuffers_le (bounded : Bounded cfg) (rows : chunk ≤ 512) :
    extent cursor ((embedBuffers cfg chunk).map floats) ≤
      extent cursor ((largestLayer cfg).map floats) := by
  have within : List.SublistForall₂ Request.Within ((embedBuffers cfg chunk).map floats)
      ((embedBuffers cfg 512).map floats) :=
    .cons (floats_within (Nat.mul_le_mul_right _ rows))
      (.cons (floats_within (Nat.mul_le_mul_right _ rows))
        (.cons (floats_within (Nat.le_refl _)) .nil))
  refine Nat.le_trans (extent_mono within (Nat.le_refl cursor)) ?_
  have split : embedBuffers cfg 512 =
      [cfg.expertWidth.toNat, 2 * cfg.expertWidth.toNat].map (kMaxDecodeSeq * ·) ++
        [cfg.expertWidth.toNat] := by
    simp [embedBuffers, kMaxDecodeSeq]
  have width := bounded.expertWidth_le
  rw [extent_largestLayer cursor bounded, split, List.map_append, extent_append,
    EngineRuntime.extent_rows]
  change alignUp simdAlign _ + cfg.expertWidth.toNat * 4 ≤ _
  rw [alignUp_eq (by decide) (EngineRuntime.aligned_rows cursor _)]
  simp only [List.sum_cons, List.sum_nil]
  omega

end Sizes

/-! ## Calls that fit -/

theorem embedSuffix_fits (bounded : Bounded cfg) (addressed : state.arena.Addressed)
    (fits : extent state.arena.cursor ((largestLayer cfg).map floats) ≤ state.arena.limit)
    {rows : Nat} (few : rows ≤ 512) (finite : Bool) :
    Quiet (embedSuffix cfg rows finite) state :=
  .ite (.pure _) (.marked_spans addressed .expert
    (Nat.le_trans (extent_embedBuffers_le _ bounded few) fits))

theorem runLayers_fits (addressed : state.arena.Addressed)
    (fits : extent state.arena.cursor ((largestLayer cfg).map floats) ≤ state.arena.limit)
    {chunk prefixSize : Nat} (rows : chunk ≤ 512) (tokens : prefixSize ≤ 512) (more index : Nat) :
    Quiet (runLayers cfg chunk prefixSize more index) state := by
  induction more generalizing index with
  | zero => exact .pure _
  | succ more ih =>
      have keys : (if crossAttention index then prefixSize else chunk) ≤ 512 := by
        split
        · exact tokens
        · exact rows
      refine .bind ?_ fun given => .ite (ih _) (.pure _)
      exact .marked_spans addressed .expert
        (Nat.le_trans (extent_layerBuffers_le _ rows keys tokens) fits)

theorem runWithPrefixKv_fits (addressed : state.arena.Addressed)
    (fits : extent state.arena.cursor ((largestLayer cfg).map floats) ≤ state.arena.limit)
    {chunk : Nat} {mask : List UInt8} (rows : chunk ≤ 512) (tokens : mask.length ≤ 512) :
    Quiet (runWithPrefixKv cfg chunk mask) state := by
  have normalized : place state.arena.cursor (floats (chunk * cfg.expertWidth.toNat)) ≤
      state.arena.limit := by
    have layer : extent state.arena.cursor
        ((layerBuffers cfg chunk chunk mask.length).map floats) ≤ state.arena.limit :=
      Nat.le_trans (extent_layerBuffers_le _ rows rows tokens) fits
    rw [layerBuffers, List.map_cons, extent_cons] at layer
    exact Nat.le_trans (le_extent _ _) layer
  refine .ite (.pure _) (.ite (.pure _) (.ite (.pure _) (.ite (.pure _) ?_)))
  exact .bind (runLayers_fits addressed fits rows tokens _ _) fun ran =>
    .ite (.marked_span addressed .expert normalized) (.pure _)

theorem denoiseWithPrefixKv_fits (bounded : Bounded cfg) (addressed : state.arena.Addressed)
    (fits : extent state.arena.cursor ((512 * cfg.expertWidth.toNat ::
      512 * cfg.expertWidth.toNat :: largestLayer cfg).map floats) ≤ state.arena.limit)
    {chunk : Nat} {mask : List UInt8} (rows : chunk ≤ 512) (tokens : mask.length ≤ 512)
    (finite : Bool) : Quiet (denoiseWithPrefixKv cfg chunk finite mask) state := by
  rw [List.map_cons, List.map_cons, extent_cons, extent_cons] at fits
  have row : (floats (chunk * cfg.expertWidth.toNat)).Within
      (floats (512 * cfg.expertWidth.toNat)) := floats_within (Nat.mul_le_mul_right _ rows)
  have both : extent state.arena.cursor
      ([chunk * cfg.expertWidth.toNat, chunk * cfg.expertWidth.toNat].map floats) ≤
      place (place state.arena.cursor (floats (512 * cfg.expertWidth.toNat)))
        (floats (512 * cfg.expertWidth.toNat)) :=
    place_mono row (place_mono row (Nat.le_refl _))
  refine .ite (.pure _) (.held addressed .expert
    (Nat.le_trans both (Nat.le_trans (le_extent _ _) fits)) fun mark isMark => ?_)
  have later := le_extent state.arena.cursor
    ([chunk * cfg.expertWidth.toNat, chunk * cfg.expertWidth.toNat].map floats)
  rw [← isMark] at both later
  have memory := state.addressed_at addressed later
  have inner := Nat.le_trans (extent_le_extent both _) fits
  exact .bind (embedSuffix_fits bounded memory inner rows finite) fun embedded =>
    .ite (runWithPrefixKv_fits memory inner rows tokens) (.pure _)

theorem sampleEulerWithPrefixKv_fits (bounded : Bounded cfg) (addressed : state.arena.Addressed)
    (fits : extent state.arena.cursor ((peakBuffers cfg).map floats) ≤ state.arena.limit)
    {chunk : Nat} {mask : List UInt8} (rows : chunk ≤ 512) (tokens : mask.length ≤ 512)
    (steps : Nat) : Quiet (sampleEulerWithPrefixKv cfg chunk steps mask) state := by
  rw [peakBuffers, List.map_cons, extent_cons] at fits
  have velocity := place_mono (floats_within (Nat.mul_le_mul_right cfg.maxActionDim.toNat rows))
    (Nat.le_refl state.arena.cursor)
  refine .ite (.pure _) (.held_span addressed .expert
    (Nat.le_trans velocity (Nat.le_trans (le_extent _ _) fits)) fun mark isMark => ?_)
  have later := le_place state.arena.cursor (floats (chunk * cfg.maxActionDim.toNat))
  rw [← isMark] at velocity later
  have memory := state.addressed_at addressed later
  have inner := Nat.le_trans (extent_le_extent velocity _) fits
  have denoised := denoiseWithPrefixKv_fits bounded memory inner rows tokens true
  -- The steps after one that returns false are left out.
  induction steps with
  | zero => exact .pure _
  | succ steps ih => exact .bind denoised fun done => .ite ih (.pure _)

/-! ## Calls that fail -/

section Behaviour

variable (cfg)

theorem behaves_embedSuffix (rows : Nat) (finite : Bool) :
    Behaves [.expert] (embedSuffix cfg rows finite) :=
  .ite (.pure _) (.marked (.spans (by decide) _))

theorem behaves_runLayers (chunk prefixSize more index : Nat) :
    Behaves [.expert] (runLayers cfg chunk prefixSize more index) := by
  induction more generalizing index with
  | zero => exact .pure _
  | succ more ih =>
      exact .bind (.marked (.spans (by decide) _)) fun _ => .ite (ih _) (.pure _)

theorem behaves_runWithPrefixKv (chunk : Nat) (mask : List UInt8) :
    Behaves [.expert] (runWithPrefixKv cfg chunk mask) := by
  refine .ite (.pure _) (.ite (.pure _) (.ite (.pure _) (.ite (.pure _) ?_)))
  refine .bind (behaves_runLayers cfg _ _ _ _) fun ran => ?_
  exact .ite (.marked (.span (by decide) _)) (.pure _)

theorem behaves_denoiseWithPrefixKv (chunk : Nat) (finite : Bool) (mask : List UInt8) :
    Behaves [.expert] (denoiseWithPrefixKv cfg chunk finite mask) := by
  refine .ite (.pure _) (.marked (.bind (.spans (by decide) _) fun given => ?_))
  refine .ite (.bind (behaves_embedSuffix cfg _ _) fun embedded => ?_) (.pure _)
  exact .ite (behaves_runWithPrefixKv cfg _ _) (.pure _)

theorem behaves_eulerSteps (chunk : Nat) (mask : List UInt8) (steps : Nat) :
    Behaves [.expert] (eulerSteps cfg chunk mask steps) := by
  induction steps with
  | zero => exact .pure _
  | succ steps ih =>
      exact .bind (behaves_denoiseWithPrefixKv cfg _ _ _) fun _ => .ite ih (.pure _)

end Behaviour

/-- The sizes of a prefix of 512 tokens do not overflow. -/
theorem Bounded.prefix_le (bounded : Bounded cfg) :
    512 ≤ maxSize / cfg.expertLayers ∧
      512 * cfg.expertLayers ≤ maxSize / cfg.keyValueWidth.toNat := by
  have layers := bounded.expertLayers
  have layersLe := bounded.expertLayers_le
  rw [kMaxExpertLayers] at layersLe
  refine ⟨(Nat.le_div_iff_mul_le layers).mpr (by rw [maxSize]; omega), ?_⟩
  rw [bounded.keyValueWidth]
  refine (Nat.le_div_iff_mul_le (by decide)).mpr ?_
  change 512 * cfg.expertLayers * 320 ≤ maxSize
  rw [maxSize]
  omega

/-- A prefix of 512 tokens, all of them valid. -/
def fullMask : List UInt8 := List.replicate 512 1

theorem runWithPrefixKv_fails (bounded : Bounded cfg) (addressed : state.arena.Addressed)
    (inside : state.arena.cursor ≤ state.arena.limit)
    (exceeds : state.arena.limit < extent state.arena.cursor ((largestLayer cfg).map floats)) :
    AllocationSite.expert ∈ (runWithPrefixKv cfg 512 fullMask state).2.failures := by
  have length : fullMask.length = 512 := List.length_replicate
  have layers := bounded.expertLayers
  obtain ⟨tokens, values⟩ := bounded.prefix_le
  have checked : ¬ (512 > 512 ∨ 512 > maxSize / cfg.expertLayers ∨
      512 * cfg.expertLayers > maxSize / cfg.keyValueWidth.toNat) := by omega
  have binary : fullMask.any (· > 1) = false := by
    rw [List.any_eq_false]
    intro value member
    rw [List.eq_of_mem_replicate member]
    decide
  have nonempty : fullMask.all (· = 0) = false := by
    rw [fullMask, List.replicate_succ]
    rfl
  rw [runWithPrefixKv, length, if_neg (by decide), if_neg checked, binary,
    if_neg Bool.false_ne_true, nonempty, if_neg Bool.false_ne_true]
  refine Behaves.bind_failure [.expert]
    (fun ran => .ite (.marked (.span (List.mem_singleton.mpr rfl) _)) (.pure _)) ?_
  obtain ⟨more, count⟩ : ∃ more, cfg.expertLayers = more + 1 :=
    ⟨cfg.expertLayers - 1, by omega⟩
  have layer : runLayer cfg 512 512 0 = marked (spans .expert (largestLayer cfg)) := rfl
  have first : AllocationSite.expert ∈ (runLayer cfg 512 512 0 state).2.failures := by
    rw [layer, marked_failures]
    exact (spans_fails addressed .expert exceeds inside).2
  rw [count, runLayers]
  exact Behaves.bind_failure [.expert]
    (fun given => .ite (behaves_runLayers cfg _ _ _ _) (.pure _)) first

theorem denoiseWithPrefixKv_fails (bounded : Bounded cfg) (addressed : state.arena.Addressed)
    (inside : state.arena.cursor ≤ state.arena.limit)
    (exceeds : state.arena.limit < extent state.arena.cursor ((512 * cfg.expertWidth.toNat ::
      512 * cfg.expertWidth.toNat :: largestLayer cfg).map floats)) :
    AllocationSite.expert ∈ (denoiseWithPrefixKv cfg 512 true fullMask state).2.failures := by
  rw [denoiseWithPrefixKv, if_neg (by decide), marked_failures]
  by_cases both : extent state.arena.cursor
      ([512 * cfg.expertWidth.toNat, 512 * cfg.expertWidth.toNat].map floats) ≤ state.arena.limit
  · have inner : state.arena.limit < extent (extent state.arena.cursor
        ([512 * cfg.expertWidth.toNat, 512 * cfg.expertWidth.toNat].map floats))
          ((largestLayer cfg).map floats) := by
      rw [← extent_append, ← List.map_append]
      exact exceeds
    have given := spans_fits addressed .expert both
    have later := le_extent state.arena.cursor
      ([512 * cfg.expertWidth.toNat, 512 * cfg.expertWidth.toNat].map floats)
    generalize extent state.arena.cursor
      ([512 * cfg.expertWidth.toNat, 512 * cfg.expertWidth.toNat].map floats) = mark at *
    have memory := state.addressed_at addressed later
    rw [bind_eq given, if_pos rfl]
    by_cases embed : extent mark ((embedBuffers cfg 512).map floats) ≤ state.arena.limit
    · have embedded : embedSuffix cfg 512 true (state.at mark) = (true, state.at mark) := by
        rw [embedSuffix, if_neg (by decide)]
        exact marked_eq (spans_fits memory .expert embed)
      rw [bind_eq embedded, if_pos rfl]
      exact runWithPrefixKv_fails bounded memory both inner
    · have failed : AllocationSite.expert ∈
          (embedSuffix cfg 512 true (state.at mark)).2.failures := by
        rw [embedSuffix, if_neg (by decide), marked_failures]
        exact (spans_fails memory .expert (Nat.not_le.mp embed) both).2
      exact Behaves.bind_failure [.expert]
        (fun embedded => .ite (behaves_runWithPrefixKv cfg _ _) (.pure _)) failed
  · obtain ⟨refused, noted⟩ := spans_fails addressed .expert (Nat.not_le.mp both) inside
    rw [bind_eq (Prod.ext refused rfl), if_neg Bool.false_ne_true]
    exact noted

theorem sampleEulerWithPrefixKv_fails (bounded : Bounded cfg) (addressed : state.arena.Addressed)
    (exceeds : state.arena.limit <
      extent state.arena.cursor ((peakBuffers cfg).map floats)) :
    AllocationSite.expert ∈ (sampleEulerWithPrefixKv cfg 512 1 fullMask state).2.failures := by
  rw [peakBuffers, List.map_cons, extent_cons] at exceeds
  rw [sampleEulerWithPrefixKv, if_neg (by decide), marked_failures]
  by_cases velocity : place state.arena.cursor (floats (512 * cfg.maxActionDim.toNat)) ≤
      state.arena.limit
  · have given := span_fits addressed .expert velocity
    have later := le_place state.arena.cursor (floats (512 * cfg.maxActionDim.toNat))
    generalize place state.arena.cursor (floats (512 * cfg.maxActionDim.toNat)) = mark at *
    have memory := state.addressed_at addressed later
    rw [bind_eq given, if_pos rfl, eulerSteps]
    exact Behaves.bind_failure [.expert]
      (fun done => .ite (behaves_eulerSteps cfg _ _ _) (.pure _))
      (denoiseWithPrefixKv_fails bounded memory velocity exceeds)
  · rw [bind_eq (span_fails addressed .expert (Nat.not_le.mp velocity)),
      if_neg Bool.false_ne_true]
    exact List.mem_concat_self

end SmolVLA

/-! ## The runtime -/

namespace EngineRuntime

variable {engine : EngineRuntime} {cfg : SmolVLAConfig} {state : ScratchState}

/-- Calls with at most 512 rows and at most 512 tokens of prefix. -/
def ExpertCall.InRange : ExpertCall → Prop
  | .embed chunk _ => chunk ∈ Set.Icc 1 512
  | .run chunk mask => chunk ∈ Set.Icc 1 512 ∧ mask.length ∈ Set.Icc 1 512
  | .denoise chunk _ mask => chunk ∈ Set.Icc 1 512 ∧ mask.length ∈ Set.Icc 1 512
  | .sample chunk _ mask => chunk ∈ Set.Icc 1 512 ∧ mask.length ∈ Set.Icc 1 512

theorem expertCode_fits {program : ScratchM Bool} (quiet : Quiet program state) :
    Quiet (expertCode program) state :=
  .bind quiet fun _ => .ite (.pure _) (.pure _)

theorem execExpert_fits (isExpert : engine.smolvla = some cfg) (bounded : SmolVLA.Bounded cfg)
    (addressed : state.arena.Addressed)
    (fits : extent state.arena.cursor ((SmolVLA.peakBuffers cfg).map floats) ≤ state.arena.limit)
    {call : ExpertCall} (inRange : call.InRange) : Quiet (engine.execExpert call) state := by
  have denoise : extent state.arena.cursor ((512 * cfg.expertWidth.toNat ::
      512 * cfg.expertWidth.toNat :: SmolVLA.largestLayer cfg).map floats) ≤
      state.arena.limit := by
    rw [SmolVLA.peakBuffers, List.map_cons, extent_cons] at fits
    exact Nat.le_trans (extent_le_extent (le_place _ _) _) fits
  have layer : extent state.arena.cursor ((SmolVLA.largestLayer cfg).map floats) ≤
      state.arena.limit := by
    rw [List.map_cons, List.map_cons, extent_cons, extent_cons] at denoise
    exact Nat.le_trans (extent_le_extent (Nat.le_trans (le_place _ _) (le_place _ _)) _) denoise
  cases call with
  | embed chunk finite =>
      rw [execExpert, smolvlaEmbedSuffix, isExpert]
      exact .ite (.pure _)
        (expertCode_fits (SmolVLA.embedSuffix_fits bounded addressed layer inRange.2 finite))
  | run =>
      rw [execExpert, smolvlaRunExpert, isExpert]
      exact .ite (.pure _) (expertCode_fits
        (SmolVLA.runWithPrefixKv_fits addressed layer inRange.1.2 inRange.2.2))
  | denoise chunk finite =>
      rw [execExpert, smolvlaDenoise, isExpert]
      exact .ite (.pure _) (expertCode_fits (SmolVLA.denoiseWithPrefixKv_fits bounded addressed
        denoise inRange.1.2 inRange.2.2 finite))
  | sample chunk steps =>
      rw [execExpert, smolvlaSample, isExpert]
      exact .ite (.pure _) (expertCode_fits (SmolVLA.sampleEulerWithPrefixKv_fits bounded
        addressed fits inRange.1.2 inRange.2.2 steps))

/-- Any sequence of calls leaves everything as it was. -/
theorem execExperts_fits (isExpert : engine.smolvla = some cfg) (bounded : SmolVLA.Bounded cfg)
    (addressed : state.arena.Addressed)
    (fits : extent state.arena.cursor ((SmolVLA.peakBuffers cfg).map floats) ≤ state.arena.limit)
    {calls : List ExpertCall} (inRange : ∀ call ∈ calls, call.InRange) :
    Quiet (engine.execExperts calls) state := by
  induction calls with
  | nil => exact .pure _
  | cons call rest ih =>
      obtain ⟨first, others⟩ := List.forall_mem_cons.mp inRange
      exact .bind (execExpert_fits isExpert bounded addressed fits first) fun _ => ih others

theorem smolvlaSample_fails (isExpert : engine.smolvla = some cfg) (bounded : SmolVLA.Bounded cfg)
    (addressed : state.arena.Addressed)
    (exceeds : state.arena.limit <
      extent state.arena.cursor ((SmolVLA.peakBuffers cfg).map floats)) :
    AllocationSite.expert ∈ (engine.smolvlaSample 512 1 SmolVLA.fullMask state).2.failures := by
  have length : SmolVLA.fullMask.length = 512 := List.length_replicate
  have action := bounded.maxActionDim
  have actionLe := bounded.maxActionDim_le
  have rows : 512 ≤ maxSize / cfg.maxActionDim.toNat :=
    (Nat.le_div_iff_mul_le action).mpr (by rw [maxSize]; omega)
  obtain ⟨tokens, values⟩ := bounded.prefix_le
  rw [smolvlaSample, isExpert]
  dsimp only
  rw [length, if_neg (by omega)]
  exact Behaves.bind_failure [] (fun done => .ite (.pure _) (.pure _))
    (SmolVLA.sampleEulerWithPrefixKv_fails bounded addressed exceeds)

section Built

variable (platform : Platform) (tensors : List ModelTensor)
  (threads base : Nat)

/-- A runtime with this action expert is built, and neither its construction nor any calls of the
expert come to an allocation that fails. -/
structure ExpertServed (cfg : SmolVLAConfig) : Prop where
  ready : (build platform tensors threads base).1.ready = true
  expert : (build platform tensors threads base).1.smolvla = some cfg
  served : ∀ calls : List ExpertCall, (∀ call ∈ calls, call.InRange) →
    ((build platform tensors threads base).1.execExperts calls
      (build platform tensors threads base).2).2.failures = []

variable {platform tensors threads base}

/-- **The budget of the action expert.** In a slab of the size that `required_slab_bytes` gives, a
runtime is built and its expert used without a failed allocation just if the slab holds what the
constructor asks for and the largest sample behind it. -/
theorem expert_served_iff (positive : 0 < base)
    (bounded : base + (requiredSlabBytes platform tensors).toNat < 2 ^ 64)
    (configured : SmolVLA.config tensors = some cfg) :
    ExpertServed platform tensors threads base cfg ↔
      extent base (constructionRequests platform tensors threads ++
        (SmolVLA.peakBuffers cfg).map floats) ≤
          base + (requiredSlabBytes platform tensors).toNat := by
  have head : (constructed tensors).smolvla = some cfg := by
    rw [constructed, SmolVLA.plan, configured]
  have demands := demands_construct platform tensors threads
  have limits := SmolVLA.bounded_of_config configured
  let start : ScratchState :=
    { arena := { cursor := base
                 limit := base + (requiredSlabBytes platform tensors).toNat } }
  have memory : start.arena.Addressed := ⟨positive, bounded⟩
  have inside : start.arena.cursor ≤ start.arena.limit := Nat.le_add_right _ _
  rw [extent_append]
  by_cases built : extent base (constructionRequests platform tensors threads) ≤
      base + (requiredSlabBytes platform tensors).toNat
  · have result : build platform tensors threads base =
        (constructed tensors,
          start.at (extent base (constructionRequests platform tensors threads))) :=
      demands.fits start memory rfl built
    have later := le_extent base (constructionRequests platform tensors threads)
    generalize extent base (constructionRequests platform tensors threads) = mark at *
    have markMemory : (start.at mark).arena.Addressed := start.addressed_at memory later
    refine ⟨fun served => ?_, fun room => ⟨?_, ?_, fun calls inRange => ?_⟩⟩
    · by_contra exceeds
      have failed := smolvlaSample_fails head limits markMemory (Nat.not_le.mp exceeds)
      have clean := served.served [.sample 512 1 SmolVLA.fullMask] ?_
      · rw [result, execExperts_singleton, execExpert] at clean
        rw [clean] at failed
        cases failed
      · intro call member
        rw [List.mem_singleton.mp member]
        refine ⟨⟨by decide, Nat.le_refl _⟩, ?_⟩
        rw [SmolVLA.fullMask, List.length_replicate]
        exact ⟨by decide, Nat.le_refl _⟩
    · have isExpert : (SmolVLA.plan tensors).head = some cfg := head
      rw [result]
      simp [constructed, isExpert]
    · rw [result]
      exact head
    · have quiet := execExperts_fits head limits markMemory room inRange
      rw [result]
      exact congrArg ScratchState.failures quiet
  · -- Behind requests that do not fit there is no room for the calls either.
    have failed : (build platform tensors threads base).2.failures ≠ [] :=
      demands.fails start memory rfl inside (Nat.not_le.mp built)
    refine iff_of_false (fun served => failed (served.served [] (by simp))) fun holds => built ?_
    exact Nat.le_trans (le_extent _ _) holds

end Built

/-- An expert of one layer. -/
private def narrowExpert (width : UInt64) : List ModelTensor :=
  let tensor : TensorName → List UInt64 → ModelTensor := fun name shape =>
    { name, dtype := .f32, ndim := shape.length, shape }
  [ tensor (.expertWeight .actionIn) [width, 1], tensor (.expertWeight .actionOut) [1, width],
    tensor (.expertWeight .timeIn) [width, 2 * width],
    tensor (.expertWeight .timeOut) [width, width], tensor (.expertWeight .state) [1, 1],
    tensor (.expertBias .actionIn) [width], tensor (.expertBias .actionOut) [1],
    tensor (.expertBias .timeIn) [width], tensor (.expertBias .timeOut) [width],
    tensor (.expertBias .state) [1], tensor .expertNorm [width],
    tensor (.expertLayer 0 .inputNorm) [width], tensor (.expertLayer 0 .postNorm) [width],
    tensor (.expertLayer 0 .q) [960, width], tensor (.expertLayer 0 .k) [320, width],
    tensor (.expertLayer 0 .v) [320, width], tensor (.expertLayer 0 .o) [width, 960],
    tensor (.expertLayer 0 .gate) [2048, width], tensor (.expertLayer 0 .up) [2048, width],
    tensor (.expertLayer 0 .down) [width, 2048] ]

private def narrowExpertConfig (width : UInt64) : SmolVLAConfig where
  maxStateDim := 1
  maxActionDim := 1
  vlmWidth := 1
  expertWidth := width
  expertLayers := 1
  attentionWidth := 960
  keyValueWidth := 320
  mlpWidth := 2048

/-- An expert that is 720 floats wide is served. -/
theorem expert_served_wide :
    ExpertServed commonPlatform (narrowExpert 720) 0 64 (narrowExpertConfig 720) :=
  (expert_served_iff (by decide) (by decide +kernel) (by decide +kernel)).mpr (by decide +kernel)

/-- In the slab of an expert that is two floats wide there is no room for the queries of 512
rows. -/
theorem expert_exhausted :
    SmolVLA.config (narrowExpert 2) = some (narrowExpertConfig 2) ∧
    ¬ ExpertServed commonPlatform (narrowExpert 2) 0 64 (narrowExpertConfig 2) := by
  refine ⟨by decide +kernel, fun served => ?_⟩
  have clean := served.served [.run 512 [1]] ?_
  · revert clean
    decide +kernel
  · intro call member
    rw [List.mem_singleton.mp member]
    exact ⟨⟨by decide, Nat.le_refl _⟩, by decide, by decide⟩

end EngineRuntime

end FlowEdge
