import FlowEdge.Runtime.Construction

/-!
# The memory of a Mamba prefill

The slab that `required_slab_bytes` asks for is not enough for every checkpoint that the
constructor of Mamba accepts: two buffers of a prefill are as wide as `dt_rank`, which the
estimate leaves out. No allocation of the backbone fails just if the constructor has left room for
the buffers of the longest prefill.
-/

namespace FlowEdge

/-! ## The constructor -/

namespace Mamba

/-- The shapes of a checkpoint that the constructor accepts are not empty. -/
theorem shapes_ne_zero {tensors : List ModelTensor} {cfg : MambaConfig}
    (shaped : shapes tensors = some cfg) : cfg.vocab ≠ 0 ∧ cfg.dModel ≠ 0 := by
  rw [shapes] at shaped
  split at shaped
  · simp only [Option.ite_none_left_eq_some, not_or] at shaped
    obtain ⟨-, sizes, -, ⟨⟩⟩ := shaped
    exact ⟨sizes.1, sizes.2.1⟩
  · cases shaped

/-- What the constructor makes sure of. -/
structure Accepted (cfg : MambaConfig) : Prop where
  vocab : cfg.vocab ≠ 0
  dModel : cfg.dModel ≠ 0
  nLayers : 0 < cfg.nLayers

theorem accepted_construct (tensors : List ModelTensor) :
    Returns (construct tensors) fun result => ∀ cfg, result = some cfg → Accepted cfg := by
  rw [construct]
  split
  · exact .pure (by simp)
  · next cfg shaped =>
      refine .bind (.any _) fun layers _ => ?_
      cases layers with
      | none => exact .pure (by simp)
      | some nLayers =>
          refine .pure fun accepted same => ?_
          split at same
          · next positive =>
              cases same
              obtain ⟨vocab, dModel⟩ := shapes_ne_zero shaped
              exact ⟨vocab, dModel, positive⟩
          · cases same

end Mamba

namespace EngineRuntime

/-- The Mamba of a runtime is one that its constructor has accepted. -/
theorem accepted_of_construct (platform : Platform) (tensors : List ModelTensor) (threads : Nat) :
    Returns (construct platform tensors threads) fun engine =>
      ∀ cfg, engine.mamba = some cfg → Mamba.Accepted cfg := by
  refine .bind (Mamba.accepted_construct tensors) fun mamba accepted => ?_
  refine .bind (.any _) fun smolvla _ => .bind (.any _) fun transformer _ => ?_
  refine .bind (.any _) fun flow _ => .bind (.any _) fun diffusion _ => ?_
  refine .bind (.any _) fun pool _ => ?_
  split
  · exact .pure accepted
  refine .bind (.any _) fun decodeState _ => ?_
  refine .bind (.any _) fun flowWorkspace _ => .bind (.any _) fun diffusionWorkspace _ => ?_
  split
  · exact .pure accepted
  split
  · exact .pure accepted
  split
  · exact .pure accepted
  · exact .pure accepted

/-! ## Calls -/

variable {engine : EngineRuntime} {cfg : MambaConfig}

/-- Prefills of at most `k_max_decode_seq` tokens, and any steps. -/
def Call.InRange : Call → Prop
  | .run tokens => tokens.length ∈ Set.Icc 1 kMaxDecodeSeq
  | .sample tokens _ _ => tokens.length ∈ Set.Icc 1 kMaxDecodeSeq
  | .step _ => True
  | .reset => True

/-- No allocation of `run_backbone`, `layer_forward` and `decode_layer` fails, in whatever order
the calls come. -/
def BackboneServed (engine : EngineRuntime) (state : ScratchState) : Prop :=
  ∀ calls : List Call, (∀ call ∈ calls, call.InRange) →
    AllocationSite.backbone ∉ (engine.execAll calls { state with failures := [] }).2.failures

/-- The longest prefill that `run_backbone` accepts. -/
def longestPrefill (cfg : MambaConfig) : Nat := min kMaxDecodeSeq (maxSize / cfg.dModel.toNat)

/-- The spans of `run_backbone` and of each of its layers. -/
def prefillBuffers (cfg : MambaConfig) (l : Nat) : List Nat :=
  l * cfg.dModel.toNat :: Mamba.layerBuffers cfg l

/-- `sample` comes to `run_backbone`. -/
def samples (engine : EngineRuntime) : Bool :=
  engine.flow.isSome && engine.hasCompatibleFlowHead

/-- The spans of the longest prefill, and before them those of `sample` where there is a flow
head to sample from. -/
def peakBuffers (engine : EngineRuntime) (cfg : MambaConfig) : List Nat :=
  let l := longestPrefill cfg
  if engine.samples then l * cfg.dModel.toNat :: prefillBuffers cfg l else prefillBuffers cfg l

/-! ### Mamba -/

section Mamba

variable {state : ScratchState}

theorem forward_fails (accepted : Mamba.Accepted cfg) (addressed : state.arena.Addressed)
    (inside : state.arena.cursor ≤ state.arena.limit) {l : Nat}
    (exceeds : state.arena.limit <
      extent state.arena.cursor ((Mamba.layerBuffers cfg l).map floats)) :
    AllocationSite.backbone ∈ (Mamba.forward cfg l state).2.failures := by
  have behaves : Behaves [.backbone] (Mamba.layerForward cfg l) := .borrow (by decide) _
  have failed : AllocationSite.backbone ∈ (Mamba.layerForward cfg l state).2.failures := by
    rw [Mamba.layerForward]
    exact borrow_fails addressed .backbone inside exceeds
  rw [Mamba.forward]
  exact behaves.repeatM_failure accepted.nLayers failed

theorem forward_fits (addressed : state.arena.Addressed) {l : Nat}
    (fits : extent state.arena.cursor ((Mamba.layerBuffers cfg l).map floats) ≤
      state.arena.limit) :
    Mamba.forward cfg l state = ((), state) :=
  repeatM_eq (borrow_fits addressed .backbone fits) _

theorem decode_fits (addressed : state.arena.Addressed)
    (fits : extent state.arena.cursor ((Mamba.decodeBuffers cfg).map floats) ≤
      state.arena.limit) :
    Mamba.decode cfg state = ((), state) :=
  repeatM_eq (borrow_fits addressed .backbone fits) _

/-- The spans of `decode_layer` are among those of a prefill. -/
theorem decodeBuffers_within {l : Nat} (positive : 0 < l) :
    List.SublistForall₂ Request.Within ((Mamba.decodeBuffers cfg).map floats)
      ((Mamba.layerBuffers cfg l).map floats) := by
  have once : ∀ count, count ≤ l * count := fun count => Nat.le_mul_of_pos_left count positive
  have swapped : ∀ count, count ≤ count * l := fun count => Nat.le_mul_of_pos_right count positive
  have twice : 2 * cfg.dInner.toNat ≤ l * 2 * cfg.dInner.toNat := by
    rw [Nat.mul_assoc]
    exact once _
  exact .cons (floats_within (once _)) (.cons (floats_within twice) (.cons (floats_within (once _))
    (.cons (floats_within (swapped _)) (.cons_right (.cons_right
      (.cons (floats_within (once _)) (.cons (floats_within (once _))
        (.cons (floats_within (once _)) (.cons_right (.cons (floats_within (once _))
          (.cons (floats_within (once _)) .nil)))))))))))

theorem layerBuffers_within {short long : Nat} (ordered : short ≤ long) :
    List.SublistForall₂ Request.Within ((Mamba.layerBuffers cfg short).map floats)
      ((Mamba.layerBuffers cfg long).map floats) := by
  have left : ∀ count, (floats (short * count)).Within (floats (long * count)) := fun count =>
    floats_within (Nat.mul_le_mul_right count ordered)
  have right : ∀ count, (floats (count * short)).Within (floats (count * long)) := fun count =>
    floats_within (Nat.mul_le_mul_left count ordered)
  have twice : (floats (short * 2 * cfg.dInner.toNat)).Within
      (floats (long * 2 * cfg.dInner.toNat)) :=
    floats_within (Nat.mul_le_mul_right _ (Nat.mul_le_mul_right _ ordered))
  exact .cons (left _) (.cons twice (.cons (left _) (.cons (right _) (.cons (right _)
    (.cons (left _) (.cons (left _) (.cons (left _) (.cons (left _)
      (.cons (floats_within (Nat.le_refl _)) (.cons (left _) (.cons (left _) .nil)))))))))))

theorem prefillBuffers_within {short long : Nat} (ordered : short ≤ long) :
    List.SublistForall₂ Request.Within ((prefillBuffers cfg short).map floats)
      ((prefillBuffers cfg long).map floats) :=
  .cons (floats_within (Nat.mul_le_mul_right _ ordered)) (layerBuffers_within ordered)

theorem place_rows (cursor width : Nat) :
    place cursor (floats (kMaxDecodeSeq * width)) = alignUp simdAlign cursor + 2048 * width := by
  change alignUp simdAlign cursor + 512 * width * 4 = _
  omega

theorem aligned_rows (cursor width : Nat) :
    simdAlign ∣ alignUp simdAlign cursor + 2048 * width :=
  Nat.dvd_add (Nat.dvd_mul_left _ _) (Nat.dvd_mul_right_of_dvd (by decide) width)

/-- The rows of a prefill of `k_max_decode_seq` tokens are rounded only before the first. -/
theorem extent_rows (cursor width : Nat) (rest : List Nat) :
    extent cursor (((width :: rest).map (kMaxDecodeSeq * ·)).map floats) =
      alignUp simdAlign cursor + 2048 * (width :: rest).sum := by
  induction rest generalizing cursor width with
  | nil =>
      rw [List.sum_singleton]
      exact place_rows cursor width
  | cons next rest ih =>
      rw [List.map_cons, List.map_cons, extent_cons, place_rows, ih,
        alignUp_eq (by decide) (aligned_rows cursor width)]
      simp only [List.sum_cons]
      omega

end Mamba

/-! ### The flow head -/

theorem behaves_solve (flow : FlowConfig) (steps : Nat) (method : FlowMethod) :
    Behaves [.head] (engine.solve flow steps method) := by
  have velocity : Behaves [.head] (FlowHead.velocity flow) := .borrow (by decide) _
  refine .ite (.pure 2) (.ite (.pure 2) ?_)
  exact .bind (.repeatM (velocity.repeatM _) _) fun _ => .pure 0

section Sample

variable (flow : FlowConfig) (tokens : List Int) (steps : Nat) (method : FlowMethod)

theorem behaves_sampleMarked {site : AllocationSite}
    (backbone : Behaves [site] (engine.runBackbone tokens)) :
    Behaves [.call, site, .head] (engine.sampleMarked flow tokens steps method) := by
  refine .bind (.span (by simp) _) fun given => .ite ?_ (.pure 2)
  refine .bind (backbone.weaken (by simp)) fun code => ?_
  split
  · exact (behaves_solve flow steps method).weaken (by simp)
  · exact .pure _

variable {state : ScratchState} (addressed : state.arena.Addressed)

include addressed

/-- Behind the span of `sample` and the backbone only the flow head takes memory. -/
theorem sampleMarked_fits
    (fits : place state.arena.cursor (floats (tokens.length * engine.dModel)) ≤
      state.arena.limit) :
    ∃ rest : ScratchM Nat, Behaves [.head] rest ∧
      engine.sampleMarked flow tokens steps method state = rest (engine.runBackbone tokens
        (state.at (place state.arena.cursor (floats (tokens.length * engine.dModel))))).2 := by
  refine Exists.intro ?rest ⟨?behaves, ?split⟩
  case split =>
    rw [sampleMarked, bind_eq (span_fits addressed .call fits), if_pos rfl]
    exact bind_eq rfl
  case behaves =>
    split
    · exact behaves_solve flow steps method
    · exact .pure _

theorem sampleMarked_fails
    (exceeds : state.arena.limit <
      place state.arena.cursor (floats (tokens.length * engine.dModel))) :
    engine.sampleMarked flow tokens steps method state = (2, state.fail .call) := by
  rw [sampleMarked, bind_eq (span_fails addressed .call exceeds), if_neg Bool.false_ne_true]
  rfl

end Sample

/-! ### The runtime -/

/-- The backbone of a runtime is the Mamba that its constructor has accepted. -/
structure RunsMamba (engine : EngineRuntime) (cfg : MambaConfig) : Prop where
  noTransformer : engine.transformer = none
  isMamba : engine.mamba = some cfg
  accepted : Mamba.Accepted cfg

namespace RunsMamba

variable (runs : engine.RunsMamba cfg) {tokens : List Int} {state : ScratchState}

include runs

theorem dModel_eq : engine.dModel = cfg.dModel.toNat := by
  rw [dModel, runs.noTransformer, runs.isMamba]

theorem hasBackbone_eq : engine.hasBackbone = true := by
  rw [hasBackbone, runs.isMamba]
  rfl

theorem prefixLimit_eq : engine.prefixLimit = kMaxDecodeSeq := by
  rw [prefixLimit, runs.noTransformer]

/-- A prefill of at least one token is accepted. -/
theorem longestPrefill_pos : 0 < longestPrefill cfg := by
  have small := cfg.dModel.toNat_lt
  have nonzero : cfg.dModel.toNat ≠ 0 := fun zero =>
    runs.accepted.dModel (UInt64.toNat_inj.mp zero)
  have once : 0 < maxSize / cfg.dModel.toNat :=
    Nat.div_pos (by rw [maxSize]; omega) (Nat.pos_of_ne_zero nonzero)
  rw [longestPrefill, kMaxDecodeSeq]
  omega

/-- The part of `run_backbone` behind its checks. -/
theorem runBackbone_eq (nonempty : tokens.length ≠ 0)
    (short : tokens.length ≤ longestPrefill cfg) :
    engine.runBackbone tokens = (do
      if ← span .backbone (tokens.length * cfg.dModel.toNat) then
        if tokens.any fun token => token < 0 ∨ (cfg.vocab.toNat : Int) ≤ token then return 3
        else
          Mamba.forward cfg tokens.length
          return 0
      else return 2) := by
  have checked : ¬ (tokens.length = 0 ∨ tokens.length > kMaxDecodeSeq ∨
      tokens.length > maxSize / cfg.dModel.toNat) := by
    rw [longestPrefill] at short
    omega
  rw [runBackbone, runs.hasBackbone_eq, runs.prefixLimit_eq, runs.dModel_eq, if_neg (by simp),
    if_neg checked, runs.noTransformer, runs.isMamba]

theorem runBackbone_rejects (long : longestPrefill cfg < tokens.length) :
    engine.runBackbone tokens = pure 1 := by
  have rejected : tokens.length = 0 ∨ tokens.length > kMaxDecodeSeq ∨
      tokens.length > maxSize / cfg.dModel.toNat := by
    rw [longestPrefill] at long
    omega
  rw [runBackbone, runs.hasBackbone_eq, runs.prefixLimit_eq, runs.dModel_eq, if_neg (by simp),
    if_pos rejected]

theorem behaves_runBackbone : Behaves [.backbone] (engine.runBackbone tokens) := by
  by_cases empty : tokens.length = 0
  · rw [runBackbone, runs.hasBackbone_eq, if_neg (by simp), if_pos (.inl empty)]
    exact .pure 1
  · by_cases short : tokens.length ≤ longestPrefill cfg
    · rw [runs.runBackbone_eq empty short]
      refine .bind (.span (by decide) _) fun given => .ite (.ite (.pure 3) ?_) (.pure 2)
      exact .bind (.repeatM (.borrow (by decide) _) _) fun _ => .pure 0
    · rw [runs.runBackbone_rejects (Nat.not_le.mp short)]
      exact .pure 1

/-- A prefill for which there is room notes no failure. -/
theorem runBackbone_fits (addressed : state.arena.Addressed) (nonempty : tokens.length ≠ 0)
    (fits : tokens.length ≤ longestPrefill cfg →
      extent state.arena.cursor ((prefillBuffers cfg tokens.length).map floats) ≤
        state.arena.limit) :
    (engine.runBackbone tokens state).2.failures = state.failures := by
  by_cases short : tokens.length ≤ longestPrefill cfg
  · have all := fits short
    rw [prefillBuffers, List.map_cons, extent_cons] at all
    have input := span_fits addressed .backbone (Nat.le_trans (le_extent _ _) all)
    have layers := forward_fits (state.addressed_at addressed (le_place _ _)) all
    rw [runs.runBackbone_eq nonempty short, bind_eq input, if_pos rfl]
    split
    · rfl
    · rw [bind_eq layers]
      rfl
  · rw [runs.runBackbone_rejects (Nat.not_le.mp short)]
    rfl

/-- The longest prefill notes a failure if there is no room for it. -/
theorem runBackbone_fails (addressed : state.arena.Addressed)
    (exceeds : state.arena.limit <
      extent state.arena.cursor ((prefillBuffers cfg (longestPrefill cfg)).map floats)) :
    AllocationSite.backbone ∈
      (engine.runBackbone (List.replicate (longestPrefill cfg) 0) state).2.failures := by
  have length : (List.replicate (longestPrefill cfg) (0 : Int)).length = longestPrefill cfg :=
    List.length_replicate
  have nonempty := Nat.ne_of_gt runs.longestPrefill_pos
  have nonzero : cfg.vocab.toNat ≠ 0 := fun zero =>
    runs.accepted.vocab (UInt64.toNat_inj.mp zero)
  have valid : ¬ ((List.replicate (longestPrefill cfg) (0 : Int)).any fun token =>
      token < 0 ∨ (cfg.vocab.toNat : Int) ≤ token) = true := by
    simp [nonempty, nonzero]
  rw [prefillBuffers, List.map_cons, extent_cons] at exceeds
  rw [runs.runBackbone_eq (by rwa [length]) (Nat.le_of_eq length), length]
  by_cases input : place state.arena.cursor (floats (longestPrefill cfg * cfg.dModel.toNat)) ≤
      state.arena.limit
  · rw [bind_eq (span_fits addressed .backbone input), if_pos rfl, if_neg valid, bind_pure_state]
    exact forward_fails runs.accepted (state.addressed_at addressed (le_place _ _)) input exceeds
  · rw [bind_eq (span_fails addressed .backbone (Nat.not_le.mp input)), if_neg Bool.false_ne_true]
    exact List.mem_concat_self

/-- There is room for the longest prefill, also behind the span of `sample`. -/
def Room (engine : EngineRuntime) (cfg : MambaConfig) (arena : Arena) : Prop :=
  extent arena.cursor ((engine.peakBuffers cfg).map floats) ≤ arena.limit

omit runs in
theorem prefill_le_peak (cursor : Nat) {l : Nat} (short : l ≤ longestPrefill cfg) :
    extent cursor ((prefillBuffers cfg l).map floats) ≤
      extent cursor ((engine.peakBuffers cfg).map floats) := by
  have longest := @prefillBuffers_within cfg _ _ short
  rw [peakBuffers]
  split
  · rw [List.map_cons]
    exact extent_mono longest.cons_right (Nat.le_refl _)
  · exact extent_mono longest (Nat.le_refl _)

omit runs in
theorem sample_le_peak (cursor : Nat) {l : Nat} (short : l ≤ longestPrefill cfg)
    (samples : engine.samples = true) :
    extent (place cursor (floats (l * cfg.dModel.toNat))) ((prefillBuffers cfg l).map floats) ≤
      extent cursor ((engine.peakBuffers cfg).map floats) := by
  rw [peakBuffers, if_pos samples, List.map_cons, extent_cons]
  exact extent_mono (prefillBuffers_within short)
    (place_mono (floats_within (Nat.mul_le_mul_right _ short)) (Nat.le_refl _))

theorem run_served (addressed : state.arena.Addressed) (room : Room engine cfg state.arena)
    (nonempty : tokens.length ≠ 0) :
    (engine.run tokens state).2.arena = state.arena ∧
      (engine.run tokens state).2.failures = state.failures := by
  refine ⟨marked_arena runs.behaves_runBackbone, ?_⟩
  rw [run, marked_failures]
  refine runs.runBackbone_fits addressed nonempty fun short => ?_
  exact Nat.le_trans (prefill_le_peak _ short) room

theorem step_served (addressed : state.arena.Addressed) (room : Room engine cfg state.arena)
    (token : Int) : (engine.step token state).2 = state := by
  rw [step, runs.noTransformer, runs.isMamba]
  dsimp only
  split
  · rfl
  split
  · rfl
  have within : List.SublistForall₂ Request.Within
      ((cfg.dModel.toNat :: Mamba.decodeBuffers cfg).map floats)
      ((prefillBuffers cfg (longestPrefill cfg)).map floats) :=
    .cons (floats_within (Nat.le_mul_of_pos_left _ runs.longestPrefill_pos))
      (decodeBuffers_within runs.longestPrefill_pos)
  have longest : extent state.arena.cursor ((prefillBuffers cfg (longestPrefill cfg)).map floats) ≤
      state.arena.limit :=
    Nat.le_trans (prefill_le_peak _ (Nat.le_refl _)) room
  have all := Nat.le_trans (extent_mono within (Nat.le_refl state.arena.cursor)) longest
  rw [List.map_cons, extent_cons] at all
  have input := span_fits addressed .call (Nat.le_trans (le_extent _ _) all)
  have layers := decode_fits (state.addressed_at addressed (le_place _ _)) all
  have result : (do
      if ← span .call cfg.dModel.toNat then
        Mamba.decode cfg
        return 0
      else return 2 : ScratchM Nat) state =
      (0, state.at (place state.arena.cursor (floats cfg.dModel.toNat))) := by
    rw [bind_eq input, if_pos rfl, bind_eq layers]
    rfl
  rw [marked_eq result]

theorem sample_served (addressed : state.arena.Addressed) (room : Room engine cfg state.arena)
    (nonempty : tokens.length ≠ 0) (steps : Nat) (method : FlowMethod)
    (clean : AllocationSite.backbone ∉ state.failures) :
    (engine.sample tokens steps method state).2.arena = state.arena ∧
      AllocationSite.backbone ∉ (engine.sample tokens steps method state).2.failures := by
  rw [sample]
  cases hasFlow : engine.flow with
  | none => exact ⟨rfl, clean⟩
  | some flow =>
  split
  · exact ⟨rfl, clean⟩
  split
  · exact ⟨rfl, clean⟩
  next compatible =>
  split
  · exact ⟨rfl, clean⟩
  have behaves := behaves_sampleMarked flow tokens steps method runs.behaves_runBackbone
  refine ⟨marked_arena behaves, ?_⟩
  rw [marked_failures]
  have samples : engine.samples = true := by
    rw [EngineRuntime.samples, hasFlow]
    simpa using compatible
  by_cases fits : place state.arena.cursor (floats (tokens.length * engine.dModel)) ≤
      state.arena.limit
  · have served := runs.runBackbone_fits (state.addressed_at addressed (le_place _ _)) nonempty
      fun short => Nat.le_trans (sample_le_peak _ short samples) room
    obtain ⟨rest, solves, result⟩ := sampleMarked_fits flow tokens steps method addressed fits
    rw [result]
    refine solves.avoids (by decide) ?_
    rw [runs.dModel_eq, served]
    exact clean
  · rw [sampleMarked_fails flow tokens steps method addressed (Nat.not_le.mp fits)]
    have noted : AllocationSite.backbone ∉ (state.fail .call).failures := by
      simpa [ScratchState.fail] using clean
    exact noted

/-- A call leaves the arena as it was, and no allocation of the backbone fails in it. -/
theorem exec_served (addressed : state.arena.Addressed) (room : Room engine cfg state.arena)
    {call : Call} (inRange : call.InRange) (clean : AllocationSite.backbone ∉ state.failures) :
    (engine.exec call state).2.arena = state.arena ∧
      AllocationSite.backbone ∉ (engine.exec call state).2.failures := by
  cases call with
  | run =>
      obtain ⟨arena, failures⟩ :=
        runs.run_served addressed room (Nat.ne_of_gt inRange.1)
      rw [exec, bind_pure_state, failures]
      exact ⟨arena, clean⟩
  | step =>
      rw [exec, bind_pure_state, runs.step_served addressed room]
      exact ⟨rfl, clean⟩
  | sample tokens steps method =>
      exact runs.sample_served addressed room (Nat.ne_of_gt inRange.1) steps method clean
  | reset =>
      rw [exec, reset, runs.noTransformer]
      exact ⟨rfl, clean⟩

/-- No allocation of the backbone fails in any sequence of calls. -/
theorem execAll_served (addressed : state.arena.Addressed) (room : Room engine cfg state.arena)
    {calls : List Call} (inRange : ∀ call ∈ calls, call.InRange)
    (clean : AllocationSite.backbone ∉ state.failures) :
    AllocationSite.backbone ∉ (engine.execAll calls state).2.failures := by
  induction calls generalizing state with
  | nil => exact clean
  | cons call rest ih =>
      obtain ⟨first, others⟩ := List.forall_mem_cons.mp inRange
      obtain ⟨arena, kept⟩ := runs.exec_served addressed room first clean
      rw [execAll]
      exact ih (arena ▸ addressed) (arena ▸ room) others kept

theorem run_fails (addressed : state.arena.Addressed)
    (exceeds : state.arena.limit <
      extent state.arena.cursor ((prefillBuffers cfg (longestPrefill cfg)).map floats)) :
    AllocationSite.backbone ∈
      (engine.run (List.replicate (longestPrefill cfg) 0) state).2.failures := by
  rw [run, marked_failures]
  exact runs.runBackbone_fails addressed exceeds

/-- Where the span of `sample` fits and the prefill behind it does not, `sample` fails in the
prefill. -/
theorem sample_fails (addressed : state.arena.Addressed) (samples : engine.samples = true)
    (fits : place state.arena.cursor (floats (longestPrefill cfg * cfg.dModel.toNat)) ≤
      state.arena.limit)
    (exceeds : state.arena.limit <
      extent (place state.arena.cursor (floats (longestPrefill cfg * cfg.dModel.toNat)))
        ((prefillBuffers cfg (longestPrefill cfg)).map floats)) :
    AllocationSite.backbone ∈
      (engine.sample (List.replicate (longestPrefill cfg) 0) 1 .euler state).2.failures := by
  have length : (List.replicate (longestPrefill cfg) (0 : Int)).length = longestPrefill cfg :=
    List.length_replicate
  have nonempty := Nat.ne_of_gt runs.longestPrefill_pos
  have short : longestPrefill cfg ≤ kMaxDecodeSeq := Nat.min_le_left _ _
  rw [EngineRuntime.samples, Bool.and_eq_true] at samples
  obtain ⟨flow, hasFlow⟩ := Option.isSome_iff_exists.mp samples.1
  have failed := runs.runBackbone_fails (state.addressed_at addressed (le_place _ _)) exceeds
  rw [sample, hasFlow]
  dsimp only
  rw [if_neg (by simp [runs.hasBackbone_eq]), if_neg (by simp [samples.2]), length,
    runs.prefixLimit_eq, if_neg (by omega), marked_failures]
  obtain ⟨rest, solves, result⟩ := sampleMarked_fits flow (List.replicate (longestPrefill cfg) 0)
    1 .euler addressed (by rwa [length, runs.dModel_eq])
  rw [result, length, runs.dModel_eq]
  exact solves.keeps_failure failed

/-- If there is no room, there is a call in which an allocation of the backbone fails. -/
theorem exec_fails (addressed : state.arena.Addressed)
    (exceeds : ¬ Room engine cfg state.arena) :
    ∃ call : Call, call.InRange ∧
      AllocationSite.backbone ∈ (engine.exec call state).2.failures := by
  have inRange : (List.replicate (longestPrefill cfg) (0 : Int)).length ∈
      Set.Icc 1 kMaxDecodeSeq := by
    rw [List.length_replicate]
    exact ⟨runs.longestPrefill_pos, Nat.min_le_left _ _⟩
  rw [Room, Nat.not_le, peakBuffers] at exceeds
  by_cases samples : engine.samples = true
  · rw [if_pos samples, List.map_cons, extent_cons] at exceeds
    by_cases fits : place state.arena.cursor (floats (longestPrefill cfg * cfg.dModel.toNat)) ≤
        state.arena.limit
    · exact ⟨.sample (List.replicate (longestPrefill cfg) 0) 1 .euler, inRange,
        runs.sample_fails addressed samples fits exceeds⟩
    · -- The input of a prefill is as large as the span of `sample`.
      refine ⟨.run (List.replicate (longestPrefill cfg) 0), inRange,
        runs.run_fails addressed ?_⟩
      rw [prefillBuffers, List.map_cons, extent_cons]
      exact Nat.lt_of_lt_of_le (Nat.not_le.mp fits) (le_extent _ _)
  · rw [if_neg samples] at exceeds
    exact ⟨.run (List.replicate (longestPrefill cfg) 0), inRange,
      runs.run_fails addressed exceeds⟩

end RunsMamba

/-! ## Where the backbone is a Transformer -/

section Transformer

variable {transformer : TransformerConfig} (isTransformer : engine.transformer = some transformer)

include isTransformer

theorem behaves_runBackbone_of_transformer (tokens : List Int) :
    Behaves [.transformer] (engine.runBackbone tokens) := by
  refine .ite (.pure 4) (.ite (.pure 1) ?_)
  rw [isTransformer]
  exact .bind (Transformer.behaves_forwardTokens transformer tokens) fun _ => .pure _

theorem behaves_step_of_transformer (token : Int) :
    Behaves [.transformer] (engine.step token) := by
  rw [step, isTransformer]
  exact .bind (Transformer.behaves_decodeToken transformer token) fun _ => .pure _

theorem behaves_sample_of_transformer (tokens : List Int) (steps : Nat) (method : FlowMethod) :
    Behaves [.call, .transformer, .head] (engine.sample tokens steps method) := by
  rw [sample]
  cases engine.flow with
  | none => exact .pure 4
  | some flow =>
      refine .ite (.pure 4) (.ite (.pure 4) (.ite (.pure 1) ?_))
      exact .marked (behaves_sampleMarked flow tokens steps method
        (behaves_runBackbone_of_transformer isTransformer tokens))

theorem behaves_exec_of_transformer (call : Call) :
    Behaves [.call, .transformer, .head] (engine.exec call) := by
  cases call with
  | run tokens =>
      have prefill := behaves_runBackbone_of_transformer isTransformer tokens
      exact .bind (.marked (prefill.weaken (by decide))) fun _ => .pure ()
  | step token =>
      have decode := behaves_step_of_transformer isTransformer token
      exact .bind (decode.weaken (by decide)) fun _ => .pure ()
  | sample tokens steps method =>
      exact .bind (behaves_sample_of_transformer isTransformer tokens steps method)
        fun _ => .pure ()
  | reset =>
      rw [exec, reset, isTransformer]
      exact Transformer.behaves_reset.weaken (by decide)

theorem behaves_execAll_of_transformer (calls : List Call) :
    Behaves [.call, .transformer, .head] (engine.execAll calls) := by
  induction calls with
  | nil => exact .pure ()
  | cons call rest ih => exact .bind (behaves_exec_of_transformer isTransformer call) fun _ => ih

end Transformer

/-! ## The slab -/

section Built

variable {platform : Platform} {tensors : List ModelTensor}
  {threads base : Nat} {state : ScratchState}

/-- The arena behind the constructor is still one of memory. -/
theorem addressed_of_build (positive : 0 < base)
    (bounded : base + (requiredSlabBytes platform tensors).toNat < 2 ^ 64)
    (built : build platform tensors threads base = (engine, state)) :
    state.arena.Addressed := by
  have taken := (demands_construct platform tensors threads).advances
    { arena := { cursor := base
                 limit := base + (requiredSlabBytes platform tensors).toNat } }
    (Nat.le_add_right _ _)
  rw [build] at built
  rw [built] at taken
  exact ⟨Nat.lt_of_lt_of_le positive taken.later, by rw [taken.limit]; exact bounded⟩

/-- **The budget of a prefill.** In a slab of the size that `required_slab_bytes` gives, the
allocations of the Mamba backbone all succeed just if the constructor has left room for the spans
of the longest prefill, where the backbone is not a Transformer anyhow. -/
theorem backbone_served_iff (positive : 0 < base)
    (bounded : base + (requiredSlabBytes platform tensors).toNat < 2 ^ 64)
    (built : build platform tensors threads base = (engine, state))
    (isMamba : engine.mamba = some cfg) :
    BackboneServed engine state ↔
      engine.transformer.isSome ∨
        extent state.arena.cursor ((engine.peakBuffers cfg).map floats) ≤ state.arena.limit := by
  have addressed := addressed_of_build positive bounded built
  have accepted : Mamba.Accepted cfg := by
    have returned := accepted_of_construct platform tensors threads
      { arena := { cursor := base
                   limit := base + (requiredSlabBytes platform tensors).toNat } }
    rw [build] at built
    rw [built] at returned
    exact returned cfg isMamba
  cases isTransformer : engine.transformer with
  | some transformer =>
      refine iff_of_true (fun calls _ => ?_) (.inl rfl)
      have behaves := behaves_execAll_of_transformer isTransformer calls
      exact behaves.avoids (by decide) (by simp)
  | none =>
      have runs : engine.RunsMamba cfg := ⟨isTransformer, isMamba, accepted⟩
      let start : ScratchState := { state with failures := [] }
      have memory : start.arena.Addressed := addressed
      refine ⟨fun served => .inr ?_, fun room calls inRange => ?_⟩
      · by_contra exceeds
        obtain ⟨call, inRange, failed⟩ := runs.exec_fails memory exceeds
        have clean := served [call] (by simpa using inRange)
        rw [execAll_singleton] at clean
        exact clean failed
      · have fits := room.resolve_left (by simp)
        exact runs.execAll_served memory fits inRange (by simp [start])

end Built

/-- A Mamba with one layer, all of whose dimensions but one are one. -/
private def narrowMamba (dtRank : UInt64) : List ModelTensor :=
  [ { name := .embeddings, dtype := .f32, ndim := 2, shape := [1, 1] },
    { name := .normF, dtype := .f32, ndim := 1, shape := [1] },
    { name := .layer 0 .norm, dtype := .f32, ndim := 1, shape := [1] },
    { name := .layer 0 .inProj, dtype := .f32, ndim := 2, shape := [2, 1] },
    { name := .layer 0 .convWeight, dtype := .f32, ndim := 3, shape := [1, 1, 1] },
    { name := .layer 0 .convBias, dtype := .f32, ndim := 1, shape := [1] },
    { name := .layer 0 .xProj, dtype := .f32, ndim := 2, shape := [dtRank + 2, 1] },
    { name := .layer 0 .dtWeight, dtype := .f32, ndim := 2, shape := [1, dtRank] },
    { name := .layer 0 .dtBias, dtype := .f32, ndim := 1, shape := [1] },
    { name := .layer 0 .aLog, dtype := .f32, ndim := 2, shape := [1, 1] },
    { name := .layer 0 .d, dtype := .f32, ndim := 1, shape := [1] },
    { name := .layer 0 .outProj, dtype := .f32, ndim := 2, shape := [1, 1] } ]

private def narrowConfig (dtRank : UInt64) : MambaConfig where
  vocab := 1
  dModel := 1
  dInner := 1
  dState := 1
  dConv := 1
  dtRank := dtRank
  nLayers := 1

/-- With a `dt_rank` of one there is room for any prefill. -/
theorem backbone_served_narrow :
    BackboneServed (build commonPlatform (narrowMamba 1) 0 64).1
      (build commonPlatform (narrowMamba 1) 0 64).2 := by
  have built : build commonPlatform (narrowMamba 1) 0 64 =
      ((build commonPlatform (narrowMamba 1) 0 64).1,
        (build commonPlatform (narrowMamba 1) 0 64).2) := rfl
  have isMamba : (build commonPlatform (narrowMamba 1) 0 64).1.mamba =
      some (narrowConfig 1) := by decide
  exact (backbone_served_iff (by decide) (by decide) built isMamba).mpr (.inr (by decide +kernel))

/-- With a `dt_rank` of sixteen a prefill of 512 tokens takes more than the slab holds. -/
theorem backbone_exhausted :
    (build commonPlatform (narrowMamba 16) 0 64).1.mamba = some (narrowConfig 16) ∧
    (build commonPlatform (narrowMamba 16) 0 64).1.ready = true ∧
    ¬ BackboneServed (build commonPlatform (narrowMamba 16) 0 64).1
      (build commonPlatform (narrowMamba 16) 0 64).2 := by
  refine ⟨by decide, by decide, fun served => ?_⟩
  refine served [.run (List.replicate 512 0)] ?_ (by decide +kernel)
  intro call member
  rw [List.mem_singleton.mp member]
  change (List.replicate 512 (0 : Int)).length ∈ Set.Icc 1 kMaxDecodeSeq
  rw [List.length_replicate]
  exact ⟨by decide, Nat.le_refl _⟩

end EngineRuntime

end FlowEdge
