import FlowEdge.Client.ActionDeliveryFreshness

/-!
# The overlap of a replaced chunk

A chunk that replaces an active one keeps some of its steps, and blends its own first steps with
them. What `capture_overlap` reads and writes is in range, the times that the gate computes with do
not wrap, and a blended step is mixed with a step of the replaced chunk that was not published and
that is not earlier than the one scheduled when the replacement begins.
-/

namespace FlowEdge

open Words

namespace ActionDeliveryGate

/-! ## The capture -/

/-- The indices of some steps in a flat array of steps, in order. -/
def stepIndices (first count dim : Nat) : List Nat :=
  (List.range count).flatMap fun step =>
    (List.range dim).map fun component => (first + step) * dim + component

theorem lt_of_mem_stepIndices {first count dim index : Nat}
    (member : index ∈ stepIndices first count dim) : index < (first + count) * dim := by
  obtain ⟨step, counted, here⟩ := List.mem_flatMap.mp member
  obtain ⟨component, inside, rfl⟩ := List.mem_map.mp here
  rw [List.mem_range] at counted inside
  calc (first + step) * dim + component
      < (first + step + 1) * dim := by
        rw [Nat.add_mul _ 1, Nat.one_mul]
        exact Nat.add_lt_add_left inside _
    _ ≤ (first + count) * dim := Nat.mul_le_mul_right _ (by omega)

/-- Steps that follow each other make up one run of values. -/
theorem flatMap_steps (values : List ℚ) (dim first count : Nat) :
    ((List.range count).flatMap fun step => (values.drop ((first + step) * dim)).take dim) =
      (values.drop (first * dim)).take (count * dim) := by
  induction count with
  | zero => simp
  | succ count ih =>
      rw [List.range_succ, List.flatMap_append, ih, List.flatMap_singleton, Nat.add_mul count,
        Nat.one_mul, List.take_add, List.drop_drop, Nat.add_mul]

section Capture

variable (gate : ActionDeliveryGate) (replacement : ActionChunkDescriptor)

/-- The step of the active chunk that is scheduled when the replacement begins. -/
def timedStep : Nat :=
  ((replacement.validFromNs - gate.activeChunk.validFromNs) / gate.config.stepPeriodNs).toNat

/-- The first step of the active chunk that a replacement can keep. -/
def oldStep : Nat := max gate.nextStep (gate.timedStep replacement)

/-- The indices of the active values that `capture_overlap` reads. -/
def captureReads : List Nat :=
  stepIndices (gate.oldStep replacement) (gate.captureOverlap replacement).overlapSteps
    gate.config.controlDim

/-- The indices of the overlap values that `capture_overlap` writes. -/
def captureWrites : List Nat :=
  stepIndices 0 (gate.captureOverlap replacement).overlapSteps gate.config.controlDim

/-- What a capture of some steps keeps. -/
structure Captures (count : Nat) : Prop where
  active : gate.active = true
  started : gate.activeChunk.validFromNs ≤ replacement.validFromNs
  configured : count ≤ gate.config.overlapSteps
  inside : gate.oldStep replacement + count ≤ gate.activeChunk.stepCount.toNat
  kept : gate.captureOverlap replacement =
    { gate with
      overlapSteps := count
      overlapValues := (gate.activeValues.drop
        (gate.oldStep replacement * gate.config.controlDim)).take (count * gate.config.controlDim) }

theorem captureOverlap_cases :
    gate.captureOverlap replacement = { gate with overlapSteps := 0 } ∨
      ∃ count, gate.Captures replacement count := by
  have unfolded := captureOverlap.eq_1 gate replacement
  split at unfolded
  next => exact .inl unfolded
  next checked =>
    dsimp only at unfolded
    split at unfolded
    next => exact .inl unfolded
    next inside =>
      simp only [not_or, not_not, UInt64.not_lt] at checked
      have before : gate.oldStep replacement < gate.activeChunk.stepCount.toNat :=
        Nat.lt_of_not_le inside
      refine .inr ⟨min gate.config.overlapSteps
        (min (gate.activeChunk.stepCount.toNat - gate.oldStep replacement)
          replacement.stepCount.toNat), checked.1, checked.2.2, Nat.min_le_left _ _, ?_,
        unfolded.trans ?_⟩
      · omega
      · rw [← flatMap_steps]
        rfl

end Capture

/-! ## Ranges and times -/

/-- The gate holds the values of its active chunk, and its overlap fits the buffer. -/
structure Loaded (gate : ActionDeliveryGate) : Prop where
  period : gate.config.stepPeriodNs ≠ 0
  room : gate.config.overlapSteps * gate.config.controlDim ≤ maxActionDim
  values : gate.active = true → gate.activeValues.length =
    gate.activeChunk.stepCount.toNat * gate.config.controlDim

/-- What `accept_impl` has checked of a chunk that it accepts. -/
structure Fits (gate : ActionDeliveryGate) (chunk : ActionChunkView) (nowNs : UInt64) : Prop where
  values : chunk.values.length = chunk.descriptor.stepCount.toNat * gate.config.controlDim
  spare : chunk.descriptor.stepCount.toUInt64 ≤
    (maxWord - chunk.descriptor.validFromNs) / gate.config.stepPeriodNs
  source : chunk.descriptor.sourceTimestampNs ≠ 0 → chunk.descriptor.sourceTimestampNs ≤ nowNs

/-- The result of an offer that the gate has taken. -/
abbrev Taken (result : ActionChunkAcceptResult) : Prop := result = .accepted ∨ result = .replaced

variable {gate : ActionDeliveryGate} {chunk : ActionChunkView} {nowNs : UInt64}

theorem fits_of_taken {validated : Bool} (taken : Taken (gate.acceptImpl chunk nowNs validated).2) :
    (gate.acceptImpl chunk nowNs validated).1 = gate.install chunk ∧ gate.Fits chunk nowNs := by
  suffices fitting : ∃ outcome, gate.acceptImpl chunk nowNs validated = outcome ∧
      (Taken outcome.2 → outcome.1 = gate.install chunk ∧ gate.Fits chunk nowNs) by
    obtain ⟨outcome, rfl, fitting⟩ := fitting
    exact fitting taken
  have refused : ∀ {after : ActionDeliveryGate} {result : ActionChunkAcceptResult},
      result ≠ .accepted → result ≠ .replaced → Taken result →
        after = gate.install chunk ∧ gate.Fits chunk nowNs :=
    fun accepted replaced taken => absurd taken (not_or.mpr ⟨accepted, replaced⟩)
  refine ⟨_, rfl, ?_⟩
  unfold acceptImpl
  dsimp only
  split
  · exact refused nofun nofun
  next sized =>
    split
    · exact refused nofun nofun
    next formed =>
      split
      · exact refused nofun nofun
      split
      · exact refused nofun nofun
      next dated =>
        split
        · exact refused nofun nofun
        split
        · exact refused nofun nofun
        split
        · exact refused nofun nofun
        split
        · exact refused nofun nofun
        · simp only [not_or, not_not, not_and, UInt64.not_lt] at sized formed dated
          intro _
          refine ⟨rfl, ?_, sized.2.2.2, dated.1⟩
          rw [formed.2.2.2.2.1, formed.2.2.1, Nat.mul_comm]

/-- What an offer leads to, with the checks of a chunk that is taken. -/
inductive Fitting (gate : ActionDeliveryGate) (nowNs : UInt64) :
    ActionDeliveryGate × ActionChunkAcceptResult → Prop
  | rejected {result : ActionChunkAcceptResult} (refused : ¬ Taken result) :
      Fitting gate nowNs (gate.countRejection result, result)
  | installed {chunk : ActionChunkView} {result : ActionChunkAcceptResult}
      (admits : gate.Admits chunk.descriptor) (fits : gate.Fits chunk nowNs)
      (taken : Taken result) : Fitting gate nowNs (gate.install chunk, result)

theorem OfferOutcome.admits
    {outcome : ActionDeliveryGate × ActionChunkAcceptResult} (offered : gate.OfferOutcome outcome)
    (taken : Taken outcome.2) : gate.Admits outcome.1.activeChunk := by
  cases offered with
  | rejected result refused => exact absurd taken (not_or.mpr refused)
  | installed admits => exact admits

theorem fitting_acceptImpl (gate : ActionDeliveryGate) (chunk : ActionChunkView) (nowNs : UInt64)
    (validated : Bool) : gate.Fitting nowNs (gate.acceptImpl chunk nowNs validated) := by
  have offered := gate.offerOutcome_acceptImpl chunk nowNs validated
  generalize outcome : gate.acceptImpl chunk nowNs validated = result at offered
  by_cases taken : Taken result.2
  · have admits := offered.admits taken
    obtain ⟨installs, fits⟩ := fits_of_taken (outcome ▸ taken)
    rw [outcome] at installs
    obtain ⟨after, result⟩ := result
    obtain rfl : after = gate.install chunk := installs
    exact .installed admits fits taken
  · have rejection := offered.rejection (not_or.mp taken)
    obtain ⟨after, result⟩ := result
    obtain rfl : after = gate.countRejection result := rejection
    exact .rejected taken

theorem fitting_acceptAction (gate : ActionDeliveryGate) (action : ActionMessage)
    (nowNs validFromNs : UInt64) :
    gate.Fitting nowNs (gate.acceptAction action nowNs validFromNs) := by
  unfold acceptAction
  split
  · exact @Fitting.rejected gate nowNs .expired nofun
  · exact @Fitting.rejected gate nowNs .unsafeValues nofun
  · exact @Fitting.rejected gate nowNs .invalid nofun
  · exact fitting_acceptImpl gate _ nowNs true

/-- The time computations of an accepted chunk are exact. -/
structure AcceptTimes (gate : ActionDeliveryGate) (chunk : ActionChunkDescriptor)
    (nowNs : UInt64) : Prop where
  spare : (maxWord - chunk.validFromNs).toNat = maxWord.toNat - chunk.validFromNs.toNat
  length : (chunk.stepCount.toUInt64 * gate.config.stepPeriodNs).toNat =
    chunk.stepCount.toNat * gate.config.stepPeriodNs.toNat
  ends : (chunk.validFromNs + chunk.stepCount.toUInt64 * gate.config.stepPeriodNs).toNat =
    chunk.validFromNs.toNat + chunk.stepCount.toNat * gate.config.stepPeriodNs.toNat
  age : chunk.sourceTimestampNs ≠ 0 →
    (nowNs - chunk.sourceTimestampNs).toNat + chunk.sourceTimestampNs.toNat = nowNs.toNat
  elapsed : ¬ chunk.validFromNs < gate.activeChunk.validFromNs →
    (chunk.validFromNs - gate.activeChunk.validFromNs).toNat +
      gate.activeChunk.validFromNs.toNat = chunk.validFromNs.toNat

/-- The time computations of a call of `next` are exact wherever the call reaches them. -/
structure NextTimes (gate : ActionDeliveryGate) (nowNs : UInt64) : Prop where
  age : ¬ (gate.activeChunk.sourceTimestampNs ≠ 0 ∧
      nowNs < gate.activeChunk.sourceTimestampNs) → gate.activeChunk.sourceTimestampNs ≠ 0 →
    (nowNs - gate.activeChunk.sourceTimestampNs).toNat +
      gate.activeChunk.sourceTimestampNs.toNat = nowNs.toNat
  position : ¬ nowNs < gate.activeChunk.validFromNs →
    (nowNs - gate.activeChunk.validFromNs).toNat + gate.activeChunk.validFromNs.toNat =
      nowNs.toNat
  since : nowNs > gate.lastPublishNs →
    (nowNs - gate.lastPublishNs).toNat + gate.lastPublishNs.toNat = nowNs.toNat

theorem toNat_sub_add {earlier later : UInt64} (ordered : earlier ≤ later) :
    (later - earlier).toNat + earlier.toNat = later.toNat := by
  rw [UInt64.toNat_sub_of_le _ _ ordered]
  exact Nat.sub_add_cancel (UInt64.le_iff_toNat_le.mp ordered)

theorem Fits.times (fits : gate.Fits chunk nowNs) : gate.AcceptTimes chunk.descriptor nowNs := by
  have below : chunk.descriptor.validFromNs ≤ maxWord := by
    rw [UInt64.le_iff_toNat_le]
    exact Nat.le_of_lt_succ (UInt64.toNat_lt _)
  have spare := UInt64.toNat_sub_of_le _ _ below
  have bound : chunk.descriptor.stepCount.toNat * gate.config.stepPeriodNs.toNat ≤
      maxWord.toNat - chunk.descriptor.validFromNs.toNat := by
    have steps := UInt64.le_iff_toNat_le.mp fits.spare
    rw [UInt64.toNat_div, spare, UInt32.toNat_toUInt64] at steps
    exact (Nat.mul_le_mul_right _ steps).trans (Nat.div_mul_le_self _ _)
  have most : maxWord.toNat < 2 ^ 64 := UInt64.toNat_lt _
  have length : (chunk.descriptor.stepCount.toUInt64 * gate.config.stepPeriodNs).toNat =
      chunk.descriptor.stepCount.toNat * gate.config.stepPeriodNs.toNat := by
    rw [UInt64.toNat_mul, UInt32.toNat_toUInt64]
    exact Nat.mod_eq_of_lt (by omega)
  refine ⟨spare, length, ?_, fun dated => toNat_sub_add (fits.source dated),
    fun late => toNat_sub_add (UInt64.not_lt.mp late)⟩
  have order := UInt64.le_iff_toNat_le.mp below
  rw [UInt64.toNat_add, length]
  exact Nat.mod_eq_of_lt (by omega)

theorem nextTimes (gate : ActionDeliveryGate) (nowNs : UInt64) : gate.NextTimes nowNs where
  age := fun seen dated => toNat_sub_add (UInt64.not_lt.mp fun early => seen ⟨dated, early⟩)
  position := fun started => toNat_sub_add (UInt64.not_lt.mp started)
  since := fun later => toNat_sub_add (UInt64.le_of_lt later)

/-- What the capture reads and writes is in range. -/
structure CaptureInRange (gate : ActionDeliveryGate) (replacement : ActionChunkDescriptor) :
    Prop where
  reads : ∀ index ∈ gate.captureReads replacement, index < gate.activeValues.length
  writes : ∀ index ∈ gate.captureWrites replacement, index < maxActionDim

theorem Loaded.captureInRange (loaded : gate.Loaded) (replacement : ActionChunkDescriptor) :
    gate.CaptureInRange replacement := by
  rcases gate.captureOverlap_cases replacement with nothing | ⟨count, captures⟩
  · have steps : (gate.captureOverlap replacement).overlapSteps = 0 := by rw [nothing]
    constructor
    · simp [captureReads, steps, stepIndices]
    · simp [captureWrites, steps, stepIndices]
  · have steps : (gate.captureOverlap replacement).overlapSteps = count := by rw [captures.kept]
    constructor
    · intro index member
      rw [captureReads, steps] at member
      rw [loaded.values captures.active]
      exact (lt_of_mem_stepIndices member).trans_le (Nat.mul_le_mul_right _ captures.inside)
    · intro index member
      rw [captureWrites, steps] at member
      refine (lt_of_mem_stepIndices member).trans_le (le_trans ?_ loaded.room)
      rw [Nat.zero_add]
      exact Nat.mul_le_mul_right _ captures.configured

/-! ## Frames -/

/-- The gate holds the same chunk and the same overlap, if it is still active. -/
structure SameChunk (before after : ActionDeliveryGate) : Prop where
  config : after.config = before.config
  newest : after.newestGeneration = before.newestGeneration
  chunk : after.activeChunk = before.activeChunk
  values : after.activeValues = before.activeValues
  steps : after.overlapSteps = before.overlapSteps
  overlap : after.overlapValues = before.overlapValues
  active : after.active = true → before.active = true

theorem sameChunk_countRejection (gate : ActionDeliveryGate) (result : ActionChunkAcceptResult) :
    gate.SameChunk (gate.countRejection result) :=
  ⟨rfl, rfl, rfl, rfl, rfl, rfl, id⟩

theorem StepOutcome.sameChunk {lerp : Lerp}
    {outcome : ActionDeliveryGate × Except ActionStepError ActionStepView}
    (stepped : gate.StepOutcome lerp nowNs outcome) : gate.SameChunk outcome.1 := by
  cases stepped with
  | waits => exact ⟨rfl, rfl, rfl, rfl, rfl, rfl, id⟩
  | expires active => exact ⟨rfl, rfl, rfl, rfl, rfl, rfl, fun _ => active⟩
  | refuses active => exact ⟨rfl, rfl, rfl, rfl, rfl, rfl, fun _ => active⟩
  | publishes active => exact ⟨rfl, rfl, rfl, rfl, rfl, rfl, fun _ => active⟩

theorem blended_inside {lerp : Lerp} {view : ActionStepView}
    (published : (gate.next lerp nowNs).2 = .ok view) (blended : view.blended = true) :
    view.stepIndex < gate.overlapSteps := by
  have stepped := gate.stepOutcome_next lerp nowNs
  generalize gate.next lerp nowNs = outcome at published stepped
  cases stepped with
  | publishes =>
      obtain rfl := Except.ok.inj published
      exact of_decide_eq_true blended
  | _ => cases published

theorem Loaded.of_sameChunk {before after : ActionDeliveryGate} (loaded : before.Loaded)
    (same : before.SameChunk after) : after.Loaded where
  period := same.config ▸ loaded.period
  room := same.config ▸ loaded.room
  values := fun active => by
    rw [same.values, same.chunk, same.config]
    exact loaded.values (same.active active)

theorem Loaded.install (loaded : gate.Loaded) (fits : gate.Fits chunk nowNs) :
    (gate.install chunk).Loaded := by
  have same : (gate.install chunk).config = gate.config := (sameReference_install gate chunk).config
  refine ⟨same ▸ loaded.period, same ▸ loaded.room, fun _ => ?_⟩
  rw [same]
  exact (List.length_map _).trans fits.values

variable {model : ModelMetadata} {config : ActionDeliveryConfig} {limits : ActionSafetyLimits}

theorem loaded_of_create (created : create model config limits = .ok gate) : gate.Loaded := by
  simp only [create, ite_error_eq_ok, validModel, not_not, decide_eq_true_eq] at created
  obtain ⟨valid, formed, fits, -, -, ⟨⟩⟩ := created
  refine ⟨fun zero => formed (.inr (.inr (.inr zero))), ?_, by rintro ⟨⟩⟩
  exact (Nat.mul_le_mul_right _ (Nat.le_of_not_lt fits)).trans
    ((Nat.div_mul_le_self _ _).trans valid.2.2.2)

/-! ## Runs -/

/-- A replaced chunk with its values and the first of its steps that were kept. -/
structure OverlapSource where
  chunk : ActionChunkDescriptor
  values : List ℚ
  oldStep : Nat

/-- The chunk that a replacement takes its overlap from. -/
def overlapSource (gate : ActionDeliveryGate) (replacement : ActionChunkDescriptor) :
    Option OverlapSource :=
  if gate.active then
    some ⟨gate.activeChunk, gate.activeValues, gate.oldStep replacement⟩
  else none

/-- A published step that was blended, with the old values that it was mixed with and the chunk
that its own chunk had replaced. -/
structure Blend where
  chunk : ActionChunkDescriptor
  view : ActionStepView
  old : List ℚ
  source : Option OverlapSource

/-- A delivery with the chunk that the active one replaced and the blended steps since the last
reset. -/
structure OverlapRun where
  delivery : Delivery
  source : Option OverlapSource
  blends : List Blend

namespace OverlapRun

def start (gate : ActionDeliveryGate) : OverlapRun := ⟨.start gate, none, []⟩

/-- A chunk was offered. If it was taken, its overlap comes from the one before. -/
def offered (run : OverlapRun) (outcome : ActionDeliveryGate × ActionChunkAcceptResult) :
    OverlapRun :=
  { run with
    delivery := run.delivery.offered outcome
    source :=
      if Taken outcome.2 then run.delivery.gate.overlapSource outcome.1.activeChunk
      else run.source }

/-- The blended step of a publication. -/
def blend (run : OverlapRun) (view : ActionStepView) : Blend where
  chunk := run.delivery.gate.activeChunk
  view := view
  old := (run.delivery.gate.overlapValues.drop
    (view.stepIndex * run.delivery.gate.config.controlDim)).take
      run.delivery.gate.config.controlDim
  source := run.source

/-- The old values of a blended step are the ones that its components are mixed with. -/
theorem candidate_eq_blend (run : OverlapRun) (lerp : Lerp) {view : ActionStepView}
    (inside : view.stepIndex < run.delivery.gate.overlapSteps) {component : Nat}
    (bound : component < run.delivery.gate.config.controlDim) :
    run.delivery.gate.candidate lerp view.stepIndex component =
      lerp ((run.blend view).old.getD component 0)
        (run.delivery.gate.activeValues.getD
          (view.stepIndex * run.delivery.gate.config.controlDim + component) 0)
        (((view.stepIndex + 1 : Nat) : ℚ) / ((run.delivery.gate.overlapSteps + 1 : Nat) : ℚ)) := by
  have old : (run.blend view).old.getD component 0 = run.delivery.gate.overlapValues.getD
      (view.stepIndex * run.delivery.gate.config.controlDim + component) 0 := by
    rw [blend, List.getD_eq_getElem?_getD, List.getElem?_take_of_lt bound, List.getElem?_drop,
      ← List.getD_eq_getElem?_getD]
  rw [old]
  exact if_pos inside

/-- A step was asked for. If it was blended, it is noted. -/
def advanced (run : OverlapRun) (nowNs : UInt64)
    (outcome : ActionDeliveryGate × Except ActionStepError ActionStepView) : OverlapRun :=
  { run with
    delivery := run.delivery.advanced nowNs outcome
    blends :=
      match outcome.2 with
      | .error _ => run.blends
      | .ok view => if view.blended then run.blends ++ [run.blend view] else run.blends }

def step (run : OverlapRun) : Call → OverlapRun
  | .acceptAction action nowNs validFromNs =>
      run.offered (run.delivery.gate.acceptAction action nowNs validFromNs)
  | .acceptChunk chunk nowNs => run.offered (run.delivery.gate.acceptChunk chunk nowNs)
  | .next lerp nowNs => run.advanced nowNs (run.delivery.gate.next lerp nowNs)
  | .reset => start run.delivery.gate.reset

def run (gate : ActionDeliveryGate) (calls : List Call) : OverlapRun :=
  calls.foldl step (start gate)

/-- A replaced chunk is older than the newest one, and no step of it that was kept is delivered. -/
structure Retired (delivery : Delivery) (source : OverlapSource) : Prop where
  accepted : source.chunk ∈ delivery.accepted
  older : source.chunk.generation < delivery.gate.newestGeneration
  unplayed : ∀ step ∈ delivery.delivered, step.view.generation = source.chunk.generation →
    step.view.stepIndex < source.oldStep

/-- The kept steps are not earlier than the one scheduled when the chunk begins. -/
structure Scheduled (config : ActionDeliveryConfig) (chunk : ActionChunkDescriptor)
    (source : OverlapSource) : Prop where
  started : source.chunk.validFromNs ≤ chunk.validFromNs
  timed : (chunk.validFromNs.toNat - source.chunk.validFromNs.toNat) /
    config.stepPeriodNs.toNat ≤ source.oldStep

/-- The overlap of the gate is a part of the replaced chunk. -/
structure Overlaps (gate : ActionDeliveryGate) (source : OverlapSource) : Prop where
  scheduled : Scheduled gate.config gate.activeChunk source
  inside : source.oldStep + gate.overlapSteps ≤ source.chunk.stepCount.toNat
  values : gate.overlapValues = (source.values.drop
    (source.oldStep * gate.config.controlDim)).take (gate.overlapSteps * gate.config.controlDim)

/-- A blended step is mixed with a step of the replaced chunk that comes in time. -/
structure Mixes (config : ActionDeliveryConfig) (blend : Blend) (source : OverlapSource) :
    Prop where
  here : blend.source = some source
  scheduled : Scheduled config blend.chunk source
  inside : source.oldStep + blend.view.stepIndex < source.chunk.stepCount.toNat
  old : blend.old = (source.values.drop
    ((source.oldStep + blend.view.stepIndex) * config.controlDim)).take config.controlDim

/-- What holds between the calls. -/
structure Sound (origin : ActionDeliveryGate) (run : OverlapRun) : Prop where
  recorded : Delivery.Recorded origin run.delivery
  loaded : run.delivery.gate.Loaded
  retired : ∀ source, run.source = some source → Retired run.delivery source
  overlaps : run.delivery.gate.overlapSteps ≠ 0 →
    ∃ source, run.source = some source ∧ Overlaps run.delivery.gate source
  blends : ∀ blend ∈ run.blends, ∃ source,
    Mixes run.delivery.gate.config blend source ∧ Retired run.delivery source

variable {origin : ActionDeliveryGate} {source : OverlapSource} {delivery : Delivery}

theorem Retired.of_sameChunk (retired : Retired delivery source) {after : ActionDeliveryGate}
    (same : delivery.gate.SameChunk after) :
    Retired { delivery with gate := after } source where
  accepted := retired.accepted
  older := same.newest ▸ retired.older
  unplayed := retired.unplayed

theorem Overlaps.of_sameChunk {after : ActionDeliveryGate} (overlaps : Overlaps gate source)
    (same : gate.SameChunk after) : Overlaps after source := by
  obtain ⟨scheduled, inside, values⟩ := overlaps
  constructor
  · rw [same.config, same.chunk]
    exact scheduled
  · rw [same.steps]
    exact inside
  · rw [same.overlap, same.config, same.steps]
    exact values

variable {chunk : ActionChunkView}

/-- A replaced chunk stays older than the chunk that is taken over. -/
theorem Retired.installs (recorded : Delivery.Recorded origin delivery)
    (retired : Retired delivery source) (admits : delivery.gate.Admits chunk.descriptor) :
    Retired { delivery with
      gate := delivery.gate.install chunk
      accepted := delivery.accepted ++ [chunk.descriptor] } source where
  accepted := List.mem_append_left _ retired.accepted
  older := UInt64.lt_trans retired.older
    (admits.generation (recorded.bound (List.ne_nil_of_mem retired.accepted)))
  unplayed := retired.unplayed

/-- The chunk that is replaced has none of its later steps delivered. -/
theorem retired_of_replaces (recorded : Delivery.Recorded origin delivery)
    (admits : delivery.gate.Admits chunk.descriptor)
    (replaces : delivery.gate.overlapSource chunk.descriptor = some source) :
    Retired { delivery with
      gate := delivery.gate.install chunk
      accepted := delivery.accepted ++ [chunk.descriptor] } source := by
  unfold overlapSource at replaces
  split at replaces
  next active =>
    obtain rfl := Option.some.inj replaces
    obtain ⟨current, newest⟩ := recorded.active active
    refine ⟨List.mem_append_left _ current, ?_, fun step member same => ?_⟩
    · exact newest ▸ admits.generation (recorded.bound (List.ne_nil_of_mem current))
    · exact (recorded.played step member active same).trans_le (Nat.le_max_left _ _)
  next => cases replaces

/-- A captured overlap is a part of the chunk that is replaced. -/
theorem overlaps_install (kept : (gate.install chunk).overlapSteps ≠ 0) :
    ∃ source, gate.overlapSource chunk.descriptor = some source ∧
      Overlaps (gate.install chunk) source := by
  have steps : (gate.install chunk).overlapSteps =
    (gate.captureOverlap chunk.descriptor).overlapSteps := rfl
  have values : (gate.install chunk).overlapValues =
    (gate.captureOverlap chunk.descriptor).overlapValues := rfl
  have config : (gate.install chunk).config = gate.config :=
    (sameReference_install gate chunk).config
  rcases gate.captureOverlap_cases chunk.descriptor with nothing | ⟨count, captures⟩
  · rw [nothing] at steps
    exact absurd steps kept
  · rw [captures.kept] at steps values
    refine ⟨_, if_pos captures.active, ⟨captures.started, ?_⟩, ?_, ?_⟩
    · have timed : gate.timedStep chunk.descriptor ≤ gate.oldStep chunk.descriptor :=
        Nat.le_max_right _ _
      rw [timedStep, UInt64.toNat_div, UInt64.toNat_sub_of_le _ _ captures.started] at timed
      rw [config]
      exact timed
    · rw [steps]
      exact captures.inside
    · rw [values, steps, config]

/-- A kept run of steps read at one of them. -/
theorem take_drop_step (values : List ℚ) {dim first count step : Nat} (inside : step < count) :
    (((values.drop (first * dim)).take (count * dim)).drop (step * dim)).take dim =
      (values.drop ((first + step) * dim)).take dim := by
  rw [List.drop_take, List.take_take, List.drop_drop, ← Nat.add_mul, ← Nat.sub_mul]
  congr 1
  exact Nat.min_eq_left (Nat.le_mul_of_pos_left _ (Nat.sub_pos_of_lt inside))

variable {run : OverlapRun}

theorem sound_start (config : gate.config = origin.config)
    (digest : gate.modelDigest = origin.modelDigest) (idle : gate.active = false)
    (loaded : gate.Loaded) (none : gate.overlapSteps = 0) : Sound origin (start gate) where
  recorded := Delivery.recorded_start config digest idle
  loaded := loaded
  retired := nofun
  overlaps := fun kept => absurd none kept
  blends := nofun

theorem Sound.offered (sound : Sound origin run)
    {outcome : ActionDeliveryGate × ActionChunkAcceptResult}
    (offer : run.delivery.gate.OfferOutcome outcome)
    (fitting : run.delivery.gate.Fitting nowNs outcome) : Sound origin (run.offered outcome) := by
  have recorded := sound.recorded.offered offer.acceptance
  cases fitting with
  | @rejected result refused =>
      have same := sameChunk_countRejection run.delivery.gate result
      rw [Delivery.offered, if_neg refused] at recorded
      rw [OverlapRun.offered, Delivery.offered, if_neg refused, if_neg refused]
      refine ⟨recorded, sound.loaded.of_sameChunk same, fun source here => ?_, fun kept => ?_,
        fun blend member => ?_⟩
      · exact (sound.retired source here).of_sameChunk same
      · obtain ⟨source, here, overlaps⟩ := sound.overlaps (same.steps ▸ kept)
        exact ⟨source, here, overlaps.of_sameChunk same⟩
      · obtain ⟨source, mixes, retired⟩ := sound.blends blend member
        exact ⟨source, same.config.symm ▸ mixes, retired.of_sameChunk same⟩
  | @installed chunk result admits fits taken =>
      rw [Delivery.offered, if_pos taken] at recorded
      rw [OverlapRun.offered, Delivery.offered, if_pos taken, if_pos taken]
      refine ⟨recorded, sound.loaded.install fits, fun source here => ?_, overlaps_install,
        fun blend member => ?_⟩
      · exact retired_of_replaces sound.recorded admits here
      · obtain ⟨source, mixes, retired⟩ := sound.blends blend member
        have config := (sameReference_install run.delivery.gate chunk).config
        exact ⟨source, config.symm ▸ mixes, retired.installs sound.recorded admits⟩

/-- A blended step is mixed with the replaced chunk at the place of the step. -/
theorem Overlaps.mixes (here : run.source = some source)
    (overlaps : Overlaps run.delivery.gate source) {view : ActionStepView}
    (inside : view.stepIndex < run.delivery.gate.overlapSteps) :
    Mixes run.delivery.gate.config (run.blend view) source where
  here := here
  scheduled := overlaps.scheduled
  inside := (Nat.add_lt_add_left inside _).trans_le overlaps.inside
  old := by
    rw [blend, overlaps.values]
    exact take_drop_step source.values inside

/-- A step of the active chunk does not belong to a replaced one. -/
theorem Retired.delivers (retired : Retired delivery source) {delivered : Delivered}
    (newest : delivered.view.generation = delivery.gate.newestGeneration) :
    Retired { delivery with delivered := delivery.delivered ++ [delivered] } source where
  accepted := retired.accepted
  older := retired.older
  unplayed := fun step member same => by
    rcases List.mem_append.mp member with earlier | here
    · exact retired.unplayed step earlier same
    · obtain rfl := List.mem_singleton.mp here
      have older := retired.older
      rw [← same, newest] at older
      exact absurd older (UInt64.lt_irrefl _)

theorem Sound.advanced (sound : Sound origin run) {lerp : Lerp}
    {outcome : ActionDeliveryGate × Except ActionStepError ActionStepView}
    (stepped : run.delivery.gate.StepOutcome lerp nowNs outcome)
    (recorded : Delivery.Recorded origin (run.delivery.advanced nowNs outcome)) :
    Sound origin (run.advanced nowNs outcome) := by
  have same := stepped.sameChunk
  obtain ⟨after, result⟩ := outcome
  have overlaps : after.overlapSteps ≠ 0 →
      ∃ source, run.source = some source ∧ Overlaps after source := by
    intro kept
    obtain ⟨source, here, overlaps⟩ := sound.overlaps (same.steps ▸ kept)
    exact ⟨source, here, overlaps.of_sameChunk same⟩
  cases result with
  | error error =>
      refine ⟨recorded, sound.loaded.of_sameChunk same, fun source here => ?_, overlaps,
        fun blend member => ?_⟩
      · exact (sound.retired source here).of_sameChunk same
      · obtain ⟨source, mixes, retired⟩ := sound.blends blend member
        exact ⟨source, same.config.symm ▸ mixes, retired.of_sameChunk same⟩
  | ok view =>
      have published : view.generation = run.delivery.gate.newestGeneration ∧
          (view.blended = true → view.stepIndex < run.delivery.gate.overlapSteps) := by
        cases stepped with
        | publishes active =>
            exact ⟨(sound.recorded.active active).2, fun blended => of_decide_eq_true blended⟩
      have delivers : ∀ source, Retired run.delivery source →
          Retired (run.delivery.advanced nowNs (after, .ok view)) source :=
        fun source retired => (retired.delivers published.1).of_sameChunk same
      have earlier : ∀ blend ∈ run.blends, ∃ source, Mixes after.config blend source ∧
          Retired (run.delivery.advanced nowNs (after, .ok view)) source := by
        intro blend member
        obtain ⟨source, mixes, retired⟩ := sound.blends blend member
        exact ⟨source, same.config.symm ▸ mixes, delivers source retired⟩
      refine ⟨recorded, sound.loaded.of_sameChunk same,
        fun source here => delivers source (sound.retired source here), overlaps, ?_⟩
      intro blend member
      dsimp only [OverlapRun.advanced] at member
      split at member
      next blended =>
        rcases List.mem_append.mp member with before | now
        · exact earlier blend before
        · obtain rfl := List.mem_singleton.mp now
          have inside := published.2 blended
          obtain ⟨source, here, kept⟩ := sound.overlaps (Nat.ne_zero_of_lt inside)
          exact ⟨source, same.config.symm ▸ kept.mixes here inside,
            delivers source (sound.retired source here)⟩
      next => exact earlier blend member

/-- Every call keeps the overlap a part of what was not delivered. -/
theorem Sound.step (sound : Sound origin run) (call : Call) : Sound origin (run.step call) := by
  cases call with
  | acceptAction =>
      exact sound.offered (offerOutcome_acceptAction _ _ _ _) (fitting_acceptAction _ _ _ _)
  | acceptChunk =>
      exact sound.offered (offerOutcome_acceptImpl _ _ _ _) (fitting_acceptImpl _ _ _ _)
  | next lerp nowNs =>
      exact sound.advanced (stepOutcome_next _ lerp nowNs)
        (sound.recorded.advanced (advance_next _ lerp nowNs))
  | reset =>
      exact sound_start sound.recorded.config sound.recorded.digest rfl
        ⟨sound.loaded.period, sound.loaded.room, nofun⟩ rfl

theorem sound_run (idle : origin.active = false) (loaded : origin.Loaded)
    (none : origin.overlapSteps = 0) (calls : List Call) :
    Sound origin (OverlapRun.run origin calls) := by
  have along : ∀ run, Sound origin run → Sound origin (calls.foldl OverlapRun.step run) := by
    induction calls with
    | nil => exact fun _ sound => sound
    | cons call calls ih => exact fun _ sound => ih _ (sound.step call)
  exact along _ (sound_start rfl rfl idle loaded none)

end OverlapRun

theorem create_config (created : create model config limits = .ok gate) : gate.config = config := by
  unfold create at created
  repeat' split at created
  all_goals cases created
  rfl

theorem create_overlapSteps (created : create model config limits = .ok gate) :
    gate.overlapSteps = 0 := by
  unfold create at created
  repeat' split at created
  all_goals cases created
  rfl

/-- **The overlap is in range and never replays.** In every state of every run of a created gate:
a chunk that is taken over captures inside the values of the old chunk and inside the buffer, and
no time computation of the offer or of `next` wraps. A blended step `i` is mixed with the values of
the step `oldStep + i` of the chunk that its own chunk replaced. No step of that chunk from
`oldStep` on is ever delivered, and the step scheduled when the new chunk begins is not later. -/
theorem overlap_never_replays {model : ModelMetadata} {config : ActionDeliveryConfig}
    {limits : ActionSafetyLimits} {gate : ActionDeliveryGate}
    (created : create model config limits = .ok gate) (calls : List Call)
    {run : OverlapRun} (reached : run = OverlapRun.run gate calls) :
    (∀ chunk nowNs validated, Taken (run.delivery.gate.acceptImpl chunk nowNs validated).2 →
      run.delivery.gate.CaptureInRange chunk.descriptor ∧
      run.delivery.gate.AcceptTimes chunk.descriptor nowNs) ∧
    (∀ nowNs, run.delivery.gate.NextTimes nowNs) ∧
    (∀ lerp nowNs view, (run.delivery.gate.next lerp nowNs).2 = .ok view → view.blended = true →
      (run.step (.next lerp nowNs)).blends = run.blends ++ [run.blend view] ∧
      ∀ component < config.controlDim,
        run.delivery.gate.candidate lerp view.stepIndex component =
          lerp ((run.blend view).old.getD component 0)
            (run.delivery.gate.activeValues.getD
              (view.stepIndex * config.controlDim + component) 0)
            (((view.stepIndex + 1 : Nat) : ℚ) /
              ((run.delivery.gate.overlapSteps + 1 : Nat) : ℚ))) ∧
    ∀ blend ∈ run.blends, ∃ source, blend.source = some source ∧
      source.oldStep + blend.view.stepIndex < source.chunk.stepCount.toNat ∧
      blend.old = (source.values.drop
        ((source.oldStep + blend.view.stepIndex) * config.controlDim)).take config.controlDim ∧
      (∀ step ∈ run.delivery.delivered,
        step.view.generation = source.chunk.generation → step.view.stepIndex < source.oldStep) ∧
      source.chunk.validFromNs ≤ blend.chunk.validFromNs ∧
      (blend.chunk.validFromNs.toNat - source.chunk.validFromNs.toNat) /
        config.stepPeriodNs.toNat ≤ source.oldStep := by
  have sound := OverlapRun.sound_run (create_active created) (loaded_of_create created)
    (create_overlapSteps created) calls
  rw [← reached] at sound
  have same : run.delivery.gate.config = config :=
    sound.recorded.config.trans (create_config created)
  refine ⟨fun chunk nowNs validated taken => ?_, fun nowNs => nextTimes _ nowNs,
    fun lerp nowNs view published blended => ⟨?_, fun component bound => ?_⟩,
    fun blend member => ?_⟩
  · exact ⟨sound.loaded.captureInRange _, (fits_of_taken taken).2.times⟩
  · simp only [OverlapRun.step, OverlapRun.advanced, published, blended, if_true]
  · have inside := blended_inside published blended
    rw [← same] at bound ⊢
    exact run.candidate_eq_blend lerp inside bound
  · obtain ⟨source, mixes, retired⟩ := sound.blends blend member
    rw [same] at mixes
    exact ⟨source, mixes.here, mixes.inside, mixes.old, retired.unplayed,
      mixes.scheduled.started, mixes.scheduled.timed⟩

private def lappedModel : ModelMetadata := ⟨96, 1, Vector.replicate 16 7, 3⟩

private def lappedConfig : ActionDeliveryConfig := ⟨1, 2, 10, 0, .clamp⟩

private def lappedLimits : ActionSafetyLimits := ⟨[.finite 0], [.finite 8], [.finite 8]⟩

private def lappedGate : ActionDeliveryGate where
  config := lappedConfig
  modelDigest := Vector.replicate 16 7
  modelActionValues := 3
  lower := [0]
  upper := [8]
  maxDelta := [8]

private def lappedChunk (generation validFromNs : UInt64) (values : List FloatValue) :
    ActionChunkView where
  descriptor :=
    { controlDim := 1, stepCount := 3, modelDigest := Vector.replicate 16 7,
      sequence := generation, generation := generation, producedNs := 100,
      validFromNs := validFromNs, validUntilNs := validFromNs + 30 }
  values := values

/-- A chunk is replaced behind its first step. -/
private def lappedCalls : List Call :=
  [.acceptChunk (lappedChunk 1 100 [.finite 1, .finite 2, .finite 3]) 100, .next exactLerp 100,
    .acceptChunk (lappedChunk 2 110 [.finite 4, .finite 5, .finite 6]) 105, .next exactLerp 112,
    .next exactLerp 121]

theorem overlap_never_replays_lapped :
    create lappedModel lappedConfig lappedLimits = .ok lappedGate ∧
    (OverlapRun.run lappedGate lappedCalls).blends.map
      (fun blend => (blend.view.stepIndex, blend.old)) = [(0, [2]), (1, [3])] ∧
    ∀ blend ∈ (OverlapRun.run lappedGate lappedCalls).blends, ∃ source,
      blend.source = some source ∧
      ∀ step ∈ (OverlapRun.run lappedGate lappedCalls).delivery.delivered,
        step.view.generation = source.chunk.generation → step.view.stepIndex < source.oldStep := by
  have created : create lappedModel lappedConfig lappedLimits = .ok lappedGate := by decide +kernel
  refine ⟨created, by decide +kernel, fun blend member => ?_⟩
  obtain ⟨-, -, -, blends⟩ := overlap_never_replays created lappedCalls rfl
  obtain ⟨source, here, -, -, unplayed, -⟩ := blends blend member
  exact ⟨source, here, unplayed⟩

end ActionDeliveryGate

end FlowEdge
