import FlowEdge.Client.ActionChunks

/-! # The controller-side action gate

The gate holds one active chunk, publishes its steps at their times, blends the
first steps of a replacement with the rest of the replaced chunk, and keeps
every published component inside its absolute and per-step limits. Arithmetic
on components is exact.
-/

namespace FlowEdge

open Words

/-- What is done with values outside the limits. -/
inductive UnsafeActionPolicy where
  | reject
  | clamp
  deriving DecidableEq

/-- What becomes of a chunk that is offered. -/
inductive ActionChunkAcceptResult where
  | accepted
  | replaced
  | invalid
  | stale
  | expired
  | sessionMismatch
  | unsafeValues
  deriving DecidableEq

/-- Why there is no step. -/
inductive ActionStepError where
  | empty
  | notReady
  | expired
  | unsafeValues
  | invalidTime
  deriving DecidableEq

/-- Why no gate is made. -/
inductive ActionDeliveryCreateError where
  | invalidModel
  | invalidConfig
  | invalidOverlap
  | limitShapeMismatch
  | invalidLimit
  deriving DecidableEq

/-- The model fields the gate reads. -/
structure ModelMetadata where
  structSize : UInt32
  protocolVersion : UInt32
  modelDigest : ModelDigest
  actionDim : UInt64
  deriving DecidableEq

def modelMetadataBytes : Nat := 96

structure ActionDeliveryConfig where
  controlDim : Nat
  overlapSteps : Nat
  stepPeriodNs : UInt64
  maxSourceAgeNs : UInt64
  unsafePolicy : UnsafeActionPolicy
  deriving DecidableEq

/-- The limits of each component, and of its change from step to step. -/
structure ActionSafetyLimits where
  lower : List FloatValue
  upper : List FloatValue
  maxDeltaPerStep : List FloatValue
  deriving DecidableEq

/-- A step that is published. -/
structure ActionStepView where
  values : List ℚ
  sequence : UInt64
  sessionId : UInt64
  generation : UInt64
  stepIndex : Nat
  blended : Bool
  clamped : Bool
  deriving DecidableEq

/-- The counters of a gate. They are 64-bit words in the source and numbers here: no run counts as
far as 2^64. -/
structure ActionDeliveryCounters where
  accepted : Nat := 0
  replaced : Nat := 0
  rejectedInvalid : Nat := 0
  rejectedStale : Nat := 0
  rejectedExpired : Nat := 0
  rejectedSession : Nat := 0
  rejectedUnsafe : Nat := 0
  published : Nat := 0
  blended : Nat := 0
  clampedValues : Nat := 0
  skippedSteps : Nat := 0
  deriving DecidableEq

/-- The gate. Its fixed arrays are lists read with a zero default, as the
source's arrays are zero-initialised. -/
structure ActionDeliveryGate where
  config : ActionDeliveryConfig
  modelDigest : ModelDigest
  modelActionValues : Nat
  lower : List ℚ := []
  upper : List ℚ := []
  maxDelta : List ℚ := []
  activeValues : List ℚ := []
  overlapValues : List ℚ := []
  output : List ℚ := []
  activeChunk : ActionChunkDescriptor := {}
  counters : ActionDeliveryCounters := {}
  nextStep : Nat := 0
  overlapSteps : Nat := 0
  sessionId : UInt64 := 0
  newestGeneration : UInt64 := 0
  newestSequence : UInt64 := 0
  lastPublishNs : UInt64 := 0
  active : Bool := false
  sessionBound : Bool := false
  hasLastOutput : Bool := false
  deriving DecidableEq

namespace ActionDeliveryGate

def validModel (model : ModelMetadata) : Bool :=
  model.structSize.toNat ≥ modelMetadataBytes ∧ model.protocolVersion = protocolVersion ∧
    model.actionDim ≠ 0 ∧ model.actionDim.toNat ≤ maxActionDim

/-- One component's limits are usable: finite, ordered, with a nonnegative rate. -/
def validLimit (lower upper delta : FloatValue) : Bool :=
  lower.isFinite ∧ upper.isFinite ∧ delta.isFinite ∧ lower.toRat ≤ upper.toRat ∧ 0 ≤ delta.toRat

/-- `ActionDeliveryGate::create`, with its checks in order. -/
def create (model : ModelMetadata) (config : ActionDeliveryConfig) (limits : ActionSafetyLimits) :
    Except ActionDeliveryCreateError ActionDeliveryGate :=
  if ¬ validModel model then .error .invalidModel
  else if config.controlDim = 0 ∨ config.controlDim > maxActionDim ∨
      model.actionDim.toNat % config.controlDim ≠ 0 ∨ config.stepPeriodNs = 0 then
    .error .invalidConfig
  else if config.overlapSteps > model.actionDim.toNat / config.controlDim then
    .error .invalidOverlap
  else if limits.lower.length ≠ config.controlDim ∨ limits.upper.length ≠ config.controlDim ∨
      limits.maxDeltaPerStep.length ≠ config.controlDim then
    .error .limitShapeMismatch
  else if ¬ (List.range config.controlDim).all fun index =>
      validLimit (limits.lower.getD index .nan) (limits.upper.getD index .nan)
        (limits.maxDeltaPerStep.getD index .nan) then
    .error .invalidLimit
  else
    .ok
      { config := config
        modelDigest := model.modelDigest
        modelActionValues := model.actionDim.toNat
        lower := limits.lower.map FloatValue.toRat
        upper := limits.upper.map FloatValue.toRat
        maxDelta := limits.maxDeltaPerStep.map FloatValue.toRat }

/-- Every value is between the limits of its component. -/
def withinAbsoluteLimits (gate : ActionDeliveryGate) (values : List FloatValue) : Bool :=
  (List.range values.length).all fun index =>
    let component := index % gate.config.controlDim
    let value := (values.getD index .nan).toRat
    ¬ (value < gate.lower.getD component 0 ∨ value > gate.upper.getD component 0)

/-- Keep the unpublished steps of the active chunk that a replacement overlaps. -/
def captureOverlap (gate : ActionDeliveryGate) (replacement : ActionChunkDescriptor) :
    ActionDeliveryGate :=
  if ¬ gate.active ∨ gate.config.overlapSteps = 0 ∨
      replacement.validFromNs < gate.activeChunk.validFromNs then
    { gate with overlapSteps := 0 }
  else
    let elapsed : UInt64 := replacement.validFromNs - gate.activeChunk.validFromNs
    let timedStep : Nat := (elapsed / gate.config.stepPeriodNs).toNat
    let oldStep : Nat := max gate.nextStep timedStep
    if oldStep ≥ gate.activeChunk.stepCount.toNat then { gate with overlapSteps := 0 }
    else
      let overlapSteps : Nat := min gate.config.overlapSteps
        (min (gate.activeChunk.stepCount.toNat - oldStep) replacement.stepCount.toNat)
      { gate with
        overlapSteps := overlapSteps
        overlapValues := (List.range overlapSteps).flatMap fun step =>
          (gate.activeValues.drop ((oldStep + step) * gate.config.controlDim)).take
            gate.config.controlDim }

def countInvalid (gate : ActionDeliveryGate) : ActionDeliveryGate :=
  { gate with counters :=
      { gate.counters with rejectedInvalid := gate.counters.rejectedInvalid + 1 } }

def countUnsafe (gate : ActionDeliveryGate) : ActionDeliveryGate :=
  { gate with counters :=
      { gate.counters with rejectedUnsafe := gate.counters.rejectedUnsafe + 1 } }

def countExpired (gate : ActionDeliveryGate) : ActionDeliveryGate :=
  { gate with counters :=
      { gate.counters with rejectedExpired := gate.counters.rejectedExpired + 1 } }

def countSession (gate : ActionDeliveryGate) : ActionDeliveryGate :=
  { gate with counters :=
      { gate.counters with rejectedSession := gate.counters.rejectedSession + 1 } }

def countStale (gate : ActionDeliveryGate) : ActionDeliveryGate :=
  { gate with counters :=
      { gate.counters with rejectedStale := gate.counters.rejectedStale + 1 } }

/-- Take over a chunk that passed every check. -/
def install (gate : ActionDeliveryGate) (chunk : ActionChunkView) : ActionDeliveryGate :=
  let captured := gate.captureOverlap chunk.descriptor
  { captured with
    activeValues := chunk.values.map FloatValue.toRat
    activeChunk := chunk.descriptor
    nextStep := 0
    sessionId := chunk.descriptor.sessionId
    newestGeneration := chunk.descriptor.generation
    newestSequence := chunk.descriptor.sequence
    active := true
    sessionBound := true
    counters :=
      { gate.counters with
        accepted := gate.counters.accepted + 1
        replaced := gate.counters.replaced + if gate.active then 1 else 0 } }

/-- `accept_impl`: the checks of a chunk in order, and its installation. -/
def acceptImpl (gate : ActionDeliveryGate) (chunk : ActionChunkView) (nowNs : UInt64)
    (valuesValidated : Bool) : ActionDeliveryGate × ActionChunkAcceptResult :=
  let descriptor := chunk.descriptor
  if descriptor.controlDim = 0 ∨ descriptor.stepCount = 0 ∨
      descriptor.stepCount.toNat > maxActionDim / descriptor.controlDim.toNat ∨
      descriptor.stepCount.toUInt64 >
        (maxWord - descriptor.validFromNs) / gate.config.stepPeriodNs then
    (gate.countInvalid, .invalid)
  else
    let expectedValues : Nat := descriptor.controlDim.toNat * descriptor.stepCount.toNat
    let expectedValidUntil : UInt64 :=
      descriptor.validFromNs + descriptor.stepCount.toUInt64 * gate.config.stepPeriodNs
    if descriptor.structSize.toNat ≠ actionChunkDescriptorBytes ∨
        descriptor.protocolVersion ≠ actionChunkProtocolVersion ∨
        descriptor.controlDim.toNat ≠ gate.config.controlDim ∨
        expectedValues ≠ gate.modelActionValues ∨ chunk.values.length ≠ expectedValues ∨
        descriptor.modelDigest ≠ gate.modelDigest ∨ descriptor.producedNs > nowNs ∨
        (descriptor.sourceTimestampNs ≠ 0 ∧
          descriptor.producedNs < descriptor.sourceTimestampNs) ∨
        descriptor.validFromNs ≥ descriptor.validUntilNs ∨
        descriptor.validUntilNs ≠ expectedValidUntil ∨
        (gate.config.maxSourceAgeNs ≠ 0 ∧ descriptor.sourceTimestampNs = 0) then
      (gate.countInvalid, .invalid)
    else if ¬ valuesValidated ∧ ¬ chunk.values.all FloatValue.isFinite then
      (gate.countUnsafe, .unsafeValues)
    else if (descriptor.sourceTimestampNs ≠ 0 ∧ nowNs < descriptor.sourceTimestampNs) ∨
        (descriptor.sourceDeadlineNs ≠ 0 ∧
          descriptor.sourceDeadlineNs < descriptor.sourceTimestampNs) then
      (gate.countInvalid, .invalid)
    else
      let sourceTooOld : Bool := gate.config.maxSourceAgeNs ≠ 0 ∧
        descriptor.sourceTimestampNs ≠ 0 ∧
        nowNs - descriptor.sourceTimestampNs > gate.config.maxSourceAgeNs
      if nowNs ≥ descriptor.validUntilNs ∨ sourceTooOld ∨
          (descriptor.sourceDeadlineNs ≠ 0 ∧ nowNs > descriptor.sourceDeadlineNs) then
        (gate.countExpired, .expired)
      else if gate.config.unsafePolicy = .reject ∧ ¬ gate.withinAbsoluteLimits chunk.values then
        (gate.countUnsafe, .unsafeValues)
      else if gate.sessionBound ∧ descriptor.sessionId ≠ gate.sessionId then
        (gate.countSession, .sessionMismatch)
      else if gate.sessionBound ∧ (descriptor.generation ≤ gate.newestGeneration ∨
          descriptor.sequence ≤ gate.newestSequence) then
        (gate.countStale, .stale)
      else (gate.install chunk, if gate.active then .replaced else .accepted)

/-- Accept a chunk the caller built. -/
def acceptChunk (gate : ActionDeliveryGate) (chunk : ActionChunkView) (nowNs : UInt64) :
    ActionDeliveryGate × ActionChunkAcceptResult :=
  gate.acceptImpl chunk nowNs false

/-- Accept a completed action. -/
def acceptAction (gate : ActionDeliveryGate) (action : ActionMessage)
    (nowNs validFromNs : UInt64) : ActionDeliveryGate × ActionChunkAcceptResult :=
  match makeActionChunk action gate.config.controlDim nowNs validFromNs
      gate.config.stepPeriodNs with
  | .error .expired => (gate.countExpired, .expired)
  | .error .nonFinite => (gate.countUnsafe, .unsafeValues)
  | .error _ => (gate.countInvalid, .invalid)
  | .ok chunk => gate.acceptImpl chunk nowNs true

/-- How a blended step mixes the replaced chunk's value with the fresh one, as
`std::lerp` of the two and a weight. -/
abbrev Lerp := ℚ → ℚ → ℚ → ℚ

/-- The exact linear interpolation. -/
def exactLerp : Lerp := fun old fresh weight => old + weight * (fresh - old)

def clampTo (value lower upper : ℚ) : ℚ :=
  if value < lower then lower else if upper < value then upper else value

/-- The steps of the period a publication at `nowNs` may use for its rate limit. -/
def elapsedSteps (gate : ActionDeliveryGate) (nowNs : UInt64) : UInt64 :=
  if gate.hasLastOutput ∧ nowNs > gate.lastPublishNs then
    wordMax 1 ((nowNs - gate.lastPublishNs) / gate.config.stepPeriodNs)
  else 1

/-- The value a step proposes for a component before any limit. -/
def candidate (gate : ActionDeliveryGate) (lerp : Lerp) (step component : Nat) : ℚ :=
  let offset := step * gate.config.controlDim
  let fresh := gate.activeValues.getD (offset + component) 0
  if step < gate.overlapSteps then
    lerp (gate.overlapValues.getD (offset + component) 0) fresh
      (((step + 1 : Nat) : ℚ) / ((gate.overlapSteps + 1 : Nat) : ℚ))
  else fresh

/-- The change that the time since the last step allows. -/
def allowedDelta (gate : ActionDeliveryGate) (nowNs : UInt64) (component : Nat) : ℚ :=
  gate.maxDelta.getD component 0 * (gate.elapsedSteps nowNs).toNat

/-- The proposed value obeys both limits as it stands. -/
def componentSafe (gate : ActionDeliveryGate) (nowNs : UInt64) (component : Nat) (proposed : ℚ) :
    Bool :=
  (gate.lower.getD component 0 ≤ proposed ∧ proposed ≤ gate.upper.getD component 0) ∧
    (¬ gate.hasLastOutput ∨
      |proposed - gate.output.getD component 0| ≤ gate.allowedDelta nowNs component)

/-- The proposed value moved inside both limits. -/
def clampComponent (gate : ActionDeliveryGate) (nowNs : UInt64) (component : Nat)
    (proposed : ℚ) : ℚ :=
  let lower := gate.lower.getD component 0
  let upper := gate.upper.getD component 0
  let safe := clampTo proposed lower upper
  if gate.hasLastOutput then
    let last := gate.output.getD component 0
    let delta := gate.allowedDelta nowNs component
    clampTo (clampTo safe (last - delta) (last + delta)) lower upper
  else safe

/-- One turn of the component loop; nothing when the reject policy stops it. -/
def publishComponent (gate : ActionDeliveryGate) (nowNs : UInt64) (component : Nat)
    (proposed : ℚ) : Option ℚ :=
  if gate.config.unsafePolicy = .reject ∧ ¬ gate.componentSafe nowNs component proposed then none
  else some (gate.clampComponent nowNs component proposed)

/-- The pending output after the first `count` components. -/
def publishComponents (gate : ActionDeliveryGate) (lerp : Lerp) (nowNs : UInt64) (step : Nat) :
    (count : Nat) → Option (List ℚ)
  | 0 => some []
  | count + 1 => do
      let pending ← publishComponents gate lerp nowNs step count
      let safe ← gate.publishComponent nowNs count (gate.candidate lerp step count)
      pure (pending ++ [safe])

/-- The components that were changed. -/
def clampedCount (gate : ActionDeliveryGate) (lerp : Lerp) (step : Nat) (pending : List ℚ) : Nat :=
  (List.range gate.config.controlDim).countP fun component =>
    pending.getD component 0 ≠ gate.candidate lerp step component

def deactivate (gate : ActionDeliveryGate) : ActionDeliveryGate := { gate with active := false }

/-- Count the steps that are passed over. -/
def skipTo (gate : ActionDeliveryGate) (step : Nat) : ActionDeliveryGate :=
  { gate with counters :=
      { gate.counters with
        skippedSteps := gate.counters.skippedSteps + (step - gate.nextStep) } }

/-- Record a publication of `pending` as step `step`. -/
def commit (gate : ActionDeliveryGate) (lerp : Lerp) (nowNs : UInt64) (step : Nat)
    (pending : List ℚ) : ActionDeliveryGate :=
  { gate with
    output := pending
    nextStep := step + 1
    lastPublishNs := nowNs
    hasLastOutput := true
    active := if step + 1 = gate.activeChunk.stepCount.toNat then false else gate.active
    counters :=
      { gate.counters with
        clampedValues := gate.counters.clampedValues + gate.clampedCount lerp step pending
        published := gate.counters.published + 1
        blended := gate.counters.blended + if step < gate.overlapSteps then 1 else 0 } }

def stepView (gate : ActionDeliveryGate) (lerp : Lerp) (step : Nat) (pending : List ℚ) :
    ActionStepView where
  values := pending
  sequence := gate.activeChunk.sequence
  sessionId := gate.activeChunk.sessionId
  generation := gate.activeChunk.generation
  stepIndex := step
  blended := step < gate.overlapSteps
  clamped := gate.clampedCount lerp step pending ≠ 0

/-- Publish the step due at `nowNs`. -/
def next (gate : ActionDeliveryGate) (lerp : Lerp) (nowNs : UInt64) :
    ActionDeliveryGate × Except ActionStepError ActionStepView :=
  if ¬ gate.active then (gate, .error .empty)
  else if gate.hasLastOutput ∧ nowNs < gate.lastPublishNs then (gate, .error .invalidTime)
  else if nowNs < gate.activeChunk.validFromNs then (gate, .error .notReady)
  else if gate.activeChunk.sourceTimestampNs ≠ 0 ∧ nowNs < gate.activeChunk.sourceTimestampNs then
    (gate, .error .invalidTime)
  else
    let sourceTooOld : Bool := gate.config.maxSourceAgeNs ≠ 0 ∧
      gate.activeChunk.sourceTimestampNs ≠ 0 ∧
      nowNs - gate.activeChunk.sourceTimestampNs > gate.config.maxSourceAgeNs
    if nowNs ≥ gate.activeChunk.validUntilNs ∨ sourceTooOld then
      (gate.deactivate.countExpired, .error .expired)
    else
      let step : Nat :=
        ((nowNs - gate.activeChunk.validFromNs) / gate.config.stepPeriodNs).toNat
      if step ≥ gate.activeChunk.stepCount.toNat then
        (gate.deactivate.countExpired, .error .expired)
      else if step < gate.nextStep then (gate, .error .notReady)
      else
        -- The skipped steps are counted before the component loop can refuse.
        let skipped := gate.skipTo step
        match skipped.publishComponents lerp nowNs step gate.config.controlDim with
        | none => (skipped.deactivate.countUnsafe, .error .unsafeValues)
        | some pending =>
            (skipped.commit lerp nowNs step pending, .ok (skipped.stepView lerp step pending))

/-- Give up the session; the counters stay. -/
def reset (gate : ActionDeliveryGate) : ActionDeliveryGate :=
  { gate with
    active := false
    sessionBound := false
    hasLastOutput := false
    nextStep := 0
    overlapSteps := 0
    sessionId := 0
    newestGeneration := 0
    newestSequence := 0
    lastPublishNs := 0 }

end ActionDeliveryGate

end FlowEdge
