import FlowEdge.Client.ActionDelivery

/-! # What the calls of the gate can do

A chunk is either rejected, which counts in one counter and does nothing else, or installed; a step
is refused before or after the gate has given up its chunk, or published. An action is offered as
the chunk that it becomes.
-/

namespace FlowEdge

open Words

/-- The values of a chunk were checked when it was made. -/
theorem makeActionChunk_finite {action : ActionMessage} {controlDim : Nat}
    {producedNs validFromNs stepPeriodNs : UInt64} {chunk : ActionChunkView}
    (made : makeActionChunk action controlDim producedNs validFromNs stepPeriodNs = .ok chunk) :
    chunk.values.all FloatValue.isFinite = true := by
  simp only [makeActionChunk, ite_error_eq_ok, not_not] at made
  obtain ⟨-, -, -, -, -, -, -, -, finite, ⟨⟩⟩ := made
  exact finite

namespace ActionDeliveryGate

/-! ## Offers -/

/-- The gate with one more in the counter of a rejection, and nothing else changed. -/
def countRejection (gate : ActionDeliveryGate) (result : ActionChunkAcceptResult) :
    ActionDeliveryGate :=
  let increment := fun counted => if result = counted then 1 else 0
  { gate with counters :=
      { gate.counters with
        rejectedInvalid := gate.counters.rejectedInvalid + increment .invalid
        rejectedStale := gate.counters.rejectedStale + increment .stale
        rejectedExpired := gate.counters.rejectedExpired + increment .expired
        rejectedSession := gate.counters.rejectedSession + increment .sessionMismatch
        rejectedUnsafe := gate.counters.rejectedUnsafe + increment .unsafeValues } }

/-- The chunk may follow what the gate has accepted since the last reset. -/
structure Admits (gate : ActionDeliveryGate) (chunk : ActionChunkDescriptor) : Prop where
  digest : chunk.modelDigest = gate.modelDigest
  dated : gate.config.maxSourceAgeNs ≠ 0 → chunk.sourceTimestampNs ≠ 0
  session : gate.sessionBound = true → chunk.sessionId = gate.sessionId
  generation : gate.sessionBound = true → gate.newestGeneration < chunk.generation
  sequence : gate.sessionBound = true → gate.newestSequence < chunk.sequence

/-- What an offer leads to. -/
inductive OfferOutcome (gate : ActionDeliveryGate) :
    ActionDeliveryGate × ActionChunkAcceptResult → Prop
  | rejected (result : ActionChunkAcceptResult)
      (refused : result ≠ .accepted ∧ result ≠ .replaced) :
      OfferOutcome gate (gate.countRejection result, result)
  | installed {chunk : ActionChunkView} {result : ActionChunkAcceptResult}
      (admits : gate.Admits chunk.descriptor) (taken : result = .accepted ∨ result = .replaced) :
      OfferOutcome gate (gate.install chunk, result)

variable (gate : ActionDeliveryGate)

theorem offerOutcome_acceptImpl (chunk : ActionChunkView) (nowNs : UInt64) (validated : Bool) :
    gate.OfferOutcome (gate.acceptImpl chunk nowNs validated) := by
  have invalid : gate.OfferOutcome (gate.countInvalid, .invalid) :=
    .rejected .invalid ⟨nofun, nofun⟩
  have unsafeValues : gate.OfferOutcome (gate.countUnsafe, .unsafeValues) :=
    .rejected .unsafeValues ⟨nofun, nofun⟩
  unfold acceptImpl
  dsimp only
  split
  · exact invalid
  split
  · exact invalid
  next formed =>
    split
    · exact unsafeValues
    split
    · exact invalid
    split
    · exact .rejected .expired ⟨nofun, nofun⟩
    split
    · exact unsafeValues
    split
    · exact .rejected .sessionMismatch ⟨nofun, nofun⟩
    next same =>
      split
      · exact .rejected .stale ⟨nofun, nofun⟩
      next newer =>
        simp only [not_or, not_not] at formed
        obtain ⟨-, -, -, -, -, digest, -, -, -, -, dated⟩ := formed
        refine .installed ⟨digest, fun limited undated => dated ⟨limited, undated⟩, ?_, ?_, ?_⟩ ?_
        · intro bound
          by_contra other
          exact same ⟨bound, other⟩
        · intro bound
          by_contra older
          exact newer ⟨bound, .inl (UInt64.not_lt.mp older)⟩
        · intro bound
          by_contra older
          exact newer ⟨bound, .inr (UInt64.not_lt.mp older)⟩
        · split
          · exact .inr rfl
          · exact .inl rfl

theorem offerOutcome_acceptAction (action : ActionMessage) (nowNs validFromNs : UInt64) :
    gate.OfferOutcome (gate.acceptAction action nowNs validFromNs) := by
  unfold acceptAction
  split
  · exact .rejected .expired ⟨nofun, nofun⟩
  · exact .rejected .unsafeValues ⟨nofun, nofun⟩
  · exact .rejected .invalid ⟨nofun, nofun⟩
  · exact offerOutcome_acceptImpl gate _ nowNs true

theorem OfferOutcome.rejection {gate : ActionDeliveryGate}
    {outcome : ActionDeliveryGate × ActionChunkAcceptResult} (offered : gate.OfferOutcome outcome)
    (refused : outcome.2 ≠ .accepted ∧ outcome.2 ≠ .replaced) :
    outcome.1 = gate.countRejection outcome.2 := by
  cases offered with
  | rejected => rfl
  | installed admits taken =>
      rcases taken with accepted | replaced
      · exact absurd accepted refused.1
      · exact absurd replaced refused.2

/-- The check of the values may be left out for values that pass it. -/
theorem acceptImpl_validated {chunk : ActionChunkView}
    (finite : chunk.values.all FloatValue.isFinite = true) (nowNs : UInt64) :
    gate.acceptImpl chunk nowNs true = gate.acceptImpl chunk nowNs false := by
  simp only [acceptImpl, finite, not_true_eq_false, and_false, if_false]

theorem acceptAction_eq {action : ActionMessage} {nowNs validFromNs : UInt64}
    {chunk : ActionChunkView}
    (made : makeActionChunk action gate.config.controlDim nowNs validFromNs
      gate.config.stepPeriodNs = .ok chunk) :
    gate.acceptAction action nowNs validFromNs = gate.acceptChunk chunk nowNs := by
  rw [acceptAction, made]
  exact acceptImpl_validated gate (makeActionChunk_finite made) nowNs

/-! ## Steps -/

/-- The step of a chunk is due: the time lies in the chunk, the source is not too old and the
step is the one that the time asks for. -/
structure StepDue (config : ActionDeliveryConfig) (chunk : ActionChunkDescriptor) (nowNs : UInt64)
    (step : Nat) : Prop where
  started : chunk.validFromNs ≤ nowNs
  unexpired : nowNs < chunk.validUntilNs
  position : step = (nowNs.toNat - chunk.validFromNs.toNat) / config.stepPeriodNs.toNat
  inside : step < chunk.stepCount.toNat
  fresh : config.maxSourceAgeNs ≠ 0 → chunk.sourceTimestampNs ≠ 0 →
    chunk.sourceTimestampNs ≤ nowNs ∧
      nowNs.toNat - chunk.sourceTimestampNs.toNat ≤ config.maxSourceAgeNs.toNat

theorem stepDue_of_checks {config : ActionDeliveryConfig} {chunk : ActionChunkDescriptor}
    {nowNs : UInt64} (started : chunk.validFromNs ≤ nowNs)
    (seen : ¬ (chunk.sourceTimestampNs ≠ 0 ∧ nowNs < chunk.sourceTimestampNs))
    (young : ¬ (nowNs ≥ chunk.validUntilNs ∨ decide (config.maxSourceAgeNs ≠ 0 ∧
      chunk.sourceTimestampNs ≠ 0 ∧
      nowNs - chunk.sourceTimestampNs > config.maxSourceAgeNs) = true))
    (inside : ((nowNs - chunk.validFromNs) / config.stepPeriodNs).toNat < chunk.stepCount.toNat) :
    StepDue config chunk nowNs ((nowNs - chunk.validFromNs) / config.stepPeriodNs).toNat := by
  obtain ⟨unexpired, fresh⟩ := not_or.mp young
  refine ⟨started, UInt64.not_le.mp unexpired, ?_, inside, fun limited dated => ?_⟩
  · rw [UInt64.toNat_div, UInt64.toNat_sub_of_le _ _ started]
  · have source : chunk.sourceTimestampNs ≤ nowNs :=
      UInt64.not_lt.mp fun early => seen ⟨dated, early⟩
    have age : ¬ config.maxSourceAgeNs < nowNs - chunk.sourceTimestampNs :=
      fun old => fresh (decide_eq_true ⟨limited, dated, old⟩)
    rw [← UInt64.toNat_sub_of_le _ _ source]
    exact ⟨source, UInt64.le_iff_toNat_le.mp (UInt64.not_lt.mp age)⟩

/-- What a call of `next` leads to. -/
inductive StepOutcome (gate : ActionDeliveryGate) (lerp : Lerp) (nowNs : UInt64) :
    ActionDeliveryGate × Except ActionStepError ActionStepView → Prop
  | waits {error : ActionStepError}
      (early : error = .empty ∨ error = .notReady ∨ error = .invalidTime) :
      StepOutcome gate lerp nowNs (gate, .error error)
  | expires (active : gate.active = true) :
      StepOutcome gate lerp nowNs (gate.deactivate.countExpired, .error .expired)
  | refuses {step : Nat} (active : gate.active = true)
      (due : StepDue gate.config gate.activeChunk nowNs step) (unplayed : gate.nextStep ≤ step) :
      StepOutcome gate lerp nowNs
        ((gate.skipTo step).deactivate.countUnsafe, .error .unsafeValues)
  | publishes {step : Nat} (active : gate.active = true)
      (ordered : gate.hasLastOutput = true → gate.lastPublishNs ≤ nowNs)
      (due : StepDue gate.config gate.activeChunk nowNs step) (unplayed : gate.nextStep ≤ step)
      {pending : List ℚ} (published : (gate.skipTo step).publishComponents lerp nowNs step
        gate.config.controlDim = some pending) :
      StepOutcome gate lerp nowNs ((gate.skipTo step).commit lerp nowNs step pending,
        .ok ((gate.skipTo step).stepView lerp step pending))

theorem stepOutcome_next (lerp : Lerp) (nowNs : UInt64) :
    gate.StepOutcome lerp nowNs (gate.next lerp nowNs) := by
  unfold next
  dsimp only
  split
  · exact .waits (.inl rfl)
  next active =>
    rw [Bool.not_eq_true, Bool.not_eq_false] at active
    split
    · exact .waits (.inr (.inr rfl))
    next ordered =>
      split
      · exact .waits (.inr (.inl rfl))
      next started =>
        split
        · exact .waits (.inr (.inr rfl))
        next seen =>
          split
          · exact .expires active
          next young =>
            split
            · exact .expires active
            next inside =>
              split
              · exact .waits (.inr (.inl rfl))
              next unplayed =>
                have due := stepDue_of_checks (UInt64.not_lt.mp started) seen young
                  (Nat.not_le.mp inside)
                split
                · exact .refuses active due (Nat.not_lt.mp unplayed)
                next published =>
                  refine .publishes active (fun last => ?_) due (Nat.not_lt.mp unplayed) published
                  exact UInt64.not_lt.mp fun early => ordered ⟨last, early⟩

theorem StepOutcome.unchanged {gate : ActionDeliveryGate} {lerp : Lerp} {nowNs : UInt64}
    {outcome : ActionDeliveryGate × Except ActionStepError ActionStepView}
    (stepped : gate.StepOutcome lerp nowNs outcome)
    (waiting : outcome.2 = .error .empty ∨ outcome.2 = .error .notReady ∨
      outcome.2 = .error .invalidTime) : outcome.1 = gate := by
  cases stepped with
  | waits => rfl
  | expires | refuses | publishes => simp at waiting

/-! ## Frames -/

/-- **Rejections are atomic, and the two ways to offer agree.** An offer that is not taken adds one
to the counter of its result and leaves every other field as it is, a step that is not due changes
nothing at all, and an action is offered as the chunk that it becomes. -/
theorem rejections_atomic (gate : ActionDeliveryGate) (nowNs : UInt64) :
    (∀ chunk, (gate.acceptChunk chunk nowNs).2 ≠ .accepted ∧
        (gate.acceptChunk chunk nowNs).2 ≠ .replaced →
      (gate.acceptChunk chunk nowNs).1 = gate.countRejection (gate.acceptChunk chunk nowNs).2) ∧
    (∀ action validFromNs, (gate.acceptAction action nowNs validFromNs).2 ≠ .accepted ∧
        (gate.acceptAction action nowNs validFromNs).2 ≠ .replaced →
      (gate.acceptAction action nowNs validFromNs).1 =
        gate.countRejection (gate.acceptAction action nowNs validFromNs).2) ∧
    (∀ lerp, (gate.next lerp nowNs).2 = .error .empty ∨
        (gate.next lerp nowNs).2 = .error .notReady ∨
        (gate.next lerp nowNs).2 = .error .invalidTime → (gate.next lerp nowNs).1 = gate) ∧
    ∀ action validFromNs chunk,
      makeActionChunk action gate.config.controlDim nowNs validFromNs gate.config.stepPeriodNs =
          .ok chunk →
        gate.acceptAction action nowNs validFromNs = gate.acceptChunk chunk nowNs :=
  ⟨fun chunk => (gate.offerOutcome_acceptImpl chunk nowNs false).rejection,
    fun action validFromNs => (gate.offerOutcome_acceptAction action nowNs validFromNs).rejection,
    fun lerp => (gate.stepOutcome_next lerp nowNs).unchanged,
    fun _ _ _ made => gate.acceptAction_eq made⟩

private def boundedGate : ActionDeliveryGate where
  config := ⟨1, 0, 10, 0, .reject⟩
  modelDigest := Vector.replicate 16 0
  modelActionValues := 1
  lower := [0]
  upper := [1]
  maxDelta := [1]

/-- A completed action of one component with the value one. -/
private def unitAction : ActionMessage where
  envelope := { kind := .action, structSize := 116 }
  metadata :=
    { structSize := 80, protocolVersion := protocolVersion, status := actionComplete,
      actionDim := 1 }
  action := [1065353216]

/-- The chunk of that action, with a value outside the limits. -/
private def boldChunk : ActionChunkView where
  descriptor := { controlDim := 1, stepCount := 1, validFromNs := 100, validUntilNs := 110 }
  values := [.finite 2]

theorem rejections_atomic_unit :
    boundedGate.acceptChunk boldChunk 100 =
        ({ boundedGate with counters := { rejectedUnsafe := 1 } }, .unsafeValues) ∧
    (boundedGate.next exactLerp 100).1 = boundedGate ∧
    (boundedGate.acceptAction unitAction 100 0).2 = .accepted ∧
    ∃ chunk, makeActionChunk unitAction 1 100 0 10 = .ok chunk ∧
      boundedGate.acceptAction unitAction 100 0 = boundedGate.acceptChunk chunk 100 := by
  obtain ⟨chunks, -, steps, actions⟩ := rejections_atomic boundedGate 100
  have result : (boundedGate.acceptChunk boldChunk 100).2 = .unsafeValues := by decide +kernel
  refine ⟨Prod.ext ?_ result, steps _ (.inl (by decide +kernel)), by decide +kernel, ?_⟩
  · have counted := chunks boldChunk (by decide +kernel)
    rw [result] at counted
    exact counted
  · have builds : (makeActionChunk unitAction 1 100 0 10).isOk = true := by decide +kernel
    cases made : makeActionChunk unitAction 1 100 0 10 with
    | ok chunk => exact ⟨chunk, rfl, actions _ _ _ made⟩
    | error error =>
        rw [made] at builds
        cases builds

end ActionDeliveryGate

end FlowEdge
