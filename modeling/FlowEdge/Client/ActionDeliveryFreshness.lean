import FlowEdge.Client.ActionDeliverySafety

/-! # Freshness and order of published steps

Between two resets the gate serves one session. It takes over chunks of strictly increasing
generations and sequences, publishes each of their steps at most once and only in its time, and
never goes back. The run keeps the chunks it accepted and the steps it published beside the
gate, both since the last reset.
-/

namespace FlowEdge

open Words

namespace ActionDeliveryGate

/-! ## What the calls do -/

/-- The gate differs at most in the counters of what it rejected. -/
structure OnlyRejects (before after : ActionDeliveryGate) : Prop where
  gate : after = { before with counters := after.counters }
  published : after.counters.published = before.counters.published
  skipped : after.counters.skippedSteps = before.counters.skippedSteps

/-- What an offered chunk leads to. -/
inductive Acceptance (gate : ActionDeliveryGate) :
    ActionDeliveryGate × ActionChunkAcceptResult → Prop
  | refused {after : ActionDeliveryGate} {result : ActionChunkAcceptResult}
      (only : gate.OnlyRejects after) (refused : result ≠ .accepted ∧ result ≠ .replaced) :
      Acceptance gate (after, result)
  | installed {chunk : ActionChunkView} {result : ActionChunkAcceptResult}
      (admits : gate.Admits chunk.descriptor) (taken : result = .accepted ∨ result = .replaced) :
      Acceptance gate (gate.install chunk, result)

theorem onlyRejects_countRejection (gate : ActionDeliveryGate) (result : ActionChunkAcceptResult) :
    gate.OnlyRejects (gate.countRejection result) := ⟨rfl, rfl, rfl⟩

theorem OfferOutcome.acceptance {gate : ActionDeliveryGate}
    {outcome : ActionDeliveryGate × ActionChunkAcceptResult} (offered : gate.OfferOutcome outcome) :
    gate.Acceptance outcome := by
  cases offered with
  | rejected result refused => exact .refused (gate.onlyRejects_countRejection result) refused
  | installed admits taken => exact .installed admits taken

/-- What a call of `next` leads to. -/
inductive Advance (gate : ActionDeliveryGate) (lerp : Lerp) (nowNs : UInt64) :
    ActionDeliveryGate × Except ActionStepError ActionStepView → Prop
  | waits (error : ActionStepError) : Advance gate lerp nowNs (gate, .error error)
  | expires (active : gate.active = true) (error : ActionStepError) :
      Advance gate lerp nowNs (gate.deactivate.countExpired, .error error)
  | refuses {step : Nat} (active : gate.active = true)
      (due : StepDue gate.config gate.activeChunk nowNs step) (unplayed : gate.nextStep ≤ step)
      (error : ActionStepError) :
      Advance gate lerp nowNs ((gate.skipTo step).deactivate.countUnsafe, .error error)
  | publishes {step : Nat} (active : gate.active = true)
      (ordered : gate.hasLastOutput = true → gate.lastPublishNs ≤ nowNs)
      (due : StepDue gate.config gate.activeChunk nowNs step) (unplayed : gate.nextStep ≤ step)
      (pending : List ℚ) :
      Advance gate lerp nowNs ((gate.skipTo step).commit lerp nowNs step pending,
        .ok ((gate.skipTo step).stepView lerp step pending))

theorem advance_next (gate : ActionDeliveryGate) (lerp : Lerp) (nowNs : UInt64) :
    gate.Advance lerp nowNs (gate.next lerp nowNs) := by
  generalize stepped : gate.next lerp nowNs = outcome
  cases stepped ▸ gate.stepOutcome_next lerp nowNs with
  | waits => exact .waits _
  | expires active => exact .expires active _
  | refuses active due unplayed => exact .refuses active due unplayed _
  | publishes active ordered due unplayed =>
      exact .publishes active ordered due unplayed _

/-! ## Runs -/

/-- A published step with the time of its call and the chunk that it belongs to. -/
structure Delivered where
  nowNs : UInt64
  chunk : ActionChunkDescriptor
  view : ActionStepView

/-- A gate with the counters at the last reset and what it accepted and delivered since. -/
structure Delivery where
  gate : ActionDeliveryGate
  base : ActionDeliveryCounters
  accepted : List ActionChunkDescriptor
  delivered : List Delivered

namespace Delivery

def start (gate : ActionDeliveryGate) : Delivery := ⟨gate, gate.counters, [], []⟩

/-- Record the outcome of an offered chunk. -/
def offered (delivery : Delivery) (outcome : ActionDeliveryGate × ActionChunkAcceptResult) :
    Delivery :=
  { delivery with
    gate := outcome.1
    accepted :=
      if outcome.2 = .accepted ∨ outcome.2 = .replaced then
        delivery.accepted ++ [outcome.1.activeChunk]
      else delivery.accepted }

/-- Record the outcome of a call of `next`. -/
def advanced (delivery : Delivery) (nowNs : UInt64) :
    ActionDeliveryGate × Except ActionStepError ActionStepView → Delivery
  | (gate, .error _) => { delivery with gate }
  | (gate, .ok view) =>
      { delivery with
        gate
        delivered := delivery.delivered ++ [⟨nowNs, delivery.gate.activeChunk, view⟩] }

def step (delivery : Delivery) : Call → Delivery
  | .acceptAction action nowNs validFromNs =>
      delivery.offered (delivery.gate.acceptAction action nowNs validFromNs)
  | .acceptChunk chunk nowNs => delivery.offered (delivery.gate.acceptChunk chunk nowNs)
  | .next lerp nowNs => delivery.advanced nowNs (delivery.gate.next lerp nowNs)
  | .reset => start delivery.gate.reset

/-- The calls of a client, one after the other. -/
def run (gate : ActionDeliveryGate) (calls : List Call) : Delivery := calls.foldl step (start gate)

/-- The steps of the chunks accepted since the last reset. -/
def acceptedSteps (delivery : Delivery) : Nat :=
  (delivery.accepted.map fun chunk => chunk.stepCount.toNat).sum

/-- The steps that the active chunk has left. -/
def remaining (gate : ActionDeliveryGate) : Nat :=
  if gate.active then gate.activeChunk.stepCount.toNat - gate.nextStep else 0

/-- The later of two steps: a newer generation, or a later step of the same one. -/
def Later (earlier later : Delivered) : Prop :=
  Prod.Lex (· < ·) (· < ·) (earlier.view.generation, earlier.view.stepIndex)
    (later.view.generation, later.view.stepIndex)

/-- What an accepted chunk has in common with the gate. -/
structure Held (gate : ActionDeliveryGate) (chunk : ActionChunkDescriptor) : Prop where
  digest : chunk.modelDigest = gate.modelDigest
  dated : gate.config.maxSourceAgeNs ≠ 0 → chunk.sourceTimestampNs ≠ 0
  session : chunk.sessionId = gate.sessionId
  generation : chunk.generation ≤ gate.newestGeneration
  sequence : chunk.sequence ≤ gate.newestSequence

/-- A delivered step names its chunk and is due. -/
structure Sound (config : ActionDeliveryConfig) (step : Delivered) : Prop where
  sequence : step.view.sequence = step.chunk.sequence
  session : step.view.sessionId = step.chunk.sessionId
  generation : step.view.generation = step.chunk.generation
  due : StepDue config step.chunk step.nowNs step.view.stepIndex

/-- The gate remembers what it accepted and delivered since the last reset. -/
structure Recorded (origin : ActionDeliveryGate) (delivery : Delivery) : Prop where
  config : delivery.gate.config = origin.config
  digest : delivery.gate.modelDigest = origin.modelDigest
  held : ∀ chunk ∈ delivery.accepted, Held delivery.gate chunk
  bound : delivery.accepted ≠ [] → delivery.gate.sessionBound = true
  active : delivery.gate.active = true → delivery.gate.activeChunk ∈ delivery.accepted ∧
    delivery.gate.activeChunk.generation = delivery.gate.newestGeneration
  increasing : delivery.accepted.Pairwise fun earlier later =>
    earlier.generation < later.generation ∧ earlier.sequence < later.sequence
  sound : ∀ step ∈ delivery.delivered,
    Sound delivery.gate.config step ∧ step.chunk ∈ delivery.accepted
  played : ∀ step ∈ delivery.delivered, delivery.gate.active = true →
    step.view.generation = delivery.gate.activeChunk.generation →
    step.view.stepIndex < delivery.gate.nextStep
  last : ∀ step ∈ delivery.delivered,
    delivery.gate.hasLastOutput = true ∧ step.nowNs ≤ delivery.gate.lastPublishNs
  later : delivery.delivered.Pairwise Later
  ordered : delivery.delivered.Pairwise fun earlier later => earlier.nowNs ≤ later.nowNs
  spent : delivery.gate.counters.published + delivery.gate.counters.skippedSteps +
      remaining delivery.gate ≤
    delivery.base.published + delivery.base.skippedSteps + delivery.acceptedSteps

variable {origin : ActionDeliveryGate} {delivery : Delivery}

theorem recorded_start {gate : ActionDeliveryGate} (config : gate.config = origin.config)
    (digest : gate.modelDigest = origin.modelDigest) (idle : gate.active = false) :
    Recorded origin (start gate) where
  config := config
  digest := digest
  held := nofun
  bound := fun some => absurd rfl some
  active := fun active => absurd active (by simp [start, idle])
  increasing := .nil
  sound := nofun
  played := nofun
  last := nofun
  later := .nil
  ordered := .nil
  spent := by simp [start, remaining, idle, acceptedSteps]

theorem Recorded.rejects (recorded : Recorded origin delivery) {after : ActionDeliveryGate}
    (only : delivery.gate.OnlyRejects after) :
    Recorded origin { delivery with gate := after } := by
  obtain ⟨same, published, skipped⟩ := only
  have spent := recorded.spent
  rw [← published, ← skipped] at spent
  rw [same]
  exact ⟨recorded.config, recorded.digest, fun chunk member => { recorded.held chunk member with },
    recorded.bound, recorded.active, recorded.increasing, recorded.sound, recorded.played,
    recorded.last, recorded.later, recorded.ordered, spent⟩

theorem modelDigest_install (gate : ActionDeliveryGate) (chunk : ActionChunkView) :
    (gate.install chunk).modelDigest = gate.modelDigest := by
  simp only [install, captureOverlap]
  split
  · rfl
  · split <;> rfl

theorem Recorded.installs (recorded : Recorded origin delivery) {chunk : ActionChunkView}
    (admits : delivery.gate.Admits chunk.descriptor) :
    Recorded origin { delivery with
      gate := delivery.gate.install chunk
      accepted := delivery.accepted ++ [chunk.descriptor] } := by
  have newer : ∀ earlier ∈ delivery.accepted, earlier.generation < chunk.descriptor.generation ∧
      earlier.sequence < chunk.descriptor.sequence ∧
      earlier.sessionId = chunk.descriptor.sessionId := by
    intro earlier member
    have bound := recorded.bound (List.ne_nil_of_mem member)
    have held := recorded.held earlier member
    exact ⟨UInt64.lt_of_le_of_lt held.generation (admits.generation bound),
      UInt64.lt_of_le_of_lt held.sequence (admits.sequence bound),
      held.session.trans (admits.session bound).symm⟩
  have same : SameReference delivery.gate (delivery.gate.install chunk) :=
    sameReference_install _ _
  have digest := modelDigest_install delivery.gate chunk
  refine
    { config := same.config.trans recorded.config
      digest := digest.trans recorded.digest
      held := fun other member => ?_
      bound := fun _ => rfl
      active := fun _ => ⟨List.mem_concat_self, rfl⟩
      increasing := ?_
      sound := fun step member => ?_
      played := fun step member _ again => ?_
      last := fun step member => ?_
      later := recorded.later
      ordered := recorded.ordered
      spent := ?_ }
  · rcases List.mem_append.mp member with earlier | here
    · obtain ⟨generation, sequence, session⟩ := newer other earlier
      have held := recorded.held other earlier
      exact ⟨held.digest.trans digest.symm, same.config ▸ held.dated, session,
        UInt64.le_of_lt generation, UInt64.le_of_lt sequence⟩
    · obtain rfl := List.mem_singleton.mp here
      exact ⟨admits.digest.trans digest.symm, same.config ▸ admits.dated, rfl,
        UInt64.le_refl _, UInt64.le_refl _⟩
  · refine List.pairwise_append.mpr ⟨recorded.increasing, List.pairwise_singleton _ _, ?_⟩
    intro earlier member later here
    obtain rfl := List.mem_singleton.mp here
    exact ⟨(newer earlier member).1, (newer earlier member).2.1⟩
  · obtain ⟨sound, chunk⟩ := recorded.sound step member
    exact ⟨same.config.symm ▸ sound, List.mem_append_left _ chunk⟩
  · -- A delivered step belongs to an older generation.
    obtain ⟨sound, chunk⟩ := recorded.sound step member
    have older := (newer _ chunk).1
    rw [← sound.generation, again] at older
    exact absurd older (UInt64.lt_irrefl _)
  · have last := recorded.last step member
    exact ⟨same.hasLastOutput.trans last.1, same.lastPublishNs.symm ▸ last.2⟩
  · have spent := recorded.spent
    have steps : acceptedSteps { delivery with
        gate := delivery.gate.install chunk
        accepted := delivery.accepted ++ [chunk.descriptor] } =
        delivery.acceptedSteps + chunk.descriptor.stepCount.toNat := by
      simp [acceptedSteps]
    have left : remaining (delivery.gate.install chunk) = chunk.descriptor.stepCount.toNat := rfl
    have published : (delivery.gate.install chunk).counters.published =
        delivery.gate.counters.published := rfl
    have skipped : (delivery.gate.install chunk).counters.skippedSteps =
        delivery.gate.counters.skippedSteps := rfl
    rw [steps, left]
    dsimp only
    omega

/-- The active chunk is given up, and the skipped steps up to a step of it are counted. -/
theorem Recorded.gives_up (recorded : Recorded origin delivery) {after : ActionDeliveryGate}
    {skipped : Nat} (within : skipped ≤ remaining delivery.gate)
    (same : after = { delivery.gate with active := false, counters := after.counters })
    (published : after.counters.published = delivery.gate.counters.published)
    (counted : after.counters.skippedSteps = delivery.gate.counters.skippedSteps + skipped) :
    Recorded origin { delivery with gate := after } := by
  have spent := recorded.spent
  rw [same]
  refine ⟨recorded.config, recorded.digest, fun chunk member => { recorded.held chunk member with },
    recorded.bound, nofun, recorded.increasing, recorded.sound, fun _ _ => nofun,
    recorded.last, recorded.later, recorded.ordered, ?_⟩
  rw [← published] at spent
  have steps : acceptedSteps { delivery with gate := { delivery.gate with
      active := false, counters := after.counters } } = delivery.acceptedSteps := rfl
  have left : remaining { delivery.gate with active := false, counters := after.counters } = 0 :=
    rfl
  rw [steps, left]
  dsimp only
  omega

theorem Recorded.publishes (recorded : Recorded origin delivery) {lerp : Lerp} {nowNs : UInt64}
    {step : Nat} (active : delivery.gate.active = true)
    (ordered : delivery.gate.hasLastOutput = true → delivery.gate.lastPublishNs ≤ nowNs)
    (due : StepDue delivery.gate.config delivery.gate.activeChunk nowNs step)
    (unplayed : delivery.gate.nextStep ≤ step) (pending : List ℚ) :
    Recorded origin { delivery with
      gate := (delivery.gate.skipTo step).commit lerp nowNs step pending
      delivered := delivery.delivered ++
        [⟨nowNs, delivery.gate.activeChunk,
          (delivery.gate.skipTo step).stepView lerp step pending⟩] } := by
  obtain ⟨current, newest⟩ := recorded.active active
  refine
    { config := recorded.config
      digest := recorded.digest
      held := fun chunk member => { recorded.held chunk member with }
      bound := recorded.bound
      active := fun _ => ⟨current, newest⟩
      increasing := recorded.increasing
      sound := fun other member => ?_
      played := fun other member _ again => ?_
      last := fun other member => ?_
      later := ?_
      ordered := ?_
      spent := ?_ }
  · rcases List.mem_append.mp member with earlier | here
    · exact recorded.sound other earlier
    · obtain rfl := List.mem_singleton.mp here
      exact ⟨⟨rfl, rfl, rfl, due⟩, current⟩
  · rcases List.mem_append.mp member with earlier | here
    · exact (recorded.played other earlier active again).trans_le (Nat.le_succ_of_le unplayed)
    · obtain rfl := List.mem_singleton.mp here
      exact Nat.lt_succ_self step
  · rcases List.mem_append.mp member with earlier | here
    · obtain ⟨last, before⟩ := recorded.last other earlier
      exact ⟨rfl, UInt64.le_trans before (ordered last)⟩
    · obtain rfl := List.mem_singleton.mp here
      exact ⟨rfl, UInt64.le_refl _⟩
  · refine List.pairwise_append.mpr ⟨recorded.later, List.pairwise_singleton _ _, ?_⟩
    intro other earlier this here
    obtain rfl := List.mem_singleton.mp here
    obtain ⟨sound, chunk⟩ := recorded.sound other earlier
    have generation : other.view.generation ≤ delivery.gate.activeChunk.generation :=
      sound.generation ▸ newest ▸ (recorded.held _ chunk).generation
    rcases UInt64.lt_or_eq_of_le generation with older | again
    · exact Prod.Lex.left _ _ older
    · refine Prod.lex_def.mpr (.inr ⟨again, ?_⟩)
      exact (recorded.played other earlier active again).trans_le unplayed
  · refine List.pairwise_append.mpr ⟨recorded.ordered, List.pairwise_singleton _ _, ?_⟩
    intro other earlier this here
    obtain rfl := List.mem_singleton.mp here
    obtain ⟨last, before⟩ := recorded.last other earlier
    exact UInt64.le_trans before (ordered last)
  · have spent := recorded.spent
    have inside := due.inside
    rw [remaining, if_pos active] at spent
    have left : remaining ((delivery.gate.skipTo step).commit lerp nowNs step pending) ≤
        delivery.gate.activeChunk.stepCount.toNat - (step + 1) := by
      unfold remaining
      split
      · exact le_rfl
      · exact Nat.zero_le _
    have published : ((delivery.gate.skipTo step).commit lerp nowNs step
        pending).counters.published = delivery.gate.counters.published + 1 := rfl
    have skipped : ((delivery.gate.skipTo step).commit lerp nowNs step
        pending).counters.skippedSteps =
        delivery.gate.counters.skippedSteps + (step - delivery.gate.nextStep) := rfl
    have steps : acceptedSteps { delivery with
        gate := (delivery.gate.skipTo step).commit lerp nowNs step pending
        delivered := delivery.delivered ++
          [⟨nowNs, delivery.gate.activeChunk,
            (delivery.gate.skipTo step).stepView lerp step pending⟩] } =
        delivery.acceptedSteps := rfl
    rw [steps]
    dsimp only
    omega

theorem Recorded.offered (recorded : Recorded origin delivery)
    {outcome : ActionDeliveryGate × ActionChunkAcceptResult}
    (acceptance : delivery.gate.Acceptance outcome) :
    Recorded origin (delivery.offered outcome) := by
  cases acceptance with
  | refused only refused =>
      rw [Delivery.offered, if_neg (not_or.mpr refused)]
      exact recorded.rejects only
  | installed admits taken =>
      rw [Delivery.offered, if_pos taken]
      exact recorded.installs admits

theorem Recorded.advanced (recorded : Recorded origin delivery) {lerp : Lerp} {nowNs : UInt64}
    {outcome : ActionDeliveryGate × Except ActionStepError ActionStepView}
    (advance : delivery.gate.Advance lerp nowNs outcome) :
    Recorded origin (delivery.advanced nowNs outcome) := by
  cases advance with
  | waits => exact recorded
  | expires => exact recorded.gives_up (Nat.zero_le _) rfl rfl rfl
  | refuses active due =>
      refine recorded.gives_up ?_ rfl rfl rfl
      rw [remaining, if_pos active]
      exact Nat.sub_le_sub_right due.inside.le _
  | publishes active ordered due unplayed pending =>
      exact recorded.publishes active ordered due unplayed pending

/-- Every call keeps the record. -/
theorem Recorded.step (recorded : Recorded origin delivery) (call : Call) :
    Recorded origin (delivery.step call) := by
  cases call with
  | acceptAction =>
      exact recorded.offered (offerOutcome_acceptAction _ _ _ _).acceptance
  | acceptChunk => exact recorded.offered (offerOutcome_acceptImpl _ _ _ _).acceptance
  | next lerp nowNs => exact recorded.advanced (advance_next _ lerp nowNs)
  | reset => exact recorded_start recorded.config recorded.digest rfl

/-- The record is right in every state of every run. -/
theorem recorded_run (idle : origin.active = false) (calls : List Call) :
    Recorded origin (run origin calls) := by
  have along : ∀ delivery, Recorded origin delivery →
      Recorded origin (calls.foldl step delivery) := by
    induction calls with
    | nil => exact fun _ recorded => recorded
    | cons call calls ih => exact fun _ recorded => ih _ (recorded.step call)
  exact along _ (recorded_start rfl rfl idle)

end Delivery

theorem create_active {model : ModelMetadata} {config : ActionDeliveryConfig}
    {limits : ActionSafetyLimits} {gate : ActionDeliveryGate}
    (created : create model config limits = .ok gate) : gate.active = false := by
  unfold create at created
  repeat' split at created
  all_goals cases created
  rfl

/-- **Freshness and order.** On every run of a created gate, since the last reset: the
delivered steps go forward in generation and step, their times never go back, and they belong
to one session. Each is the step of an accepted chunk that its time asks for, inside the
validity of the chunk and the allowed age of its source. The generations and the sequences of
the accepted chunks increase, and no more steps are published or skipped than were accepted. -/
theorem delivery_fresh_and_ordered {model : ModelMetadata} {config : ActionDeliveryConfig}
    {limits : ActionSafetyLimits} {gate : ActionDeliveryGate}
    (created : create model config limits = .ok gate) (calls : List Call) :
    (Delivery.run gate calls).delivered.Pairwise (fun earlier later =>
      Prod.Lex (· < ·) (· < ·) (earlier.view.generation, earlier.view.stepIndex)
        (later.view.generation, later.view.stepIndex)) ∧
    (Delivery.run gate calls).delivered.Pairwise (fun earlier later =>
      earlier.nowNs ≤ later.nowNs) ∧
    (∃ session, ∀ step ∈ (Delivery.run gate calls).delivered, step.view.sessionId = session) ∧
    (∀ step ∈ (Delivery.run gate calls).delivered,
      step.chunk ∈ (Delivery.run gate calls).accepted ∧
      step.view.generation = step.chunk.generation ∧
      step.view.sequence = step.chunk.sequence ∧
      step.view.sessionId = step.chunk.sessionId ∧
      step.chunk.modelDigest = gate.modelDigest ∧
      step.chunk.validFromNs ≤ step.nowNs ∧ step.nowNs < step.chunk.validUntilNs ∧
      step.view.stepIndex =
        (step.nowNs.toNat - step.chunk.validFromNs.toNat) / gate.config.stepPeriodNs.toNat ∧
      step.view.stepIndex < step.chunk.stepCount.toNat ∧
      (gate.config.maxSourceAgeNs ≠ 0 → step.chunk.sourceTimestampNs ≤ step.nowNs ∧
        step.nowNs.toNat - step.chunk.sourceTimestampNs.toNat ≤
          gate.config.maxSourceAgeNs.toNat)) ∧
    (Delivery.run gate calls).accepted.Pairwise (fun earlier later =>
      earlier.generation < later.generation ∧ earlier.sequence < later.sequence) ∧
    (Delivery.run gate calls).gate.counters.published +
        (Delivery.run gate calls).gate.counters.skippedSteps ≤
      (Delivery.run gate calls).base.published + (Delivery.run gate calls).base.skippedSteps +
        ((Delivery.run gate calls).accepted.map fun chunk => chunk.stepCount.toNat).sum := by
  have recorded := Delivery.recorded_run (create_active created) calls
  refine ⟨recorded.later, recorded.ordered,
    ⟨(Delivery.run gate calls).gate.sessionId, fun step member => ?_⟩, fun step member => ?_,
    recorded.increasing, (Nat.le_add_right _ _).trans recorded.spent⟩
  · obtain ⟨sound, chunk⟩ := recorded.sound step member
    exact sound.session.trans (recorded.held _ chunk).session
  · obtain ⟨sound, chunk⟩ := recorded.sound step member
    have held := recorded.held _ chunk
    have due := recorded.config ▸ sound.due
    exact ⟨chunk, sound.generation, sound.sequence, sound.session,
      held.digest.trans recorded.digest, due.started, due.unexpired, due.position, due.inside,
      fun limited => due.fresh limited (held.dated (recorded.config.symm ▸ limited))⟩

private def datedModel : ModelMetadata := ⟨96, 1, Vector.replicate 16 7, 3⟩

private def datedConfig : ActionDeliveryConfig := ⟨1, 0, 10, 50, .clamp⟩

private def datedLimits : ActionSafetyLimits := ⟨[.finite 0], [.finite 1], [.finite 1]⟩

private def datedGate : ActionDeliveryGate where
  config := datedConfig
  modelDigest := Vector.replicate 16 7
  modelActionValues := 3
  lower := [0]
  upper := [1]
  maxDelta := [1]

private def datedChunk (generation validFromNs : UInt64) : ActionChunkView where
  descriptor :=
    { controlDim := 1, stepCount := 3, modelDigest := Vector.replicate 16 7,
      sequence := generation, generation := generation, sourceTimestampNs := validFromNs,
      producedNs := validFromNs, validFromNs := validFromNs, validUntilNs := validFromNs + 30 }
  values := [.finite 0, .finite 1, .finite 0]

/-- A chunk before a reset, and behind it two chunks, each with a skipped step. -/
private def datedCalls : List Call :=
  [.acceptChunk (datedChunk 4 100) 100, .next exactLerp 100, .next exactLerp 125, .reset,
    .acceptChunk (datedChunk 2 200) 200, .next exactLerp 212, .acceptChunk (datedChunk 3 210) 215,
    .next exactLerp 215, .next exactLerp 230]

theorem delivery_fresh_and_ordered_dated :
    create datedModel datedConfig datedLimits = .ok datedGate ∧
    (Delivery.run datedGate datedCalls).delivered.map
        (fun step => (step.view.generation, step.view.stepIndex)) = [(2, 1), (3, 0), (3, 2)] ∧
    (Delivery.run datedGate datedCalls).delivered.Pairwise (fun earlier later =>
      Prod.Lex (· < ·) (· < ·) (earlier.view.generation, earlier.view.stepIndex)
        (later.view.generation, later.view.stepIndex)) :=
  ⟨by decide +kernel, by decide +kernel,
    (@delivery_fresh_and_ordered datedModel datedConfig datedLimits datedGate
      (by decide +kernel) datedCalls).1⟩

end ActionDeliveryGate

end FlowEdge
