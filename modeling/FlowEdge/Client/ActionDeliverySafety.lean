import Mathlib.Tactic.Linarith
import Mathlib.Data.List.Chain
import Mathlib.Data.List.GetD
import FlowEdge.Client.ActionDeliveryOutcomes

/-! # Output safety of the action gate

Along every run of calls on a created gate, each published component lies in
its absolute limits, and two consecutive publications between resets differ by
at most the rate limit over the elapsed periods. The run invariant is that the
reference output is itself inside the absolute limits, so the final absolute
clamp cannot undo the rate clamp before it.
-/

namespace FlowEdge.ActionDeliveryGate

open Words

theorem clampTo_mem (value : ℚ) {lower upper : ℚ} (ordered : lower ≤ upper) :
    lower ≤ clampTo value lower upper ∧ clampTo value lower upper ≤ upper := by
  unfold clampTo
  split
  · exact ⟨le_rfl, ordered⟩
  · split
    · exact ⟨ordered, le_rfl⟩
    · exact ⟨not_lt.mp ‹_›, not_lt.mp ‹_›⟩

theorem clampTo_of_mem {value lower upper : ℚ} (low : lower ≤ value) (high : value ≤ upper) :
    clampTo value lower upper = value := by
  unfold clampTo
  rw [if_neg (not_lt.mpr low), if_neg (not_lt.mpr high)]

/-- Moving a point of an interval into a window around another point of it
stays inside the interval. -/
theorem clampTo_window_mem {value last delta lower upper : ℚ} (nonneg : 0 ≤ delta)
    (valueLow : lower ≤ value) (valueHigh : value ≤ upper) (lastLow : lower ≤ last)
    (lastHigh : last ≤ upper) :
    lower ≤ clampTo value (last - delta) (last + delta) ∧
      clampTo value (last - delta) (last + delta) ≤ upper := by
  unfold clampTo
  split
  · constructor <;> linarith
  · split
    · constructor <;> linarith
    · exact ⟨valueLow, valueHigh⟩

/-- The absolute limits of a gate are ordered and its rates are nonnegative. -/
structure LimitsOrdered (gate : ActionDeliveryGate) : Prop where
  ordered : ∀ component < gate.config.controlDim,
    gate.lower.getD component 0 ≤ gate.upper.getD component 0
  nonneg : ∀ component < gate.config.controlDim, 0 ≤ gate.maxDelta.getD component 0

theorem getD_map_toRat (values : List FloatValue) (index : Nat) (inside : index < values.length) :
    (values.map FloatValue.toRat).getD index 0 = (values.getD index .nan).toRat := by
  simp [List.getD_eq_getElem?_getD, inside]

variable {gate : ActionDeliveryGate} {model : ModelMetadata} {config : ActionDeliveryConfig}
  {limits : ActionSafetyLimits}

/-- Creation only accepts ordered limits. -/
theorem limitsOrdered_of_create (created : create model config limits = .ok gate) :
    gate.LimitsOrdered := by
  simp only [create, ite_error_eq_ok, not_not, List.all_eq_true, List.mem_range, validLimit,
    decide_eq_true_eq] at created
  obtain ⟨-, -, -, shape, valid, ⟨⟩⟩ := created
  push Not at shape
  constructor
  · intro component inside
    simp only at inside ⊢
    rw [getD_map_toRat _ _ (by omega), getD_map_toRat _ _ (by omega)]
    exact (valid component inside).2.2.2.1
  · intro component inside
    simp only at inside ⊢
    rw [getD_map_toRat _ _ (by omega)]
    exact (valid component inside).2.2.2.2

/-- The reference output, when there is one, lies inside the absolute limits. -/
def ReferenceInside (gate : ActionDeliveryGate) : Prop :=
  gate.hasLastOutput = true → ∀ component < gate.config.controlDim,
    gate.lower.getD component 0 ≤ gate.output.getD component 0 ∧
      gate.output.getD component 0 ≤ gate.upper.getD component 0

theorem allowedDelta_nonneg (limits : gate.LimitsOrdered) (nowNs : UInt64) {component : Nat}
    (inside : component < gate.config.controlDim) : 0 ≤ gate.allowedDelta nowNs component :=
  mul_nonneg (limits.nonneg component inside) (Nat.cast_nonneg _)

/-- Both clamps together respect both limits. -/
theorem clampComponent_safe (limits : gate.LimitsOrdered) (reference : gate.ReferenceInside)
    (nowNs : UInt64) (component : Nat) (inside : component < gate.config.controlDim)
    (proposed : ℚ) :
    (gate.lower.getD component 0 ≤ gate.clampComponent nowNs component proposed ∧
      gate.clampComponent nowNs component proposed ≤ gate.upper.getD component 0) ∧
    (gate.hasLastOutput = true →
      |gate.clampComponent nowNs component proposed - gate.output.getD component 0| ≤
        gate.allowedDelta nowNs component) := by
  have absolute := clampTo_mem proposed (limits.ordered component inside)
  unfold clampComponent
  by_cases last : gate.hasLastOutput = true
  · have nonneg := allowedDelta_nonneg limits nowNs inside
    obtain ⟨lastLow, lastHigh⟩ := reference last component inside
    obtain ⟨windowLow, windowHigh⟩ :=
      clampTo_window_mem nonneg absolute.1 absolute.2 lastLow lastHigh
    simp only [last, ↓reduceIte]
    -- The window's result is already absolute-safe, so the second clamp is idle.
    rw [clampTo_of_mem windowLow windowHigh]
    refine ⟨⟨windowLow, windowHigh⟩, fun _ => ?_⟩
    have window : gate.output.getD component 0 - gate.allowedDelta nowNs component ≤
        gate.output.getD component 0 + gate.allowedDelta nowNs component := by linarith
    obtain ⟨low, high⟩ := clampTo_mem
      (clampTo proposed (gate.lower.getD component 0) (gate.upper.getD component 0)) window
    rw [abs_le]
    constructor <;> linarith
  · simp only [last, Bool.false_eq_true, ↓reduceIte, false_implies, and_true]
    exact absolute

variable {nowNs : UInt64}

theorem publishComponents_spec {lerp : Lerp} {step count : Nat} {pending : List ℚ}
    (published : gate.publishComponents lerp nowNs step count = some pending) :
    pending.length = count ∧ ∀ component < count, pending.getD component 0 =
      gate.clampComponent nowNs component (gate.candidate lerp step component) := by
  induction count generalizing pending with
  | zero =>
      cases published
      exact ⟨rfl, fun component inside => absurd inside (Nat.not_lt_zero component)⟩
  | succ count ih =>
      simp only [publishComponents, Option.bind_eq_bind, Option.bind_eq_some_iff,
        Option.pure_def, Option.some.injEq] at published
      obtain ⟨before, prior, safe, turned, rfl⟩ := published
      obtain ⟨length, values⟩ := ih prior
      have value : safe = gate.clampComponent nowNs count (gate.candidate lerp step count) := by
        unfold publishComponent at turned
        split at turned
        · cases turned
        · exact (Option.some.inj turned).symm
      refine ⟨by simp [length], fun component inside => ?_⟩
      by_cases earlier : component < count
      · rw [List.getD_append _ _ _ _ (by omega), values component earlier]
      · have same : component = count := by omega
        subst same
        rw [List.getD_append_right _ _ _ _ (by omega), length, Nat.sub_self, value]
        rfl

@[simp] theorem skipTo_maxDelta (step : Nat) :
    (gate.skipTo step).maxDelta = gate.maxDelta := rfl

@[simp] theorem skipTo_output (step : Nat) :
    (gate.skipTo step).output = gate.output := rfl

@[simp] theorem skipTo_elapsedSteps (step : Nat) (nowNs : UInt64) :
    (gate.skipTo step).elapsedSteps nowNs = gate.elapsedSteps nowNs := rfl

/-- What two gates share when neither limits nor the reference output changed. -/
structure SameReference (before after : ActionDeliveryGate) : Prop where
  config : after.config = before.config
  lower : after.lower = before.lower
  upper : after.upper = before.upper
  maxDelta : after.maxDelta = before.maxDelta
  output : after.output = before.output
  lastPublishNs : after.lastPublishNs = before.lastPublishNs
  hasLastOutput : after.hasLastOutput = before.hasLastOutput

theorem SameReference.refl (gate : ActionDeliveryGate) : SameReference gate gate :=
  ⟨rfl, rfl, rfl, rfl, rfl, rfl, rfl⟩

theorem sameReference_captureOverlap (gate : ActionDeliveryGate)
    (replacement : ActionChunkDescriptor) :
    SameReference gate (gate.captureOverlap replacement) := by
  simp only [captureOverlap]
  split
  · exact ⟨rfl, rfl, rfl, rfl, rfl, rfl, rfl⟩
  · split <;> exact ⟨rfl, rfl, rfl, rfl, rfl, rfl, rfl⟩

theorem sameReference_install (gate : ActionDeliveryGate) (chunk : ActionChunkView) :
    SameReference gate (gate.install chunk) := by
  have captured := sameReference_captureOverlap gate chunk.descriptor
  exact ⟨captured.config, captured.lower, captured.upper, captured.maxDelta, captured.output,
    captured.lastPublishNs, captured.hasLastOutput⟩

theorem sameReference_countRejection (gate : ActionDeliveryGate)
    (result : ActionChunkAcceptResult) : SameReference gate (gate.countRejection result) :=
  ⟨rfl, rfl, rfl, rfl, rfl, rfl, rfl⟩

theorem OfferOutcome.sameReference {outcome : ActionDeliveryGate × ActionChunkAcceptResult}
    (offered : gate.OfferOutcome outcome) : SameReference gate outcome.1 := by
  cases offered with
  | rejected result => exact sameReference_countRejection gate result
  | installed => exact sameReference_install gate _

/-- A call of `next` either fails and keeps the reference, or commits the
components of a step that is not before the last publication. -/
theorem next_cases (gate : ActionDeliveryGate) (lerp : Lerp) (nowNs : UInt64) :
    (∃ error, (gate.next lerp nowNs).2 = .error error ∧
      SameReference gate (gate.next lerp nowNs).1) ∨
    (∃ step pending, (gate.hasLastOutput = true → gate.lastPublishNs ≤ nowNs) ∧
      (gate.skipTo step).publishComponents lerp nowNs step gate.config.controlDim = some pending ∧
      gate.next lerp nowNs = ((gate.skipTo step).commit lerp nowNs step pending,
        .ok ((gate.skipTo step).stepView lerp step pending))) := by
  generalize stepped : gate.next lerp nowNs = outcome
  cases stepped ▸ gate.stepOutcome_next lerp nowNs with
  | waits => exact .inl ⟨_, rfl, .refl gate⟩
  | expires | refuses => exact .inl ⟨_, rfl, ⟨rfl, rfl, rfl, rfl, rfl, rfl, rfl⟩⟩
  | publishes active ordered due unplayed published =>
      exact .inr ⟨_, _, ordered, published, rfl⟩

/-- A failed `next` keeps the output that later calls measure against. -/
theorem next_error_sameReference {lerp : Lerp} {error : ActionStepError}
    (failed : (gate.next lerp nowNs).2 = .error error) :
    SameReference gate (gate.next lerp nowNs).1 := by
  obtain ⟨_, _, same⟩ | ⟨step, pending, _, _, committed⟩ := next_cases gate lerp nowNs
  · exact same
  · rw [committed] at failed
    cases failed

/-- The calls a controller can make. -/
inductive Call where
  | acceptAction (action : ActionMessage) (nowNs validFromNs : UInt64)
  | acceptChunk (chunk : ActionChunkView) (nowNs : UInt64)
  | next (lerp : Lerp) (nowNs : UInt64)
  | reset

/-- A published output and the time of its call. -/
structure Publication where
  nowNs : UInt64
  values : List ℚ

/-- A gate with everything it has published: over the whole run, and since the
last reset, in order. -/
structure Run where
  gate : ActionDeliveryGate
  published : List Publication
  sinceReset : List Publication

namespace Run

def start (gate : ActionDeliveryGate) : Run := ⟨gate, [], []⟩

def step (run : Run) : Call → Run
  | .acceptAction action nowNs validFromNs =>
      { run with gate := (run.gate.acceptAction action nowNs validFromNs).1 }
  | .acceptChunk chunk nowNs => { run with gate := (run.gate.acceptChunk chunk nowNs).1 }
  | .next lerp nowNs =>
      match run.gate.next lerp nowNs with
      | (gate, .error _) => { run with gate := gate }
      | (gate, .ok view) =>
          { gate := gate
            published := run.published ++ [⟨nowNs, view.values⟩]
            sinceReset := run.sinceReset ++ [⟨nowNs, view.values⟩] }
  | .reset => { run with gate := run.gate.reset, sinceReset := [] }

/-- The calls of a client, one after the other. -/
def run (gate : ActionDeliveryGate) (calls : List Call) : Run := calls.foldl step (start gate)

end Run

/-- Every component of a publication lies in the absolute limits of `origin`. -/
def InsideLimits (origin : ActionDeliveryGate) (publication : Publication) : Prop :=
  publication.values.length = origin.config.controlDim ∧
    ∀ component < origin.config.controlDim,
      origin.lower.getD component 0 ≤ publication.values.getD component 0 ∧
        publication.values.getD component 0 ≤ origin.upper.getD component 0

/-- The later of two publications obeys the rate limits of `origin` over the
whole periods elapsed since the earlier one, at least one. -/
def RateLimited (origin : ActionDeliveryGate) (earlier later : Publication) : Prop :=
  earlier.nowNs ≤ later.nowNs ∧
  ∀ component < origin.config.controlDim,
    |later.values.getD component 0 - earlier.values.getD component 0| ≤
      origin.maxDelta.getD component 0 *
        (max 1 ((later.nowNs.toNat - earlier.nowNs.toNat) / origin.config.stepPeriodNs.toNat) : Nat)

/-- The gate refers to the last publication since the reset, and only to it. -/
def ReferenceRecorded (run : Run) : Prop :=
  match run.sinceReset.getLast? with
  | none => run.gate.hasLastOutput = false
  | some last => run.gate.hasLastOutput = true ∧ run.gate.output = last.values ∧
      run.gate.lastPublishNs = last.nowNs

/-- What every run from `origin` keeps. -/
structure RunInvariant (origin : ActionDeliveryGate) (run : Run) : Prop where
  config : run.gate.config = origin.config
  lower : run.gate.lower = origin.lower
  upper : run.gate.upper = origin.upper
  maxDelta : run.gate.maxDelta = origin.maxDelta
  recorded : ReferenceRecorded run
  inside : ∀ publication ∈ run.published, InsideLimits origin publication
  since : ∀ publication ∈ run.sinceReset, publication ∈ run.published
  rate : run.sinceReset.IsChain (RateLimited origin)

variable {origin : ActionDeliveryGate}

/-- A call that keeps limits and reference keeps the invariant. -/
theorem RunInvariant.of_sameReference {run : Run} (invariant : RunInvariant origin run)
    (same : SameReference run.gate gate) :
    RunInvariant origin { run with gate := gate } where
  config := same.config.trans invariant.config
  lower := same.lower.trans invariant.lower
  upper := same.upper.trans invariant.upper
  maxDelta := same.maxDelta.trans invariant.maxDelta
  recorded := by
    have recorded := invariant.recorded
    unfold ReferenceRecorded at recorded ⊢
    simp only [same.hasLastOutput, same.output, same.lastPublishNs]
    exact recorded
  inside := invariant.inside
  since := invariant.since
  rate := invariant.rate

theorem toNat_elapsedSteps (last : gate.hasLastOutput = true) (order : gate.lastPublishNs ≤ nowNs) :
    (gate.elapsedSteps nowNs).toNat =
      max 1 ((nowNs.toNat - gate.lastPublishNs.toNat) / gate.config.stepPeriodNs.toNat) := by
  unfold elapsedSteps
  by_cases later : gate.lastPublishNs < nowNs
  · simp only [last, gt_iff_lt, later, and_self, ↓reduceIte]
    rw [toNat_wordMax, UInt64.toNat_div, UInt64.toNat_sub_of_le _ _ order]
    rfl
  · have same : nowNs = gate.lastPublishNs :=
      UInt64.le_antisymm (UInt64.not_lt.mp later) order
    simp [same]

/-- The reference of an invariant run lies inside the limits. -/
theorem RunInvariant.referenceInside {run : Run} (invariant : RunInvariant origin run) :
    run.gate.ReferenceInside := by
  intro last component inside
  have recorded := invariant.recorded
  unfold ReferenceRecorded at recorded
  split at recorded
  · rw [recorded] at last
    cases last
  next publication newest =>
    have published := invariant.inside publication
      (invariant.since publication (List.mem_of_getLast? newest))
    rw [invariant.lower, invariant.upper, recorded.2.1]
    exact published.2 component (invariant.config ▸ inside)

/-- A publication extends the invariant. -/
theorem RunInvariant.publish {run : Run} (invariant : RunInvariant origin run)
    (limits : origin.LimitsOrdered) {lerp : Lerp} {step : Nat} {pending : List ℚ}
    (order : run.gate.hasLastOutput = true → run.gate.lastPublishNs ≤ nowNs)
    (published : (run.gate.skipTo step).publishComponents lerp nowNs step
      run.gate.config.controlDim = some pending) :
    RunInvariant origin
      { gate := (run.gate.skipTo step).commit lerp nowNs step pending
        published := run.published ++ [⟨nowNs, pending⟩]
        sinceReset := run.sinceReset ++ [⟨nowNs, pending⟩] } := by
  have gateLimits : (run.gate.skipTo step).LimitsOrdered := by
    constructor
    · intro component inside
      simp only [skipTo, invariant.lower, invariant.upper]
      exact limits.ordered component (invariant.config ▸ inside)
    · intro component inside
      simp only [skipTo, invariant.maxDelta]
      exact limits.nonneg component (invariant.config ▸ inside)
  have reference : (run.gate.skipTo step).ReferenceInside := invariant.referenceInside
  obtain ⟨length, values⟩ := publishComponents_spec published
  have safe (component : Nat) (inside : component < origin.config.controlDim) :=
    clampComponent_safe gateLimits reference nowNs component
      (by simpa only [skipTo, invariant.config] using inside)
      ((run.gate.skipTo step).candidate lerp step component)
  have inside : InsideLimits origin ⟨nowNs, pending⟩ := by
    refine ⟨by rw [length, invariant.config], fun component bound => ?_⟩
    have bounds := (safe component bound).1
    rw [← values component (invariant.config ▸ bound)] at bounds
    simpa only [skipTo, invariant.lower, invariant.upper] using bounds
  refine ⟨invariant.config, invariant.lower, invariant.upper, invariant.maxDelta, ?_, ?_, ?_, ?_⟩
  · unfold ReferenceRecorded
    rw [List.getLast?_concat]
    exact ⟨rfl, rfl, rfl⟩
  · exact List.forall_mem_append.mpr ⟨invariant.inside, List.forall_mem_singleton.mpr inside⟩
  · intro publication member
    rcases List.mem_append.mp member with old | new
    · exact List.mem_append_left _ (invariant.since publication old)
    · exact List.mem_append_right _ new
  · rw [List.isChain_append]
    refine ⟨invariant.rate, List.isChain_singleton _, ?_⟩
    intro previous newest later first
    cases first
    have recorded := invariant.recorded
    unfold ReferenceRecorded at recorded
    rw [Option.mem_def.mp newest] at recorded
    obtain ⟨last, output, time⟩ := recorded
    refine ⟨time ▸ order last, fun component bound => ?_⟩
    have rate := (safe component bound).2 last
    rw [← values component (invariant.config ▸ bound)] at rate
    simp only [allowedDelta, skipTo_maxDelta, skipTo_output, skipTo_elapsedSteps,
      invariant.maxDelta, output, toNat_elapsedSteps last (order last), time,
      invariant.config] at rate
    exact rate

theorem RunInvariant.step {run : Run}
    (invariant : RunInvariant origin run) (limits : origin.LimitsOrdered) (call : Call) :
    RunInvariant origin (run.step call) := by
  cases call with
  | acceptAction action nowNs validFromNs =>
      exact invariant.of_sameReference
        (run.gate.offerOutcome_acceptAction action nowNs validFromNs).sameReference
  | acceptChunk chunk nowNs =>
      exact invariant.of_sameReference
        (run.gate.offerOutcome_acceptImpl chunk nowNs false).sameReference
  | next lerp nowNs =>
      obtain ⟨error, failed, same⟩ | ⟨step, pending, order, published, committed⟩ :=
        next_cases run.gate lerp nowNs
      · have pair : run.gate.next lerp nowNs = ((run.gate.next lerp nowNs).1, .error error) :=
          Prod.ext rfl failed
        simp only [Run.step]
        rw [pair]
        exact invariant.of_sameReference same
      · simp only [Run.step, committed]
        exact invariant.publish limits order published
  | reset =>
      exact ⟨invariant.config, invariant.lower, invariant.upper, invariant.maxDelta, rfl,
        invariant.inside, fun _ member => absurd member List.not_mem_nil, List.isChain_nil⟩

theorem create_hasLastOutput (created : create model config limits = .ok gate) :
    gate.hasLastOutput = false := by
  unfold create at created
  repeat' split at created
  all_goals cases created
  rfl

theorem runInvariant_run (created : create model config limits = .ok gate) (calls : List Call) :
    RunInvariant gate (Run.run gate calls) := by
  have ordered := limitsOrdered_of_create created
  have initial : RunInvariant gate (Run.start gate) :=
    ⟨rfl, rfl, rfl, rfl, create_hasLastOutput created,
      fun _ member => absurd member List.not_mem_nil,
      fun _ member => absurd member List.not_mem_nil, List.isChain_nil⟩
  unfold Run.run
  generalize Run.start gate = run at initial
  induction calls generalizing run with
  | nil => exact initial
  | cons call calls ih => exact ih (run.step call) (initial.step ordered call)

/-- **Output safety.** On every run of a created gate, each published component
lies in its absolute limits, consecutive publications since a reset obey the
rate limit over the elapsed periods, and a failed `next` keeps the output that
later calls are measured against. -/
theorem published_within_limits {model : ModelMetadata} {config : ActionDeliveryConfig}
    {limits : ActionSafetyLimits} {gate : ActionDeliveryGate}
    (created : create model config limits = .ok gate) (calls : List Call) :
    (∀ publication ∈ (Run.run gate calls).published, InsideLimits gate publication) ∧
    (Run.run gate calls).sinceReset.IsChain (RateLimited gate) ∧
    (∀ lerp nowNs error, ((Run.run gate calls).gate.next lerp nowNs).2 = .error error →
      SameReference (Run.run gate calls).gate ((Run.run gate calls).gate.next lerp nowNs).1) := by
  have invariant := runInvariant_run created calls
  exact ⟨invariant.inside, invariant.rate, fun _ _ _ failed => next_error_sameReference failed⟩

def sampleModel : ModelMetadata := ⟨96, 1, Vector.replicate 16 7, 2⟩

def sampleConfig : ActionDeliveryConfig := ⟨1, 1, 10, 0, .clamp⟩

def sampleLimits : ActionSafetyLimits :=
  ⟨[.finite 0], [.finite 1], [.finite (1 / 8)]⟩

def sampleGate : ActionDeliveryGate where
  config := sampleConfig
  modelDigest := Vector.replicate 16 7
  modelActionValues := 2
  lower := [0]
  upper := [1]
  maxDelta := [1 / 8]

/-- Two steps of one chunk, the second far outside both limits. -/
def sampleCalls : List Call :=
  [.acceptChunk
      { descriptor :=
          { controlDim := 1, stepCount := 2, modelDigest := Vector.replicate 16 7, sequence := 1,
            generation := 1, producedNs := 100, validFromNs := 100, validUntilNs := 120 }
        values := [.finite (3 / 4), .finite 9] } 100,
    .next exactLerp 100, .next exactLerp 110]

theorem published_within_limits_sample :
    create sampleModel sampleConfig sampleLimits = .ok sampleGate ∧
    (Run.run sampleGate sampleCalls).published.map Publication.values = [[3 / 4], [7 / 8]] ∧
    (∀ publication ∈ (Run.run sampleGate sampleCalls).published,
      InsideLimits sampleGate publication) :=
  ⟨by decide +kernel, by decide +kernel,
    (@published_within_limits sampleModel sampleConfig sampleLimits sampleGate
      (by decide +kernel) sampleCalls).1⟩

end FlowEdge.ActionDeliveryGate
