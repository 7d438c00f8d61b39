import FlowEdge.Heads.Diffusion

/-!
# The workspace of a diffusion head

A denoising step takes no more memory than the plan of its workspace has counted, wherever the
workspace begins: what the plan counts in floats from a multiple of its alignment, the arena finds
behind the first multiple of `kSimdAlign`.
-/

namespace FlowEdge

namespace Diffusion

/-! ## Programs of a plan -/

theorem checkedMul_some {left right product : Nat} (formed : checkedMul left right = some product) :
    product = left * right := by
  rw [checkedMul] at formed
  split at formed
  · cases formed
  · cases formed
    rfl

theorem checkedAdd_some {left right total : Nat} (formed : checkedAdd left right = some total) :
    total = left + right := by
  rw [checkedAdd] at formed
  split at formed
  · cases formed
  · cases formed
    rfl

namespace PlanM

variable {α β : Type} {plan after : WorkspacePlan}

theorem bind_some {program : PlanM α} {next : α → PlanM β} {result : β}
    (planned : (program >>= next) plan = some (result, after)) :
    ∃ value middle, program plan = some (value, middle) ∧
      next value middle = some (result, after) := by
  change (program plan).bind (fun step => next step.1 step.2) = _ at planned
  obtain ⟨⟨value, middle⟩, first, rest⟩ := Option.bind_eq_some_iff.mp planned
  exact ⟨value, middle, first, rest⟩

theorem lift_some {program : Option α} {value : α}
    (planned : (liftM program : PlanM α) plan = some (value, after)) :
    program = some value ∧ after = plan := by
  change program.bind (fun value => some (value, plan)) = _ at planned
  obtain ⟨result, formed, same⟩ := Option.bind_eq_some_iff.mp planned
  cases same
  exact ⟨formed, rfl⟩

theorem lift_bind_some {program : Option α} {next : α → PlanM β} {result : β}
    (planned : ((liftM program : PlanM α) >>= next) plan = some (result, after)) :
    ∃ value, program = some value ∧ next value plan = some (result, after) := by
  obtain ⟨value, middle, first, rest⟩ := bind_some planned
  obtain ⟨formed, rfl⟩ := lift_some first
  exact ⟨value, formed, rest⟩

end PlanM

/-- The padding of the plan is that of an alignment. -/
theorem add_padding (current : Nat) :
    current + (kAlignmentFloats - current % kAlignmentFloats) % kAlignmentFloats =
      alignUp kAlignmentFloats current := by
  rw [alignUp, kAlignmentFloats]
  omega

variable {plan after : WorkspacePlan}

theorem add_some {values : Nat} (planned : WorkspacePlan.add values plan = some ((), after)) :
    after.current = alignUp kAlignmentFloats plan.current + values ∧
      after.peak = max plan.peak after.current := by
  obtain ⟨aligned, padded, rest⟩ := Option.bind_eq_some_iff.mp planned
  obtain ⟨current, counted, rest⟩ := Option.bind_eq_some_iff.mp rest
  cases rest
  rw [checkedAdd_some counted, checkedAdd_some padded, add_padding]
  exact ⟨rfl, rfl⟩

theorem addProduct_some {left right : Nat}
    (planned : WorkspacePlan.addProduct left right plan = some ((), after)) :
    WorkspacePlan.add (left * right) plan = some ((), after) := by
  obtain ⟨product, isProduct, rest⟩ := PlanM.lift_bind_some planned
  rw [← checkedMul_some isProduct]
  exact rest

theorem temporary_some {allocations : List Nat}
    (planned : WorkspacePlan.temporary allocations plan = some ((), after)) :
    ∃ middle, WorkspacePlan.addAll allocations plan = some ((), middle) ∧
      after = { middle with current := plan.current } := by
  obtain ⟨saved, start, isSaved, rest⟩ := PlanM.bind_some planned
  cases isSaved
  obtain ⟨⟨⟩, middle, counted, rest⟩ := PlanM.bind_some rest
  cases rest
  exact ⟨middle, counted, rfl⟩

theorem addAll_cons_iff {values : Nat} {others : List Nat} :
    WorkspacePlan.addAll (values :: others) plan = some ((), after) ↔
      ∃ middle, WorkspacePlan.add values plan = some ((), middle) ∧
        WorkspacePlan.addAll others middle = some ((), after) := by
  constructor
  · intro planned
    obtain ⟨⟨⟩, middle, first, rest⟩ := PlanM.bind_some planned
    exact ⟨middle, first, rest⟩
  · rintro ⟨middle, first, rest⟩
    change (WorkspacePlan.add values plan).bind _ = _
    rw [first]
    exact rest

theorem addAll_append_some {counts others : List Nat}
    (planned : WorkspacePlan.addAll (counts ++ others) plan = some ((), after)) :
    ∃ middle, WorkspacePlan.addAll counts plan = some ((), middle) ∧
      WorkspacePlan.addAll others middle = some ((), after) := by
  induction counts generalizing plan with
  | nil => exact ⟨plan, rfl, planned⟩
  | cons values rest ih =>
      obtain ⟨first, added, further⟩ := addAll_cons_iff.mp planned
      obtain ⟨middle, counted, last⟩ := ih further
      exact ⟨middle, addAll_cons_iff.mpr ⟨first, added, counted⟩, last⟩

theorem addAll_peak {allocations : List Nat}
    (planned : WorkspacePlan.addAll allocations plan = some ((), after)) :
    plan.peak ≤ after.peak := by
  induction allocations generalizing plan with
  | nil =>
      cases planned
      exact Nat.le_refl _
  | cons values others ih =>
      obtain ⟨middle, first, rest⟩ := addAll_cons_iff.mp planned
      obtain ⟨-, peak⟩ := add_some first
      have further := ih rest
      omega

/-! ## The arena behind the plan -/

/-- The cursor is not behind what the plan has counted, from the first multiple of the alignment
on. -/
def Covered (base cursor : Nat) (plan : WorkspacePlan) : Prop :=
  alignUp simdAlign cursor + simdAlign ≤
    alignUp simdAlign base + 4 * alignUp kAlignmentFloats plan.current

theorem covered_start (base : Nat) : Covered base base {} := Nat.le_refl _

theorem Covered.add {base cursor values : Nat} (covered : Covered base cursor plan)
    (planned : WorkspacePlan.add values plan = some ((), after)) :
    place cursor (floats values) + simdAlign ≤ alignUp simdAlign base + 4 * after.current ∧
      Covered base (place cursor (floats values)) after := by
  obtain ⟨current, -⟩ := add_some planned
  have within : place cursor (floats values) + simdAlign ≤
      alignUp simdAlign base + 4 * after.current := by
    rw [Covered] at covered
    rw [place, floats, current]
    dsimp only
    omega
  refine ⟨within, ?_⟩
  -- Both sides are rounded up from multiples of their alignments.
  have aligned : simdAlign ∣ alignUp simdAlign base := Nat.dvd_mul_left _ _
  have rounded := alignUp_mono simdAlign within
  rw [alignUp_add (by decide) aligned] at rounded
  have units :
      alignUp simdAlign (4 * after.current) = 4 * alignUp kAlignmentFloats after.current := by
    rw [alignUp, alignUp, simdAlign, kAlignmentFloats]
    omega
  have shifted : alignUp simdAlign (place cursor (floats values) + simdAlign) =
      alignUp simdAlign (place cursor (floats values)) + simdAlign := by
    rw [alignUp, alignUp, simdAlign]
    omega
  rw [units, shifted] at rounded
  exact rounded

/-- A program that finds the memory that a plan has counted: it returns a value, and only scratch
of convolutions is refused to it. -/
structure Serves {α : Type} (base : Nat) (program : ScratchM α) (plan after : WorkspacePlan)
    (value : α) : Prop where
  grows : plan.peak ≤ after.peak
  runs : ∀ state, state.arena.Addressed → Covered base state.arena.cursor plan →
    base + 4 * after.peak ≤ state.arena.limit →
      ∃ cursor more, program state =
          (value, { state.at cursor with failures := state.failures ++ more }) ∧
        (∀ site ∈ more, site = .packing) ∧ state.arena.cursor ≤ cursor ∧
        Covered base cursor after

namespace Serves

variable {α β : Type} {base : Nat} {plan middle after : WorkspacePlan}

theorem pure (value : α) : Serves base (Pure.pure value) plan plan value where
  grows := Nat.le_refl _
  runs state _ covered _ := by
    refine ⟨state.arena.cursor, [], ?_, by simp, Nat.le_refl _, covered⟩
    rw [List.append_nil]
    rfl

variable {program : ScratchM α} {value : α}

theorem bind {next : α → ScratchM β} {result : β} (first : Serves base program plan middle value)
    (second : Serves base (next value) middle after result) :
    Serves base (program >>= next) plan after result where
  grows := Nat.le_trans first.grows second.grows
  runs state addressed covered enough := by
    have grows := second.grows
    obtain ⟨cursor, more, ran, packed, later, stillCovered⟩ :=
      first.runs state addressed covered (by omega)
    let inner : ScratchState := { state.at cursor with failures := state.failures ++ more }
    have memory : inner.arena.Addressed := state.addressed_at addressed later
    obtain ⟨last, others, furtherRan, furtherPacked, furtherLater, finallyCovered⟩ :=
      second.runs inner memory stillCovered enough
    refine ⟨last, more ++ others, ?_, List.forall_mem_append.mpr ⟨packed, furtherPacked⟩,
      Nat.le_trans later furtherLater, finallyCovered⟩
    rw [bind_eq ran, furtherRan]
    simp only [inner, List.append_assoc]
    rfl

theorem of_ite_pos {condition : Prop} [Decidable condition] {first second : ScratchM α}
    (holds : condition) (serves : Serves base first plan after value) :
    Serves base (if condition then first else second) plan after value := by
  rw [if_pos holds]
  exact serves

theorem of_ite_neg {condition : Prop} [Decidable condition] {first second : ScratchM α}
    (fails : ¬ condition) (serves : Serves base second plan after value) :
    Serves base (if condition then first else second) plan after value := by
  rw [if_neg fails]
  exact serves

theorem span (aligned : 4 ∣ base) {values : Nat}
    (planned : WorkspacePlan.add values plan = some ((), after)) :
    Serves base (span .diffusion values) plan after true where
  grows := by
    obtain ⟨-, peak⟩ := add_some planned
    omega
  runs state addressed covered enough := by
    obtain ⟨within, stillCovered⟩ := covered.add planned
    obtain ⟨-, peak⟩ := add_some planned
    have start : alignUp simdAlign base ≤ base + 60 := by
      obtain ⟨words, rfl⟩ := aligned
      rw [alignUp, simdAlign]
      omega
    have fits : place state.arena.cursor (floats values) ≤ state.arena.limit := by
      have unit : simdAlign = 64 := rfl
      omega
    refine ⟨_, [], ?_, by simp, le_place _ _, stillCovered⟩
    rw [span_fits addressed .diffusion fits, List.append_nil]
    rfl

theorem buffer (aligned : 4 ∣ base) {values : Nat} (positive : values ≠ 0)
    (planned : WorkspacePlan.add values plan = some ((), after)) :
    Serves base (buffer values) plan after true := by
  have given : (true && decide (values ≠ 0)) = true := by
    rw [Bool.true_and, decide_eq_true positive]
  rw [← given]
  exact .bind (.span aligned planned) (.pure _)

theorem buffers (aligned : 4 ∣ base) {counts : List Nat} (positive : ∀ count ∈ counts, count ≠ 0)
    (planned : WorkspacePlan.addAll counts plan = some ((), after)) :
    Serves base (buffers counts) plan after true := by
  induction counts generalizing plan with
  | nil =>
      cases planned
      exact .pure true
  | cons count rest ih =>
      obtain ⟨middle, first, others⟩ := addAll_cons_iff.mp planned
      obtain ⟨head, tail⟩ := List.forall_mem_cons.mp positive
      exact .bind (.buffer aligned head first) (.bind (ih tail others) (.pure _))

/-- What is taken between a mark and its reset counts for the peak only. -/
theorem marked (serves : Serves base program plan middle value) :
    Serves base (marked program) plan { middle with current := plan.current } value where
  grows := serves.grows
  runs state addressed covered enough := by
    obtain ⟨cursor, more, ran, packed, later, -⟩ := serves.runs state addressed covered enough
    refine ⟨state.arena.cursor, more, ?_, packed, Nat.le_refl _, covered⟩
    change ((program state).1, { (program state).2 with
      arena := (program state).2.arena.resetTo state.arena.cursor }) = _
    rw [ran]
    rfl

/-- A larger peak than a program needs does no harm. -/
theorem weaken (serves : Serves base program plan middle value) (peak : middle.peak ≤ after.peak)
    (current : after.current = middle.current) :
    Serves base program plan after value where
  grows := Nat.le_trans serves.grows peak
  runs state addressed covered enough := by
    obtain ⟨cursor, more, ran, packed, later, stillCovered⟩ :=
      serves.runs state addressed covered (by omega)
    refine ⟨cursor, more, ran, packed, later, ?_⟩
    rw [Covered, current]
    exact stillCovered

theorem packing (count : Nat) : Serves base (packing count) plan plan () where
  grows := Nat.le_refl _
  runs state addressed covered _ := by
    by_cases fits : place state.arena.cursor (floats count) ≤ state.arena.limit
    · refine ⟨state.arena.cursor, [], ?_, by simp, Nat.le_refl _, covered⟩
      have result : (do let _ ← FlowEdge.span .packing count : ScratchM Unit) state =
          ((), state.at (place state.arena.cursor (floats count))) := by
        rw [bind_eq (span_fits addressed .packing fits)]
        rfl
      rw [Diffusion.packing, marked_eq result, List.append_nil]
      rfl
    · refine ⟨state.arena.cursor, [.packing], ?_, by simp, Nat.le_refl _, covered⟩
      have refused := span_fails addressed .packing (Nat.not_le.mp fits)
      change (((), { (FlowEdge.span .packing count state).2 with
        arena := (FlowEdge.span .packing count state).2.arena.resetTo state.arena.cursor }) :
          Unit × ScratchState) = _
      rw [refused]
      rfl

end Serves

/-! ## The traversal -/

section Traversal

variable {base : Nat} {plan after : WorkspacePlan} {inChannels outChannels length : Nat}

theorem planResidual_some
    (planned : planResidual inChannels outChannels length plan = some ((), after)) :
    ∃ middle, WorkspacePlan.add (outChannels * length) plan = some ((), middle) ∧
      WorkspacePlan.temporary [outChannels * length, 2 * outChannels,
        conv1dWorkspaceFloats inChannels outChannels length 5] middle = some ((), after) := by
  obtain ⟨activation, isActivation, sized⟩ := PlanM.lift_bind_some planned
  obtain ⟨modulation, isModulation, counted⟩ := PlanM.lift_bind_some sized
  obtain ⟨⟨⟩, middle, added, rest⟩ := PlanM.bind_some counted
  rw [← checkedMul_some isActivation, ← checkedMul_some isModulation]
  exact ⟨middle, added, rest⟩

/-- What a plan counts beyond the buffers of a temporary is left for the packing. -/
theorem temporary_serves {α : Type} {program : ScratchM α} {value : α} (counts others : List Nat)
    (planned : WorkspacePlan.temporary (counts ++ others) plan = some ((), after))
    (serves : ∀ middle, WorkspacePlan.addAll counts plan = some ((), middle) →
      Serves base program plan middle value) :
    Serves base (marked program) plan after value := by
  obtain ⟨last, counted, rfl⟩ := temporary_some planned
  obtain ⟨middle, first, rest⟩ := addAll_append_some counted
  have grown := addAll_peak rest
  exact (serves middle first).marked.weaken grown rfl

/-- Room that the plan has for the scratch of a convolution need not be used. -/
theorem packing_serves {count scratch : Nat}
    (planned : WorkspacePlan.temporary [scratch] plan = some ((), after)) :
    Serves base (packing count) plan after () := by
  obtain ⟨last, counted, rfl⟩ := temporary_some planned
  have grown := addAll_peak counted
  exact (Serves.packing count).weaken grown rfl

theorem residualForward_serves (aligned : 4 ∣ base) (kernel : Nat) {input output scratch : Nat}
    (width : outChannels ≠ 0) (long : length ≠ 0)
    (planned : WorkspacePlan.temporary [outChannels * length, 2 * outChannels, scratch] plan =
      some ((), after)) (enoughInput : inChannels * length ≤ input)
    (enoughOutput : outChannels * length ≤ output) :
    Serves base (residualForward kernel inChannels outChannels length input output) plan after
      true := by
  have positive : ∀ count ∈ [outChannels * length, 2 * outChannels], count ≠ 0 := by
    simp [width, long]
  refine .of_ite_neg (by omega) (temporary_serves [outChannels * length, 2 * outChannels] [scratch]
    planned fun middle counted => ?_)
  refine .bind (.buffers aligned positive counted) (.of_ite_pos rfl ?_)
  refine .bind (.packing _) (.bind (.packing _) ?_)
  by_cases same : inChannels = outChannels
  · exact .of_ite_neg (not_not_intro same) (.pure true)
  · exact .of_ite_pos same (.bind (.packing _) (.pure true))

theorem residualBlock_serves (aligned : 4 ∣ base) (kernel : Nat) {input : Nat}
    (width : outChannels ≠ 0) (long : length ≠ 0)
    (planned : planResidual inChannels outChannels length plan = some ((), after))
    (enough : inChannels * length ≤ input) :
    Serves base (residualBlock kernel inChannels outChannels length input) plan after true := by
  obtain ⟨middle, output, buffers⟩ := planResidual_some planned
  exact .bind (.buffer aligned (Nat.mul_ne_zero width long) output) (.of_ite_pos rfl
    (residualForward_serves aligned kernel width long buffers enough (Nat.le_refl _)))

/-- The skips that the stages leave, the last first: each is twice as long as that of the stage
below. -/
def skipStack : List Nat → Nat → List (Nat × Nat)
  | [], _ => []
  | channels :: rest, length => (channels * length, length) :: skipStack rest (length * 2)

theorem skipStack_concat (stages : List Nat) (channels length : Nat) :
    skipStack (stages ++ [channels]) length = skipStack stages length ++
      [(channels * (length * 2 ^ stages.length), length * 2 ^ stages.length)] := by
  induction stages generalizing length with
  | nil => simp [skipStack]
  | cons stage rest ih =>
      rw [List.cons_append, skipStack, ih, skipStack, List.length_cons, Nat.pow_succ']
      simp [Nat.mul_assoc]

/-- On the way down. -/
theorem denoiseDown_serves (aligned : 4 ∣ base) (kernel : Nat) {bottom : Nat} (long : bottom ≠ 0)
    (rest : List Nat) :
    ∀ {channels inChannels result : Nat} {x : Activation} {skips : List (Nat × Nat)}
      {plan : WorkspacePlan}, (∀ width ∈ channels :: rest, width ≠ 0) →
      x.length = bottom * 2 ^ rest.length → x.size = inChannels * x.length →
      planDown (channels :: rest) inChannels x.length plan = some (result, after) →
        result = bottom ∧
          Serves base (denoiseDown kernel (channels :: rest) inChannels x skips) plan after
            (some ({ size := (channels :: rest).getLastD 0 * bottom
                     channels := (channels :: rest).getLastD 0, length := bottom },
              skipStack (channels :: rest).reverse bottom ++ skips)) := by
  induction rest with
  | nil =>
      intro channels inChannels result x skips plan widths isLength isSize planned
      have width : channels ≠ 0 := widths _ (List.mem_singleton_self _)
      obtain ⟨⟨⟩, first, into, rest⟩ := PlanM.bind_some planned
      obtain ⟨⟨⟩, second, through, rest⟩ := PlanM.bind_some rest
      rw [List.length_nil, Nat.pow_zero, Nat.mul_one] at isLength
      have here : x.length ≠ 0 := isLength ▸ long
      cases rest
      refine ⟨isLength, ?_⟩
      refine .bind (residualBlock_serves aligned kernel width here into (by omega))
        (.of_ite_pos rfl ?_)
      refine .bind (residualBlock_serves aligned kernel width here through (Nat.le_refl _))
        (.of_ite_pos rfl (.of_ite_pos rfl ?_))
      rw [isLength]
      exact .pure _
  | cons next rest ih =>
      intro channels inChannels result x skips plan widths isLength isSize planned
      obtain ⟨width, others⟩ := List.forall_mem_cons.mp widths
      obtain ⟨⟨⟩, first, into, counted⟩ := PlanM.bind_some planned
      obtain ⟨⟨⟩, second, through, counted⟩ := PlanM.bind_some counted
      rw [if_neg (List.cons_ne_nil _ _)] at counted
      obtain ⟨⟨⟩, third, halved, counted⟩ := PlanM.bind_some counted
      obtain ⟨⟨⟩, fourth, scratch, counted⟩ := PlanM.bind_some counted
      have half : x.length / 2 = bottom * 2 ^ rest.length := by
        rw [isLength, List.length_cons, Nat.pow_succ, ← Nat.mul_assoc]
        exact Nat.mul_div_cancel _ (by decide)
      have halfLong : x.length / 2 ≠ 0 := by
        rw [half]
        exact Nat.mul_ne_zero long (Nat.two_pow_pos _).ne'
      have here : x.length ≠ 0 := by omega
      let shorter : Activation :=
        { size := channels * (x.length / 2), channels, length := x.length / 2 }
      obtain ⟨isBottom, below⟩ := @ih next channels result shorter
        ((channels * x.length, x.length) :: skips) fourth others half rfl counted
      have stack : skipStack (channels :: next :: rest).reverse bottom ++ skips =
          skipStack (next :: rest).reverse bottom ++ (channels * x.length, x.length) :: skips := by
        rw [List.reverse_cons, skipStack_concat, List.length_reverse, ← isLength,
          List.append_assoc, List.singleton_append]
      refine ⟨isBottom, ?_⟩
      rw [stack]
      refine .bind (residualBlock_serves aligned kernel width here into (by omega))
        (.of_ite_pos rfl ?_)
      refine .bind (residualBlock_serves aligned kernel width here through (Nat.le_refl _))
        (.of_ite_pos rfl (.of_ite_neg (List.cons_ne_nil _ _) ?_))
      refine .bind (.buffer aligned (Nat.mul_ne_zero width halfLong) (addProduct_some halved))
        (.of_ite_pos rfl ?_)
      exact .bind (packing_serves scratch) below

theorem denoiseMiddle_serves (aligned : 4 ∣ base) (kernel : Nat) {bottom : Nat}
    {middle : WorkspacePlan} (width : bottom ≠ 0) (long : length ≠ 0)
    (into : planResidual bottom bottom length plan = some ((), middle))
    (through : planResidual bottom bottom length middle = some ((), after)) :
    Serves base (denoiseMiddle kernel bottom
        { size := bottom * length, channels := bottom, length })
      plan after (some { size := bottom * length, channels := bottom, length }) := by
  obtain ⟨first, output, buffers⟩ := planResidual_some into
  obtain ⟨second, furtherOutput, furtherBuffers⟩ := planResidual_some through
  have positive : bottom * length ≠ 0 := Nat.mul_ne_zero width long
  refine .bind (.buffer aligned positive output) (.of_ite_pos rfl ?_)
  refine .bind (residualForward_serves aligned kernel width long buffers (Nat.le_refl _)
    (Nat.le_refl _)) (.of_ite_pos rfl ?_)
  refine .bind (.buffer aligned positive furtherOutput) (.of_ite_pos rfl ?_)
  exact .bind (residualForward_serves aligned kernel width long furtherBuffers (Nat.le_refl _)
    (Nat.le_refl _)) (.of_ite_pos rfl (.pure _))

/-- On the way up: each skip has the size and the length that the activation has. -/
theorem denoiseUp_serves (aligned : 4 ∣ base) (kernel : Nat) (rest : List Nat) :
    ∀ {high length : Nat} {plan : WorkspacePlan}, (∀ width ∈ high :: rest, width ≠ 0) →
      length ≠ 0 → planUp (high :: rest) length plan = some ((), after) →
        Serves base (denoiseUp kernel (high :: rest)
            { size := high * length, channels := high, length }
            (skipStack (high :: rest) length)) plan after
          (some { size := (high :: rest).getLastD 0 * (length * 2 ^ rest.length)
                  channels := (high :: rest).getLastD 0, length := length * 2 ^ rest.length }) := by
  induction rest with
  | nil =>
      intro high length plan widths long planned
      cases planned
      rw [List.length_nil, Nat.pow_zero, Nat.mul_one]
      exact .pure _
  | cons low rest ih =>
      intro high length plan widths long planned
      obtain ⟨wide, others⟩ := List.forall_mem_cons.mp widths
      have width : low ≠ 0 := others _ List.mem_cons_self
      obtain ⟨concatenated, isConcatenated, counted⟩ := PlanM.lift_bind_some planned
      cases checkedMul_some isConcatenated
      obtain ⟨⟨⟩, joined, join, counted⟩ := PlanM.bind_some counted
      obtain ⟨⟨⟩, first, into, counted⟩ := PlanM.bind_some counted
      obtain ⟨⟨⟩, second, through, counted⟩ := PlanM.bind_some counted
      obtain ⟨longer, isLonger, counted⟩ := PlanM.lift_bind_some counted
      cases checkedMul_some isLonger
      obtain ⟨⟨⟩, third, doubled, counted⟩ := PlanM.bind_some counted
      obtain ⟨⟨⟩, fourth, scratch, counted⟩ := PlanM.bind_some counted
      have twice : length * 2 ≠ 0 := Nat.mul_ne_zero long (by decide)
      have joinedSize : high * length + high * length = 2 * high * length := by
        rw [Nat.mul_assoc, Nat.two_mul]
      have concatenation :
          Serves base (buffer (high * length + high * length)) plan joined true := by
        rw [joinedSize]
        exact .buffer aligned (by simp [wide, long]) (addProduct_some join)
      have above := ih others twice counted
      rw [List.length_cons, Nat.pow_succ', ← Nat.mul_assoc length]
      refine .of_ite_neg (by simp) (.bind concatenation (.of_ite_pos rfl ?_))
      refine .bind (residualBlock_serves aligned kernel width long into
        (Nat.le_of_eq joinedSize.symm)) (.of_ite_pos rfl ?_)
      refine .bind (residualBlock_serves aligned kernel width long through (Nat.le_refl _))
        (.of_ite_pos rfl ?_)
      refine .bind (.buffer aligned (Nat.mul_ne_zero width twice) (addProduct_some doubled))
        (.of_ite_pos rfl ?_)
      exact .bind (packing_serves scratch) above

end Traversal

/-! ## The workspace of a checkpoint -/

/-- What the constructor has checked of a configuration. -/
structure Configured (tensors : List ModelTensor) (cfg : DiffusionConfig) : Prop where
  workspace : requiredWorkspaceFloats tensors = (workspaceFloats cfg.actionDim cfg.horizon
    cfg.conditionDim cfg.timestepDim cfg.dims).getD 0
  actions : cfg.actionDim ≠ 0
  horizon : cfg.horizon ≠ 0
  timestep : cfg.timestepDim ≠ 0
  stages : cfg.dims ≠ []
  widths : ∀ width ∈ cfg.dims, width ≠ 0
  halves : 2 ^ (cfg.dims.length - 1) ∣ cfg.horizon

theorem mapM_option_some {α β : Type} {f : α → Option β} {values : List α} {results : List β}
    (mapped : values.mapM f = some results) :
    results.length = values.length ∧ ∀ result ∈ results, ∃ value, f value = some result := by
  induction values generalizing results with
  | nil =>
      cases mapped
      simp
  | cons value rest ih =>
      rw [List.mapM_cons] at mapped
      obtain ⟨first, isFirst, others⟩ := Option.bind_eq_some_iff.mp mapped
      obtain ⟨tail, isTail, same⟩ := Option.bind_eq_some_iff.mp others
      cases same
      obtain ⟨lengths, each⟩ := ih isTail
      refine ⟨by simp [lengths], List.forall_mem_cons.mpr ⟨⟨value, isFirst⟩, each⟩⟩

variable {tensors : List ModelTensor}

theorem stageDims_some {stages : Nat} {dims : List Nat}
    (loaded : stageDims tensors stages = some dims) :
    dims.length = stages ∧ ∀ width ∈ dims, width ≠ 0 := by
  obtain ⟨tensor, -, loaded⟩ := Option.bind_eq_some_iff.mp loaded
  obtain ⟨lengths, each⟩ := mapM_option_some (Option.ite_none_left_eq_some.mp loaded).2
  refine ⟨by rw [lengths, List.length_range], fun width member => ?_⟩
  obtain ⟨stage, read⟩ := each width member
  obtain ⟨value, -, checked⟩ := Option.bind_eq_some_iff.mp read
  obtain ⟨positive, ⟨⟩⟩ := Option.ite_none_left_eq_some.mp checked
  exact positive

theorem configured_of_config {cfg : DiffusionConfig} (configured : config tensors = some cfg) :
    Configured tensors cfg := by
  obtain ⟨value, isMeta, rest⟩ := Option.bind_eq_some_iff.mp configured
  obtain ⟨schema, -, rest⟩ := Option.bind_eq_some_iff.mp rest
  obtain ⟨actionDim, isActionDim, rest⟩ := Option.bind_eq_some_iff.mp rest
  obtain ⟨horizon, isHorizon, rest⟩ := Option.bind_eq_some_iff.mp rest
  obtain ⟨actionSteps, -, rest⟩ := Option.bind_eq_some_iff.mp rest
  obtain ⟨observationSteps, -, rest⟩ := Option.bind_eq_some_iff.mp rest
  obtain ⟨conditionDim, isConditionDim, rest⟩ := Option.bind_eq_some_iff.mp rest
  obtain ⟨stages, isStages, rest⟩ := Option.bind_eq_some_iff.mp rest
  obtain ⟨kernel, -, rest⟩ := Option.bind_eq_some_iff.mp rest
  obtain ⟨groups, -, rest⟩ := Option.bind_eq_some_iff.mp rest
  obtain ⟨timestepDim, isTimestepDim, rest⟩ := Option.bind_eq_some_iff.mp rest
  obtain ⟨trainTimesteps, -, rest⟩ := Option.bind_eq_some_iff.mp rest
  obtain ⟨betaSchedule, -, rest⟩ := Option.bind_eq_some_iff.mp rest
  obtain ⟨predictionType, -, rest⟩ := Option.bind_eq_some_iff.mp rest
  obtain ⟨clipSample, -, rest⟩ := Option.bind_eq_some_iff.mp rest
  obtain ⟨normalization, -, rest⟩ := Option.bind_eq_some_iff.mp rest
  obtain ⟨checked, rest⟩ := Option.ite_none_left_eq_some.mp rest
  obtain ⟨dims, isDims, rest⟩ := Option.bind_eq_some_iff.mp rest
  obtain ⟨fitting, ⟨⟩⟩ := Option.ite_none_left_eq_some.mp rest
  simp only [not_or] at checked fitting
  obtain ⟨-, -, -, -, -, actions, horizons, -, -, -, -, -, few, many, -, -, -, steps, -⟩ := checked
  obtain ⟨-, -, halves⟩ := fitting
  obtain ⟨lengths, widths⟩ := stageDims_some isDims
  have timestep : timestepDim ≠ 0 := by omega
  refine ⟨?_, actions, horizons, timestep, ?_, widths, ?_⟩
  · have allowed := not_or.mpr ⟨few, many⟩
    rw [requiredWorkspaceFloats, isMeta]
    simp only [Option.bind_eq_bind, Option.bind_some, isActionDim, isHorizon, isConditionDim,
      isStages, isTimestepDim, if_neg allowed, isDims]
  · rintro rfl
    simp only [List.length_nil] at lengths
    omega
  · rw [lengths]
    exact Nat.dvd_of_mod_eq_zero (not_not.mp halves)

/-- The ends of the stages, seen from the last. -/
theorem reverse_stages {dims rest : List Nat} {channels : Nat} (isDims : dims = channels :: rest) :
    ∃ lower, dims.reverse = dims.getLastD 0 :: lower ∧ lower.length = rest.length ∧
      (dims.getLastD 0 :: lower).getLastD 0 = dims.headD 0 := by
  have nonempty : dims.reverse ≠ [] :=
    List.reverse_ne_nil_iff.mpr (isDims ▸ List.cons_ne_nil channels rest)
  obtain ⟨high, lower, isReverse⟩ := List.exists_cons_of_ne_nil nonempty
  have isHigh : dims.getLastD 0 = high := by
    rw [List.getLastD_eq_getLast?, ← List.head?_reverse, isReverse]
    rfl
  rw [isHigh]
  refine ⟨lower, isReverse, ?_, ?_⟩
  · have lengths := congrArg List.length isReverse
    rw [List.length_reverse, isDims, List.length_cons, List.length_cons] at lengths
    omega
  · rw [← isReverse, List.getLastD_eq_getLast?, List.getLast?_reverse, List.headD_eq_head?_getD]

/-- The plan of a denoising step serves it. -/
theorem denoiseSpans_serves {base : Nat} (aligned : 4 ∣ base) {head : DiffusionHead}
    (configured : Configured tensors head.config)
    (planned : planDenoise head.config.actionDim head.config.horizon head.config.conditionDim
      head.config.timestepDim head.config.dims {} = some ((), after)) :
    Serves base (denoiseSpans head) {} after true := by
  obtain ⟨-, actions, horizon, timestep, stages, widths, bottom, halves⟩ := configured
  obtain ⟨channels, rest, isDims⟩ := List.exists_cons_of_ne_nil stages
  obtain ⟨lower, isReverse, lengths, top⟩ := reverse_stages isDims
  rw [isDims, List.length_cons, Nat.add_sub_cancel, Nat.mul_comm] at halves
  have long : bottom ≠ 0 := fun short => horizon (by rw [halves, short, Nat.zero_mul])
  have isLast : head.config.dims.getLastD 0 ≠ 0 :=
    widths _ (List.mem_reverse.mp (isReverse ▸ List.mem_cons_self))
  have upper : ∀ width ∈ head.config.dims.getLastD 0 :: lower, width ≠ 0 := fun width member =>
    widths width (List.mem_reverse.mp (isReverse ▸ member))
  obtain ⟨values, isValues, counted⟩ := PlanM.lift_bind_some planned
  obtain ⟨hidden, isHidden, counted⟩ := PlanM.lift_bind_some counted
  obtain ⟨features, isFeatures, counted⟩ := PlanM.lift_bind_some counted
  obtain ⟨⟨⟩, first, timeAdded, counted⟩ := PlanM.bind_some counted
  obtain ⟨⟨⟩, second, hiddenAdded, counted⟩ := PlanM.bind_some counted
  obtain ⟨⟨⟩, third, featuresAdded, counted⟩ := PlanM.bind_some counted
  obtain ⟨⟨⟩, fourth, valuesAdded, counted⟩ := PlanM.bind_some counted
  obtain ⟨length, fifth, down, counted⟩ := PlanM.bind_some counted
  obtain ⟨⟨⟩, sixth, into, counted⟩ := PlanM.bind_some counted
  obtain ⟨⟨⟩, seventh, through, counted⟩ := PlanM.bind_some counted
  obtain ⟨⟨⟩, eighth, up, counted⟩ := PlanM.bind_some counted
  obtain ⟨⟨⟩, ninth, finalAdded, counted⟩ := PlanM.bind_some counted
  obtain ⟨⟨⟩, tenth, resultAdded, scratch⟩ := PlanM.bind_some counted
  cases checkedMul_some isHidden
  cases checkedAdd_some isFeatures
  have sized : values = sampleValues head := by
    rw [checkedMul_some isValues, sampleValues, Nat.mul_comm]
  have filled : sampleValues head ≠ 0 := Nat.mul_ne_zero horizon actions
  rw [sized] at valuesAdded resultAdded
  have opened : WorkspacePlan.addAll [head.config.timestepDim, head.config.timestepDim * 4,
      head.config.timestepDim + head.config.conditionDim, sampleValues head] {} =
        some ((), fourth) :=
    addAll_cons_iff.mpr ⟨first, timeAdded, addAll_cons_iff.mpr ⟨second, hiddenAdded,
      addAll_cons_iff.mpr ⟨third, featuresAdded, addAll_cons_iff.mpr ⟨fourth, valuesAdded, rfl⟩⟩⟩⟩
  let entry : Activation :=
    { size := sampleValues head, channels := head.config.actionDim, length := head.config.horizon }
  have entered : entry.size = head.config.actionDim * entry.length := Nat.mul_comm _ _
  rw [isDims] at down widths
  obtain ⟨rfl, below⟩ := @denoiseDown_serves base _ aligned head.config.kernel bottom long rest
    channels head.config.actionDim length entry [] fourth widths halves entered down
  rw [← isDims, isReverse, List.append_nil] at below
  rw [isReverse] at up
  have middle := denoiseMiddle_serves aligned head.config.kernel isLast long into through
  have above := denoiseUp_serves aligned head.config.kernel lower upper long up
  rw [top, lengths, ← halves] at above
  have wide : head.config.dims.headD 0 ≠ 0 := by
    rw [isDims]
    exact widths _ List.mem_cons_self
  have closed : WorkspacePlan.addAll [head.config.dims.headD 0 * head.config.horizon,
      sampleValues head] eighth = some ((), tenth) :=
    addAll_cons_iff.mpr ⟨ninth, addProduct_some finalAdded,
      addAll_cons_iff.mpr ⟨tenth, resultAdded, rfl⟩⟩
  refine .bind (.buffers aligned (by simp [timestep, filled]) opened) (.of_ite_pos rfl ?_)
  refine .bind below (.bind middle ?_)
  rw [isReverse]
  refine .bind above (.of_ite_neg (by simp) ?_)
  refine .bind (.buffers aligned (List.forall_mem_cons.mpr ⟨Nat.mul_ne_zero wide horizon,
    List.forall_mem_singleton.mpr filled⟩) closed) (.of_ite_pos rfl ?_)
  exact .bind (.packing _) (.bind (packing_serves scratch) (.pure true))

/-- The floats of a workspace hold the plan behind those of the sampler. -/
theorem workspaceFloats_some {actionDim horizon conditionDim timestepDim total : Nat}
    {dims : List Nat}
    (counted : workspaceFloats actionDim horizon conditionDim timestepDim dims = some total) :
    ∃ plan, planDenoise actionDim horizon conditionDim timestepDim dims {} = some ((), plan) ∧
      total = 2 * (actionDim * horizon) + plan.peak := by
  obtain ⟨values, isValues, counted⟩ := Option.bind_eq_some_iff.mp counted
  obtain ⟨⟨⟨⟩, plan⟩, planned, counted⟩ := Option.bind_eq_some_iff.mp counted
  obtain ⟨sampler, isSampler, counted⟩ := Option.bind_eq_some_iff.mp counted
  refine ⟨plan, planned, ?_⟩
  rw [checkedAdd_some counted, checkedMul_some isSampler, checkedMul_some isValues]

/-- A head is that of the configuration, with the workspace of the checkpoint. -/
theorem construct_some {state : ScratchState} {head : DiffusionHead}
    (constructed : (construct tensors state).1 = some head) :
    config tensors = some head.config ∧ head.workspaceFloats = requiredWorkspaceFloats tensors ∧
      head.workspaceFloats ≠ 0 := by
  cases configured : config tensors with
  | none =>
      rw [construct, configured] at constructed
      cases constructed
  | some cfg =>
      rw [construct, configured] at constructed
      dsimp only at constructed
      split at constructed
      · cases constructed
      · rcases ran : loadUp tensors cfg cfg.dims.reverse 0 state with ⟨loaded, middle⟩
        rw [bind_eq ran] at constructed
        split at constructed
        · split at constructed
          · cases constructed
          · rcases spanned : span .constructor cfg.trainTimesteps middle with ⟨given, after⟩
            rw [bind_eq spanned] at constructed
            split at constructed
            · change ite _ _ _ = _ at constructed
              split at constructed
              · next positive =>
                cases constructed
                exact ⟨rfl, rfl, positive⟩
              · cases constructed
            · cases constructed
        · cases constructed

section Calls

variable {tensors : List ModelTensor} {state : ScratchState} {head : DiffusionHead}

/-- The workspace of a head holds the values of the sampler, and a plan that serves a denoising
step. -/
theorem construct_plan (constructed : (construct tensors state).1 = some head) :
    ∃ plan, head.workspaceFloats = 2 * sampleValues head + plan.peak ∧
      ∀ base, 4 ∣ base → Serves base (denoiseSpans head) {} plan true := by
  obtain ⟨configured, sized, positive⟩ := construct_some constructed
  have checked := configured_of_config configured
  rw [checked.workspace] at sized
  cases counted : workspaceFloats head.config.actionDim head.config.horizon
      head.config.conditionDim head.config.timestepDim head.config.dims with
  | none =>
      rw [counted] at sized
      exact absurd sized positive
  | some total =>
      obtain ⟨plan, planned, isTotal⟩ := workspaceFloats_some counted
      refine ⟨plan, ?_, fun base aligned => denoiseSpans_serves aligned checked planned⟩
      rw [sized, counted, Option.getD_some, isTotal, sampleValues, Nat.mul_comm head.config.horizon]

/-- A workspace that holds the plan gives a denoising step every buffer. -/
theorem denoise_of_enough (constructed : (construct tensors state).1 = some head)
    (call : DenoiseCall) {address size : Nat} (start : 0 < address) (aligned : 4 ∣ address)
    (bounded : address + size * 4 < 2 ^ 64)
    (enough : head.workspaceFloats ≤ size + 2 * sampleValues head) :
    (denoise head call address size).1 = accepts head call ∧
      ∀ site ∈ (denoise head call address size).2, site = .packing := by
  obtain ⟨plan, sized, serves⟩ := construct_plan constructed
  rw [denoise, if_neg (by omega)]
  split
  · next refused =>
    exact ⟨(Bool.eq_false_iff.mpr refused).symm, by simp⟩
  · next accepted =>
    let inner : ScratchState := { arena := { cursor := address, limit := address + size * 4 } }
    have memory : inner.arena.Addressed := ⟨start, bounded⟩
    obtain ⟨cursor, more, ran, packed, -, -⟩ :=
      (serves address aligned).runs inner memory (covered_start address) (by
        change address + 4 * plan.peak ≤ address + size * 4
        omega)
    rw [ran]
    exact ⟨(not_not.mp accepted).symm, packed⟩

/-- Every step of the sampler is served alike. -/
theorem sampleSteps_of_enough (constructed : (construct tensors state).1 = some head)
    (address size : Nat) (start : 0 < address) (aligned : 4 ∣ address)
    (bounded : address + size * 4 < 2 ^ 64)
    (enough : head.workspaceFloats ≤ size + 2 * sampleValues head) (steps : Nat) :
    (sampleSteps head address size steps).1 = true ∧
      ∀ site ∈ (sampleSteps head address size steps).2, site = .packing := by
  induction steps with
  | zero => simp [sampleSteps]
  | succ steps ih =>
      let call : DenoiseCall :=
        { condition := head.config.conditionDim, sample := sampleValues head
          noise := sampleValues head, finite := true }
      obtain ⟨done, packed⟩ := denoise_of_enough constructed call start aligned bounded enough
      have accepted : accepts head call = true := by simp [accepts, call]
      rw [accepted] at done
      obtain ⟨all, others⟩ := ih
      have unfolded : sampleSteps head address size (steps + 1) =
          ((sampleSteps head address size steps).1,
            (denoise head call address size).2 ++ (sampleSteps head address size steps).2) := by
        rw [sampleSteps]
        exact if_pos done
      rw [unfolded]
      exact ⟨all, List.forall_mem_append.mpr ⟨packed, others⟩⟩

/-- **The plan is sufficient.** In a workspace of the planned size, at any address of floats, a
denoising step or a run of the sampler fails only by its arguments: every buffer is given, the
skips and the end have the sizes that are compared, and only the scratch of a convolution may be
refused. -/
theorem workspace_sufficient (constructed : (construct tensors state).1 = some head)
    {address size : Nat} (start : 0 < address) (aligned : 4 ∣ address)
    (bounded : address + size * 4 < 2 ^ 64) (enough : requiredWorkspaceFloats tensors ≤ size) :
    (∀ call, (denoise head call address size).1 = accepts head call ∧
      ∀ site ∈ (denoise head call address size).2, site = .packing) ∧
    ∀ condition noise action steps scheduler,
      (sample head condition noise action steps scheduler address size).1 =
        decide (condition = head.config.conditionDim ∧ noise = sampleValues head ∧
          sampleValues head ≤ action ∧ 0 < steps ∧ steps ≤ head.config.trainTimesteps ∧
          scheduler = true) ∧
      ∀ site ∈ (sample head condition noise action steps scheduler address size).2,
        site = .packing := by
  obtain ⟨-, sized, -⟩ := construct_some constructed
  obtain ⟨plan, total, -⟩ := construct_plan constructed
  refine ⟨fun call => denoise_of_enough constructed call start aligned bounded (by omega),
    fun condition noise action steps scheduler => ?_⟩
  rw [sample]
  split
  · next refused =>
    refine ⟨(decide_eq_false ?_).symm, by simp⟩
    rintro ⟨isCondition, isNoise, room, some, few, scheduled⟩
    rcases refused with wrong | wrong | wrong | wrong | wrong | wrong | wrong
    · exact wrong isCondition
    · exact wrong isNoise
    · omega
    · omega
    · omega
    · omega
    · exact wrong scheduled
  · next accepted =>
    simp only [not_or, not_not, Nat.not_lt] at accepted
    obtain ⟨isCondition, isNoise, room, workspace, some, few, scheduled⟩ := accepted
    obtain ⟨all, packed⟩ := sampleSteps_of_enough constructed
      (address + 2 * sampleValues head * 4) (size - 2 * sampleValues head)
      (by omega) (by omega) (by omega) (by omega) steps
    refine ⟨all.trans (decide_eq_true ?_).symm, packed⟩
    exact ⟨isCondition, isNoise, room, by omega, by omega, scheduled⟩

end Calls

/-- A tensor of floats. -/
private def denseTensor (name : TensorName) (shape : List Nat) : ModelTensor :=
  { name, dtype := .f32, ndim := shape.length, shape := shape.map UInt64.ofNat
    bytes := shape.prod * 4 }

private def denseModule (part : DiffusionPart) (shape : List Nat) : List ModelTensor :=
  [denseTensor (.diffusionWeight part) shape, denseTensor (.diffusionBias part) (shape.take 1)]

private def denseResidual (part : ResidualPart → DiffusionPart) (inChannels outChannels : Nat) :
    List ModelTensor :=
  denseModule (part .c1) [outChannels, inChannels, 3] ++ denseModule (part .n1) [outChannels] ++
    denseModule (part .film) [2 * outChannels, 5] ++
    denseModule (part .c2) [outChannels, outChannels, 3] ++ denseModule (part .n2) [outChannels] ++
    denseModule (part .res) [outChannels, inChannels, 1]

/-- Two stages of eight channels, one action and two time steps. -/
private def twoStages : List ModelTensor :=
  let numbers : List Rat := [1, 1, 2, 1, 1, 1, 2, 3, 8, 4, 1, 0, 0, 0, 1, 0]
  [ { denseTensor .diffusionMeta [16] with values := numbers.map .finite },
    { denseTensor .diffusionDims [2] with values := [.finite 8, .finite 8] },
    { denseTensor .actionMin [1] with values := [.finite 0] },
    { denseTensor .actionMax [1] with values := [.finite 1] } ] ++
  denseModule .te1 [16, 4] ++ denseModule .te2 [4, 16] ++
  denseResidual (.down 0 0) 1 8 ++ denseResidual (.down 0 1) 8 8 ++
  denseModule (.downsample 0) [8, 8, 3] ++
  denseResidual (.down 1 0) 8 8 ++ denseResidual (.down 1 1) 8 8 ++
  denseResidual (.middle 0) 8 8 ++ denseResidual (.middle 1) 8 8 ++
  denseResidual (.up 0 0) 16 8 ++ denseResidual (.up 0 1) 8 8 ++
  denseModule (.upsample 0) [8, 8, 4] ++
  denseModule .finalConv [8, 8, 3] ++ denseModule .finalNorm [8] ++ denseModule .output [1, 8, 1]

private def twoStagesConfig : DiffusionConfig where
  actionDim := 1
  horizon := 2
  actionSteps := 1
  observationSteps := 1
  conditionDim := 1
  stages := 2
  kernel := 3
  groups := 8
  timestepDim := 4
  trainTimesteps := 1
  dims := [8, 8]

/-- A workspace of exactly the planned size, at an address that is a multiple of four only. -/
theorem workspace_sufficient_unaligned :
    requiredWorkspaceFloats twoStages = 468 ∧
    (sample { config := twoStagesConfig, workspaceFloats := 468 } 1 2 2 1 true 4100 468).1 = true :=
  ⟨by decide +kernel, ((workspace_sufficient
    (show (construct twoStages { arena := { cursor := 64, limit := 8192 } }).1 =
      some { config := twoStagesConfig, workspaceFloats := 468 } by decide +kernel)
    (by decide : 0 < 4100) (by decide) (by decide)
    (by decide +kernel : requiredWorkspaceFloats twoStages ≤ 468)).2 1 2 2 1 true).1⟩

end Diffusion

end FlowEdge
