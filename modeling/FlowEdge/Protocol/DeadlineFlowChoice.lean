import FlowEdge.Protocol.DeadlineFlow

/-!
# The choice of the selector

What a selector chooses, in exact numbers: a plan that fits the context, of the highest quality
among those, and the fastest of that quality. A wider context never lowers the quality. The
estimates stay between the calibrated times and the observed ones.
-/

namespace FlowEdge

open Words BestChoice

namespace FloatValue

theorem lt_irrefl (value : FloatValue) : value.lt value = false := by
  cases value <;> simp [lt]

variable {left middle right : FloatValue}

theorem lt_trans (first : left.lt middle = true) (second : middle.lt right = true) :
    left.lt right = true := by
  cases left <;> cases middle <;> cases right <;> simp_all [lt]
  linarith

theorem lt_of_lt_of_same (first : left.lt middle = true) (second : middle.same right = true) :
    left.lt right = true := by
  cases left <;> cases middle <;> cases right <;> simp_all [lt, same]

theorem lt_of_same_of_lt (first : left.same middle = true) (second : middle.lt right = true) :
    left.lt right = true := by
  cases left <;> cases middle <;> cases right <;> simp_all [lt, same]

theorem same_trans (first : left.same middle = true) (second : middle.same right = true) :
    left.same right = true := by
  cases left <;> cases middle <;> cases right <;> simp_all [same]

theorem same_symm (same : left.same right = true) : right.same left = true := by
  cases left <;> cases right <;> simp_all [FloatValue.same]

end FloatValue

/-- A valid quality as a number. -/
theorem validQuality_iff {quality : FloatValue} :
    validQuality quality = true ↔
      ∃ value : ℚ, quality = .finite value ∧ 0 ≤ value ∧ value ≤ 1 := by
  cases quality <;> simp [validQuality, FloatValue.isFinite, FloatValue.lt]

namespace DeadlineFlow

/-! ## Portfolios and calls -/

theorem addPlan_eq_ok {result next : DeadlineFlow} {plan : ExecutionPlan}
    (added : addPlan result plan = .ok next) :
    validPlan plan = true ∧ (∀ entry ∈ result.entries, entry.plan.id ≠ plan.id) ∧
      next = { result with entries := result.entries ++ [⟨plan, plan.latencyNs⟩] } := by
  simp only [addPlan, ite_error_eq_ok, not_not] at added
  obtain ⟨valid, fresh, added⟩ := added
  refine ⟨valid, fun entry member same => fresh ?_, (Except.ok.inj added).symm⟩
  rw [List.any_eq_true]
  exact ⟨entry, member, decide_eq_true same⟩

/-- The loop of `create` keeps the plans in order, each with its calibrated time. -/
theorem foldlM_addPlan {plans : List ExecutionPlan} {result flow : DeadlineFlow}
    (created : plans.foldlM addPlan result = .ok flow) :
    flow.last = result.last ∧
      flow.entries = result.entries ++ plans.map (fun plan => ⟨plan, plan.latencyNs⟩) ∧
      (∀ plan ∈ plans, validPlan plan = true) ∧
      ((result.entries.map (·.plan.id)).Nodup →
        (result.entries.map (·.plan.id) ++ plans.map (·.id)).Nodup) := by
  induction plans generalizing result with
  | nil =>
      cases created
      simp
  | cons plan rest ih =>
      rw [List.foldlM_cons] at created
      cases added : addPlan result plan with
      | error error =>
          rw [added] at created
          cases created
      | ok next =>
          rw [added] at created
          obtain ⟨valid, fresh, rfl⟩ := addPlan_eq_ok added
          obtain ⟨last, entries, others, distinct⟩ := ih created
          rw [List.append_assoc] at entries
          refine ⟨last, entries, List.forall_mem_cons.mpr ⟨valid, others⟩, fun nodup => ?_⟩
          rw [List.map_append, List.append_assoc] at distinct
          refine distinct (List.nodup_append.mpr ⟨nodup, List.nodup_singleton _, ?_⟩)
          intro id member other only
          obtain ⟨entry, inside, rfl⟩ := List.mem_map.mp member
          rw [List.map_singleton, List.mem_singleton] at only
          rw [only]
          exact fresh entry inside

/-- What `create` accepts. -/
theorem create_eq_ok {plans : List ExecutionPlan} {flow : DeadlineFlow}
    (created : create plans = .ok flow) :
    flow.last = none ∧ flow.entries = plans.map (fun plan => ⟨plan, plan.latencyNs⟩) ∧
      (∀ plan ∈ plans, validPlan plan = true) ∧ (plans.map (·.id)).Nodup := by
  unfold create at created
  split at created
  · cases created
  · obtain ⟨last, entries, valid, distinct⟩ := foldlM_addPlan created
    exact ⟨last, entries, valid, distinct List.nodup_nil⟩

/-- The estimate of a plan behind an observation. -/
def PlanEntry.raised (entry : PlanEntry) (latencyNs : UInt64) : PlanEntry :=
  { entry with
    estimate := max entry.plan.latencyNs (max latencyNs (entry.estimate - entry.estimate / 8)) }

/-- With different names, an observation changes the entry of its plan. -/
theorem observeEntries_eq {id : UInt32} {latencyNs : UInt64} {entries : List PlanEntry}
    (distinct : (entries.map (·.plan.id)).Nodup) :
    observeEntries id latencyNs entries =
      if entries.any (·.plan.id = id) then
        some (entries.map fun entry =>
          if entry.plan.id = id then PlanEntry.raised entry latencyNs else entry)
      else none := by
  induction entries with
  | nil => rfl
  | cons entry rest ih =>
      rw [List.map_cons, List.nodup_cons] at distinct
      rw [observeEntries, List.any_cons, List.map_cons]
      by_cases named : entry.plan.id = id
      · have others : rest.map (fun entry =>
            if entry.plan.id = id then PlanEntry.raised entry latencyNs else entry) = rest := by
          refine (List.map_congr_left fun other member => if_neg fun same => ?_).trans
            (List.map_id rest)
          exact distinct.1 (List.mem_map.mpr ⟨other, member, same.trans named.symm⟩)
        rw [if_neg (not_not.mpr named), if_pos named, others]
        simp [named, PlanEntry.raised]
      · rw [if_pos named, if_neg named, ih distinct.2]
        simp only [decide_eq_false named, Bool.false_or]
        split <;> rfl

/-! ## Estimates -/

/-- The estimate of a plan after some observations of it. -/
structure Bounded (entry : PlanEntry) (observed : List UInt64) : Prop where
  calibrated : entry.plan.latencyNs ≤ entry.estimate
  highest : entry.estimate.toNat ≤
    (observed.map UInt64.toNat).foldl max entry.plan.latencyNs.toNat
  latest : ∀ latencyNs, observed.getLast? = some latencyNs → latencyNs ≤ entry.estimate

theorem toNat_raised (entry : PlanEntry) (latencyNs : UInt64) :
    (PlanEntry.raised entry latencyNs).estimate.toNat =
      max entry.plan.latencyNs.toNat
        (max latencyNs.toNat (entry.estimate.toNat - entry.estimate.toNat / 8)) := by
  have eighth : entry.estimate / 8 ≤ entry.estimate := by
    rw [UInt64.le_iff_toNat_le, UInt64.toNat_div]
    exact Nat.div_le_self _ _
  rw [PlanEntry.raised, UInt64.toNat_max, UInt64.toNat_max, UInt64.toNat_sub_of_le _ _ eighth,
    UInt64.toNat_div]
  rfl

theorem Bounded.raised {entry : PlanEntry} {observed : List UInt64}
    (bounded : Bounded entry observed) (latencyNs : UInt64) :
    Bounded (PlanEntry.raised entry latencyNs) (observed ++ [latencyNs]) := by
  have raised := toNat_raised entry latencyNs
  have highest := bounded.highest
  refine ⟨?_, ?_, ?_⟩
  · rw [UInt64.le_iff_toNat_le, raised]
    exact Nat.le_max_left _ _
  · rw [raised, List.map_append, List.foldl_append]
    change _ ≤ max ((observed.map UInt64.toNat).foldl max entry.plan.latencyNs.toNat)
      latencyNs.toNat
    have calibrated := UInt64.le_iff_toNat_le.mp bounded.calibrated
    omega
  · intro latest last
    rw [List.getLast?_concat, Option.some.injEq] at last
    rw [UInt64.le_iff_toNat_le, raised, ← last]
    omega

/-- A selector after some calls. -/
structure Tracks (plans : List ExecutionPlan) (calls : List Call) (flow : DeadlineFlow) : Prop where
  order : flow.entries.map (·.plan) = plans
  last : flow.last = lastObserved plans calls
  estimates : ∀ entry ∈ flow.entries, Bounded entry (observations entry.plan.id calls)

section Runs

variable {plans : List ExecutionPlan} {calls : List Call} {flow : DeadlineFlow}

theorem tracks_create (created : create plans = .ok flow) : Tracks plans [] flow := by
  obtain ⟨last, entries, -, -⟩ := create_eq_ok created
  refine ⟨?_, last, ?_⟩
  · rw [entries, List.map_map]
    exact List.map_id plans
  · rw [entries]
    intro entry member
    obtain ⟨plan, -, rfl⟩ := List.mem_map.mp member
    exact ⟨UInt64.le_refl _, Nat.le_refl _, fun _ none => by cases none⟩

/-- What a call of `observe` does. -/
theorem observe_eq (distinct : (flow.entries.map (·.plan.id)).Nodup) (id : UInt32)
    (latencyNs : UInt64) :
    flow.observe id latencyNs =
      if latencyNs ≠ 0 ∧ flow.entries.any (·.plan.id = id) then
        (true, {
          entries := flow.entries.map fun entry =>
            if entry.plan.id = id then PlanEntry.raised entry latencyNs else entry
          last := some id })
      else (false, flow) := by
  unfold observe
  rw [observeEntries_eq distinct]
  by_cases zero : latencyNs = 0
  · simp [zero]
  · by_cases named : flow.entries.any (·.plan.id = id) = true
    · simp [zero, named]
    · simp [zero, named]

theorem observations_observe (id observed : UInt32) (latencyNs : UInt64) :
    observations id (calls ++ [.observe observed latencyNs]) =
      observations id calls ++ if observed = id ∧ latencyNs ≠ 0 then [latencyNs] else [] := by
  rw [observations, List.filterMap_append, List.filterMap_cons]
  dsimp only
  by_cases taken : observed = id ∧ latencyNs ≠ 0
  · rw [if_pos taken, if_pos taken]
    rfl
  · rw [if_neg taken, if_neg taken]
    rfl

theorem lastObserved_observe (observed : UInt32) (latencyNs : UInt64) :
    lastObserved plans (calls ++ [.observe observed latencyNs]) =
      if latencyNs ≠ 0 ∧ plans.any (·.id = observed) then some observed
      else lastObserved plans calls := by
  rw [lastObserved, List.filterMap_append, List.filterMap_cons]
  dsimp only
  by_cases taken : latencyNs ≠ 0 ∧ (plans.any (·.id = observed)) = true
  · rw [if_pos taken, if_pos taken]
    exact List.getLast?_concat
  · rw [if_neg taken, if_neg taken]
    exact congrArg List.getLast? (List.append_nil _)

theorem Tracks.ids (tracks : Tracks plans calls flow) :
    flow.entries.map (·.plan.id) = plans.map (·.id) := by
  rw [← tracks.order, List.map_map]
  rfl

theorem Tracks.call (tracks : Tracks plans calls flow) (distinct : (plans.map (·.id)).Nodup)
    (next : Call) : Tracks plans (calls ++ [next]) (flow.call next) := by
  cases next with
  | select =>
      refine ⟨tracks.order, ?_, ?_⟩
      · rw [lastObserved, List.filterMap_append]
        exact tracks.last.trans (congrArg List.getLast? (List.append_nil _).symm)
      · intro entry member
        rw [observations, List.filterMap_append]
        exact (List.append_nil (observations entry.plan.id calls)).symm ▸
          tracks.estimates entry member
  | observe id latencyNs =>
      have known : flow.entries.any (·.plan.id = id) = plans.any (·.id = id) := by
        rw [← tracks.order, List.any_map]
        rfl
      rw [DeadlineFlow.call, observe_eq (tracks.ids ▸ distinct), known]
      split
      · next taken =>
          refine ⟨?_, ?_, ?_⟩
          · rw [List.map_map, ← tracks.order]
            refine List.map_congr_left fun entry _ => ?_
            dsimp only [Function.comp_apply]
            split <;> rfl
          · rw [lastObserved_observe, if_pos taken]
          · intro changed member
            obtain ⟨entry, inside, rfl⟩ := List.mem_map.mp member
            have bounded := tracks.estimates entry inside
            split
            · next named =>
                rw [PlanEntry.raised, observations_observe, if_pos ⟨named.symm, taken.1⟩]
                exact bounded.raised latencyNs
            · next other =>
                rw [observations_observe, if_neg fun both => other both.1.symm, List.append_nil]
                exact bounded
      · next refused =>
          refine ⟨tracks.order, ?_, ?_⟩
          · rw [lastObserved_observe, if_neg refused]
            exact tracks.last
          · intro entry member
            have ignored : ¬ (id = entry.plan.id ∧ latencyNs ≠ 0) := by
              rintro ⟨rfl, some⟩
              refine refused ⟨some, ?_⟩
              rw [← known, List.any_eq_true]
              exact ⟨entry, member, decide_eq_true rfl⟩
            rw [observations_observe, if_neg ignored, List.append_nil]
            exact tracks.estimates entry member

theorem tracks_run (created : create plans = .ok flow) (calls : List Call) :
    Tracks plans calls (flow.run calls) := by
  induction calls using List.reverseRecOn with
  | nil => exact tracks_create created
  | append_singleton calls next ih =>
      rw [run, List.foldl_append]
      exact ih.call (create_eq_ok created).2.2.2 next

end Runs

/-! ## Budgets -/

/-- The time that a context leaves, in exact numbers. -/
def exactBudget (context : PlanContext) : Nat :=
  if context.bufferedActions = 0 then context.slackNs.toNat
  else min context.slackNs.toNat (context.bufferedActions.toNat * context.periodNs.toNat)

theorem toNat_budget (context : PlanContext) : (budget context).toNat = exactBudget context := by
  have product : (bufferNs context).toNat =
      min (context.bufferedActions.toNat * context.periodNs.toNat) (2 ^ 64 - 1) :=
    toNat_saturatingMultiply context.bufferedActions context.periodNs
  have slack := toNat_le_maxWord context.slackNs
  unfold budget exactBudget
  split
  · rfl
  · rw [UInt64.toNat_min, product]
    omega

/-- A context that a selector answers at all. -/
def Usable (context : PlanContext) : Prop :=
  context.healthy = true ∧
    ∃ minimum : ℚ, context.minimumQuality = .finite minimum ∧ 0 ≤ minimum ∧ minimum ≤ 1

/-- A plan that is allowed in a context and ready in time. -/
structure Fits (flow : DeadlineFlow) (context : PlanContext) (entry : PlanEntry) : Prop where
  hardware : entry.plan.hardwareMask &&& context.hardwareMask = entry.plan.hardwareMask
  memory : entry.plan.memoryBytes ≤ context.availableMemoryBytes
  quality : context.minimumQuality.toRat ≤ entry.plan.quality.toRat
  time : entry.estimate.toNat + (switching flow context entry.plan.id).toNat +
    context.reserveNs.toNat ≤ exactBudget context

section Choice

variable (flow : DeadlineFlow) (context : PlanContext)

/-- The tests of a round of `select`. -/
def admits (entry : PlanEntry) : Bool :=
  ¬ (entry.plan.hardwareMask &&& context.hardwareMask ≠ entry.plan.hardwareMask ∨
      entry.plan.memoryBytes > context.availableMemoryBytes ∨
      entry.plan.quality.lt context.minimumQuality) ∧
    ¬ (switching flow context entry.plan.id > budget context - context.reserveNs ∨
      entry.estimate > budget context - context.reserveNs - switching flow context entry.plan.id)

def cost (entry : PlanEntry) : UInt64 := entry.estimate + switching flow context entry.plan.id

/-- An entry of a higher quality, or of the same and a lower cost. -/
def Better (entry best : PlanEntry) : Prop :=
  best.plan.quality.lt entry.plan.quality = true ∨
    (entry.plan.quality.same best.plan.quality = true ∧
      cost flow context entry < cost flow context best)

instance : DecidableRel (Better flow context) := fun entry best =>
  inferInstanceAs (Decidable (best.plan.quality.lt entry.plan.quality = true ∨
    (entry.plan.quality.same best.plan.quality = true ∧
      cost flow context entry < cost flow context best)))

instance : IsStrictOrder PlanEntry (Better flow context) where
  irrefl entry := by
    rintro (higher | ⟨-, cheaper⟩)
    · rw [FloatValue.lt_irrefl] at higher
      cases higher
    · exact UInt64.lt_irrefl _ cheaper
  trans first second third := by
    rintro (higher | ⟨same, cheaper⟩) (lower | ⟨equal, less⟩)
    · exact .inl (FloatValue.lt_trans lower higher)
    · exact .inl (FloatValue.lt_of_same_of_lt (FloatValue.same_symm equal) higher)
    · exact .inl (FloatValue.lt_of_lt_of_same lower (FloatValue.same_symm same))
    · exact .inr ⟨FloatValue.same_trans same equal, UInt64.lt_trans cheaper less⟩

/-- The loop of `select` keeps the best of the entries that it admits. -/
theorem foldl_consider (entries : List PlanEntry) (best : Option PlanEntry) (bestCost : UInt64)
    (cached : ∀ entry, best = some entry → bestCost = cost flow context entry) :
    (entries.foldl (consider flow context) (best, bestCost)).1 =
      (entries.filter (admits flow context)).foldl (improve (Better flow context)) best := by
  induction entries generalizing best bestCost with
  | nil => rfl
  | cons entry rest ih =>
      rw [List.foldl_cons, List.filter_cons]
      by_cases admitted : admits flow context entry = true
      · rw [if_pos admitted, List.foldl_cons]
        rw [admits, decide_eq_true_eq] at admitted
        rw [consider, if_neg admitted.1]
        dsimp only
        rw [if_neg admitted.2]
        cases best with
        | none =>
            refine ih (some entry) _ fun other same => ?_
            rw [← Option.some.inj same]
            rfl
        | some current =>
            rw [cached current rfl, improve]
            change (rest.foldl (consider flow context)
              (if Better flow context entry current then (some entry, cost flow context entry)
              else (some current, cost flow context current))).1 = _
            split
            · refine ih (some entry) _ fun other same => ?_
              rw [← Option.some.inj same]
            · refine ih (some current) _ fun other same => ?_
              rw [← Option.some.inj same]
      · rw [if_neg admitted]
        rw [admits, decide_eq_true_eq, not_and_or, not_not, not_not] at admitted
        have skipped : consider flow context (best, bestCost) entry = (best, bestCost) := by
          unfold consider
          dsimp only
          split
          · rfl
          next allowed =>
          rw [if_pos (admitted.resolve_left allowed)]
        rw [skipped]
        exact ih best bestCost cached

variable {flow context}

/-- In a usable context that leaves some time, the tests of `select` are exact. -/
theorem admits_iff {minimum quality : ℚ} (some : context.reserveNs < budget context)
    (usable : context.minimumQuality = .finite minimum) {entry : PlanEntry}
    (valid : entry.plan.quality = .finite quality) :
    admits flow context entry = true ↔ Fits flow context entry := by
  have exact_ := toNat_budget context
  have left : (budget context - context.reserveNs).toNat =
      (budget context).toNat - context.reserveNs.toNat :=
    UInt64.toNat_sub_of_le _ _ (UInt64.le_of_lt some)
  rw [UInt64.lt_iff_toNat_lt] at some
  rw [admits, decide_eq_true_eq]
  simp only [not_or, not_not, gt_iff_lt, UInt64.not_lt, usable, valid, FloatValue.lt_finite,
    decide_eq_true_eq, not_lt]
  constructor
  · rintro ⟨⟨hardware, memory, high⟩, switched, ready⟩
    refine ⟨hardware, memory, ?_, ?_⟩
    · rw [usable, valid]
      exact high
    · rw [UInt64.le_iff_toNat_le, UInt64.toNat_sub_of_le _ _ switched, left] at ready
      rw [UInt64.le_iff_toNat_le, left] at switched
      omega
  · rintro ⟨hardware, memory, high, time⟩
    rw [usable, valid] at high
    have switched : switching flow context entry.plan.id ≤ budget context - context.reserveNs := by
      rw [UInt64.le_iff_toNat_le, left]
      omega
    refine ⟨⟨hardware, memory, high⟩, switched, ?_⟩
    rw [UInt64.le_iff_toNat_le, UInt64.toNat_sub_of_le _ _ switched, left]
    omega

/-- A plan that fits leaves time for the reserve. -/
theorem Fits.reserve_lt {entry : PlanEntry} (fits : Fits flow context entry)
    (positive : entry.estimate ≠ 0) : context.reserveNs < budget context := by
  have time := fits.time
  have some : 0 < entry.estimate.toNat :=
    Nat.pos_of_ne_zero fun zero => positive (UInt64.toNat_inj.mp zero)
  rw [UInt64.lt_iff_toNat_lt, toNat_budget]
  omega

/-- The costs of plans that fit, in exact numbers. -/
theorem Fits.toNat_cost {entry : PlanEntry} (fits : Fits flow context entry) :
    (cost flow context entry).toNat =
      entry.estimate.toNat + (switching flow context entry.plan.id).toNat := by
  have time := fits.time
  have bound := (budget context).toNat_lt
  rw [toNat_budget] at bound
  rw [cost, UInt64.toNat_add, Nat.mod_eq_of_lt (by omega)]

/-- The entries of a selector: plans with a number as their quality, that take some time. -/
structure WellFormed (flow : DeadlineFlow) : Prop where
  quality : ∀ entry ∈ flow.entries, ∃ value : ℚ, entry.plan.quality = .finite value
  estimate : ∀ entry ∈ flow.entries, entry.estimate ≠ 0

/-- A plan that fits, of the highest quality and the least cost among those. -/
structure Chosen (flow : DeadlineFlow) (context : PlanContext) (entry : PlanEntry) : Prop where
  member : entry ∈ flow.entries
  fits : Fits flow context entry
  highest : ∀ other ∈ flow.entries, Fits flow context other →
    other.plan.quality.toRat ≤ entry.plan.quality.toRat
  fastest : ∀ other ∈ flow.entries, Fits flow context other →
    other.plan.quality.toRat = entry.plan.quality.toRat →
    entry.estimate.toNat + (switching flow context entry.plan.id).toNat ≤
      other.estimate.toNat + (switching flow context other.plan.id).toNat

/-- What `select` answers. -/
theorem select_cases (wellFormed : WellFormed flow) (context : PlanContext) :
    (flow.select context = none ∧
        ¬ (Usable context ∧ ∃ entry ∈ flow.entries, Fits flow context entry)) ∨
      ∃ entry, flow.select context = some entry.plan.id ∧ Usable context ∧
        Chosen flow context entry := by
  unfold select
  by_cases usable : ¬ context.healthy = true ∨ ¬ validQuality context.minimumQuality = true
  · refine .inl ⟨if_pos usable, ?_⟩
    rintro ⟨⟨healthy, minimum⟩, -⟩
    exact usable.elim (· healthy) (· (validQuality_iff.mpr minimum))
  rw [if_neg usable]
  rw [not_or, not_not, not_not, validQuality_iff] at usable
  obtain ⟨healthy, minimum, given, range⟩ := usable
  by_cases short : budget context ≤ context.reserveNs
  · refine .inl ⟨if_pos short, ?_⟩
    rintro ⟨-, entry, member, fits⟩
    have enough := fits.reserve_lt (wellFormed.estimate entry member)
    rw [UInt64.lt_iff_toNat_lt] at enough
    rw [UInt64.le_iff_toNat_le] at short
    omega
  rw [if_neg short, foldl_consider _ _ _ _ _ fun _ none => by cases none]
  rw [UInt64.not_le] at short
  have admitted : ∀ entry ∈ flow.entries,
      (admits flow context entry = true ↔ Fits flow context entry) := by
    intro entry member
    obtain ⟨quality, valid⟩ := wellFormed.quality entry member
    exact admits_iff short given valid
  have best := best_spec (Better flow context) (flow.entries.filter (admits flow context))
  rw [BestChoice.best] at best
  rcases best with ⟨nothing, none⟩ | ⟨entry, chosen, isBest⟩
  · refine .inl ⟨by rw [none]; rfl, ?_⟩
    rintro ⟨-, entry, member, fits⟩
    have filtered := List.mem_filter.mpr ⟨member, (admitted entry member).mpr fits⟩
    rw [nothing] at filtered
    cases filtered
  · obtain ⟨member, inside⟩ := List.mem_filter.mp isBest.member
    have fits := (admitted entry member).mp inside
    obtain ⟨quality, valid⟩ := wellFormed.quality entry member
    have unbeaten : ∀ other ∈ flow.entries, Fits flow context other →
        ¬ Better flow context other entry := fun other found fitting =>
      isBest.unbeaten other (List.mem_filter.mpr ⟨found, (admitted other found).mpr fitting⟩)
    refine .inr ⟨entry, by rw [chosen]; rfl, ⟨healthy, minimum, given, range⟩, member, fits, ?_, ?_⟩
    · intro other found fitting
      obtain ⟨value, good⟩ := wellFormed.quality other found
      by_contra higher
      refine unbeaten other found fitting (.inl ?_)
      rw [good, valid] at higher ⊢
      exact decide_eq_true (not_le.mp higher)
    · intro other found fitting same
      obtain ⟨value, good⟩ := wellFormed.quality other found
      rw [← fits.toNat_cost, ← fitting.toNat_cost]
      by_contra cheaper
      refine unbeaten other found fitting (.inr ⟨?_, ?_⟩)
      · rw [good, valid] at same ⊢
        exact decide_eq_true same
      · rw [UInt64.lt_iff_toNat_lt]
        omega

end Choice

/-! ## Wider contexts -/

/-- A context that leaves more: more slack, buffered actions (if there were some), memory and
hardware, and less reserve, switching time and quality asked for. -/
structure Wider (context larger : PlanContext) : Prop where
  slack : context.slackNs ≤ larger.slackNs
  buffered : larger.bufferedActions = context.bufferedActions ∨
    (context.bufferedActions ≠ 0 ∧ context.bufferedActions ≤ larger.bufferedActions)
  period : larger.periodNs = context.periodNs
  reserve : larger.reserveNs ≤ context.reserveNs
  switch : larger.switchNs ≤ context.switchNs
  memory : context.availableMemoryBytes ≤ larger.availableMemoryBytes
  hardware : context.hardwareMask &&& larger.hardwareMask = context.hardwareMask
  quality : larger.minimumQuality = context.minimumQuality ∨
    larger.minimumQuality.lt context.minimumQuality = true
  healthy : larger.healthy = context.healthy

section Widening

variable {context larger : PlanContext} {flow : DeadlineFlow} {entry : PlanEntry}

theorem Wider.exactBudget_le (wider : Wider context larger) :
    exactBudget context ≤ exactBudget larger := by
  have slack := UInt64.le_iff_toNat_le.mp wider.slack
  unfold exactBudget
  rw [wider.period]
  rcases wider.buffered with same | ⟨some, more⟩
  · rw [same]
    split
    · exact slack
    · exact min_le_min_right _ slack
  · have positive : larger.bufferedActions ≠ 0 := by
      intro none
      rw [none, UInt64.le_zero_iff] at more
      exact some more
    rw [if_neg some, if_neg positive]
    exact min_le_min slack (Nat.mul_le_mul_right _ (UInt64.le_iff_toNat_le.mp more))

theorem Wider.switching_le (wider : Wider context larger) (id : UInt32) :
    (switching flow larger id).toNat ≤ (switching flow context id).toNat := by
  unfold switching
  split
  · split
    · exact UInt64.le_iff_toNat_le.mp wider.switch
    · exact Nat.le_refl _
  · exact Nat.le_refl _

theorem Wider.minimum_le (wider : Wider context larger) (given : Usable context)
    (usable : Usable larger) :
    larger.minimumQuality.toRat ≤ context.minimumQuality.toRat := by
  obtain ⟨-, minimum, asked, -⟩ := given
  obtain ⟨-, lower, lowered, -⟩ := usable
  have quality := wider.quality
  rw [asked, lowered] at quality ⊢
  rcases quality with same | less
  · rw [same]
  · exact (of_decide_eq_true less).le

/-- What fits a context fits a wider one. -/
theorem Fits.wider (fits : Fits flow context entry) (wider : Wider context larger)
    (minimum : larger.minimumQuality.toRat ≤ context.minimumQuality.toRat) :
    Fits flow larger entry where
  hardware := by
    rw [← fits.hardware, UInt64.and_assoc, wider.hardware]
  memory := UInt64.le_trans fits.memory wider.memory
  quality := minimum.trans fits.quality
  time := by
    have time := fits.time
    have more := wider.exactBudget_le
    have switched := @Wider.switching_le context larger flow wider entry.plan.id
    have reserve := UInt64.le_iff_toNat_le.mp wider.reserve
    omega

end Widening

/-! ## Runs -/

section Results

variable {plans : List ExecutionPlan} {flow : DeadlineFlow}

theorem wellFormed_run (created : create plans = .ok flow) (calls : List Call) :
    WellFormed (flow.run calls) := by
  have tracks := tracks_run created calls
  have valid : ∀ entry ∈ (flow.run calls).entries, validPlan entry.plan = true := by
    intro entry member
    refine (create_eq_ok created).2.2.1 entry.plan ?_
    rw [← tracks.order]
    exact List.mem_map_of_mem member
  refine ⟨fun entry member => ?_, fun entry member none => ?_⟩
  · have good := valid entry member
    rw [validPlan, decide_eq_true_eq] at good
    obtain ⟨value, same, -⟩ := validQuality_iff.mp good.2.2.2
    exact ⟨value, same⟩
  · have good := valid entry member
    rw [validPlan, decide_eq_true_eq] at good
    have calibrated := (tracks.estimates entry member).calibrated
    rw [none, UInt64.le_zero_iff] at calibrated
    exact good.2.1 calibrated

/-- **The choice is optimal and monotone.** In every state of a selector, a plan is chosen exactly
if the context is usable and some plan fits; it is the fastest one of the highest quality; and a
wider usable context gets a plan that is not of a lower quality. -/
theorem select_optimal (created : create plans = .ok flow) (calls : List Call) :
    (∀ context, (flow.run calls).select context ≠ none ↔
        Usable context ∧ ∃ entry ∈ (flow.run calls).entries, Fits (flow.run calls) context entry) ∧
      (∀ context id, (flow.run calls).select context = some id →
        ∃ entry, entry.plan.id = id ∧ Chosen (flow.run calls) context entry) ∧
      ∀ context larger id, Wider context larger → Usable larger →
        (flow.run calls).select context = some id →
        ∃ entry ∈ (flow.run calls).entries, entry.plan.id = id ∧
          ∃ next ∈ (flow.run calls).entries,
            (flow.run calls).select larger = some next.plan.id ∧
              entry.plan.quality.toRat ≤ next.plan.quality.toRat := by
  have wellFormed := wellFormed_run created calls
  generalize flow.run calls = reached at wellFormed ⊢
  have chosen : ∀ {context id}, reached.select context = some id →
      ∃ entry, entry.plan.id = id ∧ Usable context ∧ Chosen reached context entry := by
    intro context id answer
    rcases select_cases wellFormed context with ⟨none, -⟩ | ⟨entry, found, usable, best⟩
    · rw [none] at answer
      cases answer
    · rw [found] at answer
      exact ⟨entry, Option.some.inj answer, usable, best⟩
  refine ⟨fun context => ?_, fun context id answer => ?_, ?_⟩
  · rcases select_cases wellFormed context with ⟨none, nothing⟩ | ⟨entry, found, usable, best⟩
    · exact ⟨fun answered => absurd none answered, fun fitting => absurd fitting nothing⟩
    · rw [found]
      exact ⟨fun _ => ⟨usable, entry, best.member, best.fits⟩, fun _ => Option.some_ne_none _⟩
  · obtain ⟨entry, named, -, best⟩ := chosen answer
    exact ⟨entry, named, best⟩
  · intro context larger id wider usable answer
    obtain ⟨entry, named, given, best⟩ := chosen answer
    have fits := best.fits.wider wider (wider.minimum_le given usable)
    rcases select_cases wellFormed larger with ⟨-, nothing⟩ | ⟨next, found, -, better⟩
    · exact absurd ⟨usable, entry, best.member, fits⟩ nothing
    · exact ⟨entry, best.member, named, next, better.member, found,
        better.highest entry best.member fits⟩

end Results

private def fastPlan : ExecutionPlan where
  id := 1
  steps := 1
  latencyNs := 10
  memoryBytes := 0
  quality := .finite (1 / 2)

private def finePlan : ExecutionPlan where
  id := 2
  steps := 4
  latencyNs := 40
  memoryBytes := 0
  quality := .finite 1

private def twoPlans : DeadlineFlow where
  entries := [⟨fastPlan, 10⟩, ⟨finePlan, 40⟩]

/-- A context with some slack, for a least quality. -/
private def slackContext (slackNs : UInt64) (minimumQuality : FloatValue) : PlanContext where
  slackNs := slackNs
  bufferedActions := 0
  periodNs := 0
  reserveNs := 5
  switchNs := 0
  minimumQuality := minimumQuality

theorem select_optimal_two :
    create [fastPlan, finePlan] = .ok twoPlans ∧
      twoPlans.select (slackContext 20 (.finite 0)) = some 1 ∧
      ∃ entry ∈ (twoPlans.run []).entries, entry.plan.id = 1 ∧
        ∃ next ∈ (twoPlans.run []).entries,
          (twoPlans.run []).select (slackContext 50 (.finite 0)) = some next.plan.id ∧
            entry.plan.quality.toRat ≤ next.plan.quality.toRat := by
  have created : create [fastPlan, finePlan] = .ok twoPlans := by decide +kernel
  have wider : Wider (slackContext 20 (.finite 0)) (slackContext 50 (.finite 0)) := {
    slack := by decide
    buffered := .inl rfl
    period := rfl
    reserve := UInt64.le_refl _
    switch := UInt64.le_refl _
    memory := UInt64.le_refl _
    hardware := by decide
    quality := .inl rfl
    healthy := rfl }
  exact ⟨created, by decide +kernel, (select_optimal created []).2.2 _ _ 1 wider
    ⟨rfl, 0, rfl, le_refl 0, zero_le_one⟩ (by decide +kernel)⟩

/-- A least quality that is lowered below zero is refused, and so is the context. -/
theorem select_below_zero :
    create [fastPlan, finePlan] = .ok twoPlans ∧
      Wider (slackContext 20 (.finite 0)) (slackContext 20 (.finite (-1 / 2))) ∧
      twoPlans.select (slackContext 20 (.finite 0)) = some 1 ∧
      twoPlans.select (slackContext 20 (.finite (-1 / 2))) = none := by
  refine ⟨by decide +kernel, ?_, by decide +kernel, by decide +kernel⟩
  exact {
    slack := UInt64.le_refl _
    buffered := .inl rfl
    period := rfl
    reserve := UInt64.le_refl _
    switch := UInt64.le_refl _
    memory := UInt64.le_refl _
    hardware := by decide
    quality := .inr (by decide +kernel)
    healthy := rfl }

/-- **No plan is chosen that is known to be too slow.** After any calls, the estimate of a plan is
between its calibrated time and the highest of this and the observed times, and is not below the
last observed time. A plan is chosen only if the last observed time, the calibrated time, the time
for switching and the reserve are within the budget of the context, in exact numbers. -/
theorem select_in_time {plans : List ExecutionPlan} {flow : DeadlineFlow}
    (created : create plans = .ok flow) (calls : List Call) :
    (flow.run calls).entries.map (·.plan) = plans ∧
      (∀ entry ∈ (flow.run calls).entries,
        entry.plan.latencyNs.toNat ≤ entry.estimate.toNat ∧
          entry.estimate.toNat ≤ ((observations entry.plan.id calls).map UInt64.toNat).foldl max
            entry.plan.latencyNs.toNat ∧
          ∀ latest, (observations entry.plan.id calls).getLast? = some latest →
            latest.toNat ≤ entry.estimate.toNat) ∧
      ∀ context id, (flow.run calls).select context = some id →
        ∃ plan ∈ plans, plan.id = id ∧
          max plan.latencyNs.toNat (((observations id calls).getLast?.map UInt64.toNat).getD 0) +
              (if lastObserved plans calls = none ∨ lastObserved plans calls = some id then 0
              else context.switchNs.toNat) +
              context.reserveNs.toNat ≤
            if context.bufferedActions = 0 then context.slackNs.toNat
            else min context.slackNs.toNat
              (context.bufferedActions.toNat * context.periodNs.toNat) := by
  have tracks := tracks_run created calls
  have wellFormed := wellFormed_run created calls
  refine ⟨tracks.order, fun entry member => ?_, fun context id answer => ?_⟩
  · have bounded := tracks.estimates entry member
    exact ⟨UInt64.le_iff_toNat_le.mp bounded.calibrated, bounded.highest,
      fun latest last => UInt64.le_iff_toNat_le.mp (bounded.latest latest last)⟩
  · rcases select_cases wellFormed context with ⟨none, -⟩ | ⟨entry, found, -, best⟩
    · rw [none] at answer
      cases answer
    rw [found] at answer
    obtain rfl := Option.some.inj answer
    refine ⟨entry.plan, ?_, rfl, ?_⟩
    · rw [← tracks.order]
      exact List.mem_map_of_mem best.member
    have bounded := tracks.estimates entry best.member
    have calibrated := UInt64.le_iff_toNat_le.mp bounded.calibrated
    have time := best.fits.time
    have switched : (switching (flow.run calls) context entry.plan.id).toNat =
        if lastObserved plans calls = none ∨ lastObserved plans calls = some entry.plan.id then 0
        else context.switchNs.toNat := by
      rw [switching, tracks.last]
      cases lastObserved plans calls with
      | none => rfl
      | some last =>
          by_cases same : last = entry.plan.id
          · simp [same]
          · simp [same]
    rw [switched] at time
    have latest : ((observations entry.plan.id calls).getLast?.map UInt64.toNat).getD 0 ≤
        entry.estimate.toNat := by
      cases last : (observations entry.plan.id calls).getLast? with
      | none => exact Nat.zero_le _
      | some latest => exact UInt64.le_iff_toNat_le.mp (bounded.latest latest last)
    change _ ≤ exactBudget context
    omega

theorem select_in_time_two :
    create [fastPlan, finePlan] = .ok twoPlans ∧
      (twoPlans.run [.observe 1 12]).select (slackContext 20 (.finite 0)) = some 1 ∧
      ∃ plan ∈ [fastPlan, finePlan], plan.id = 1 ∧
        max plan.latencyNs.toNat 12 + 0 + 5 ≤ 20 := by
  have created : create [fastPlan, finePlan] = .ok twoPlans := by decide +kernel
  exact ⟨created, by decide +kernel, (select_in_time created [.observe 1 12]).2.2
    (slackContext 20 (.finite 0)) 1 (by decide +kernel)⟩

end DeadlineFlow

end FlowEdge
